import CronSchedule.Number.DecimalText
import CronSchedule.Proofs.Text.Words

/-!
Numerals are read as the numbers that they stand for (`DecimalText.readInt?_digits`).
-/

namespace CronSchedule

theorem Text.trimBy_of_forall {p : Char → Bool} {s : List Char} (h : ∀ c ∈ s, p c = false) :
    trimBy p s = s := by
  have hkept {s : List Char} (h : ∀ c ∈ s, p c = false) : s.dropWhile p = s := by
    cases s with
    | nil => rfl
    | cons c s => rw [List.dropWhile_cons, h c List.mem_cons_self, if_neg Bool.false_ne_true]
  rw [trimBy, hkept h, hkept fun c hc => h c (List.mem_reverse.mp hc), List.reverse_reverse]

namespace DecimalText

variable {c : Char} {s : List Char}

theorem plainDigit_of_isDigit (h : c.isDigit = true) : plainDigit c = c := by
  obtain ⟨hfirst, hlast⟩ := Char.isDigit_iff_toNat.mp h
  have hzero : '0'.toNat = 48 := rfl
  have hnine : '9'.toNat = 57 := rfl
  have hvalue : Text.digitValue? c = some (c.toNat - 48) := by
    rw [Text.digitValue?, Text.digitZeros, List.find?_cons_of_pos]
    · rfl
    · rw [Bool.and_eq_true, decide_eq_true_iff, decide_eq_true_iff]
      omega
  apply Char.toNat_inj.mp
  rw [plainDigit, hvalue]
  simp only [Nat.toNat_digitChar_of_lt_ten (show c.toNat - 48 < 10 by omega)]
  omega

theorem plain_ofList (h : ∀ c ∈ s, c.isDigit = true) : plain (String.ofList s) = s := by
  have htrim : Text.trimBy isSurround s = s := Text.trimBy_of_forall fun c hc => by
    rw [isSurround, Text.isBlank_of_isDigit (h c hc), Bool.false_and]
  rw [plain, String.toList_ofList, htrim,
    List.map_congr_left fun c hc => plainDigit_of_isDigit (h c hc), List.map_id']

theorem dropUnderscores?_of_isDigit (h : ∀ c ∈ s, c.isDigit = true) : dropUnderscores? s = some s := by
  have hmark : '_' ∉ s := fun hmem => absurd (h '_' hmem) (by decide)
  fun_induction dropUnderscores? s with
  | case1 => rfl
  | case2 => simp at hmark
  | case3 => simp at hmark
  | case4 => simp at hmark
  | case5 => simp at hmark
  | case6 c rest _ _ _ ih =>
    rw [ih (List.forall_mem_cons.mp h).2 (List.not_mem_of_not_mem_cons hmark), Option.map_some]

theorem splitSign_of_isDigit (h : ∀ c ∈ s, c.isDigit = true) : splitSign s = (false, s) := by
  rw [splitSign.eq_def]
  split
  · exact absurd (h '-' List.mem_cons_self) (by decide)
  · exact absurd (h '+' List.mem_cons_self) (by decide)
  · rfl

theorem readInt?_digits (n : Numeral) : readInt? (String.ofList n.digits) = some (n.value : Int) := by
  have hdigits : ∀ c ∈ n.digits, c.isDigit = true := List.all_eq_true.mp n.all_isDigit
  simp only [readInt?, plain_ofList hdigits, splitSign_of_isDigit hdigits,
    dropUnderscores?_of_isDigit hdigits]
  rw [if_pos ⟨n.digits_ne_nil, n.all_isDigit, n.length_le⟩]
  rfl

end DecimalText

end CronSchedule
