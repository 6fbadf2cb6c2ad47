import CronSchedule.Proofs.Token.Grammar

/-!
What a fault is blamed on. Main statements: an element is at fault in one of its numbers, in its step or as a
range, unless it is a step that meets nothing (`Element.fault_of_read`); a token is at fault in the first of
its pieces that is empty or cannot be read (`Token.exists_part_of_fault`), and the text that a fault names is
taken from the token (`Token.elements_fails`).
-/

namespace CronSchedule

/-- The faults that numbers, steps and ranges are read with, of characters of `s`. -/
inductive Fault.IsPlain (b : Bounds) (s : List Char) : Fault → Prop
  | malformed {t : List Char} (ht : t ⊆ s) : IsPlain b s (.malformed (String.ofList t))
  | badStep {t : List Char} (ht : t ⊆ s) : IsPlain b s (.badStep (String.ofList t))
  | notNumber {t : List Char} (ht : t ⊆ s) : IsPlain b s (.notNumber (String.ofList t))
  | outOfRange {t : List Char} (ht : t ⊆ s) (n : Numeral) :
    IsPlain b s (.outOfRange (String.ofList t) n.value b.low b.high)
  | reversedRange {t : List Char} (ht : t ⊆ s) : IsPlain b s (.reversedRange (String.ofList t))

def TokenError.IsPlain (b : Bounds) (s : List Char) : TokenError → Prop
  | fault f => f.IsPlain b s
  | overlong _ => True

/-- A fault names characters of the text. -/
def TokenError.BlamesOnly (s : List Char) : TokenError → Prop
  | fault f => f.token.toList ⊆ s
  | overlong _ => True

open TokenError (IsPlain BlamesOnly)

variable {b : Bounds} {f : Fault} {s token text part : List Char}

theorem Fault.IsPlain.token_subset (h : f.IsPlain b s) : f.token.toList ⊆ s := by
  cases h with
  | malformed ht => rwa [token, String.toList_ofList]
  | badStep ht => rwa [token, String.toList_ofList]
  | notNumber ht => rwa [token, String.toList_ofList]
  | outOfRange ht n => rwa [token, String.toList_ofList]
  | reversedRange ht => rwa [token, String.toList_ofList]

namespace Numeral

theorem readWithin_fails (htoken : token ⊆ s) (htext : text ⊆ s) :
    FailsOnly (IsPlain b s) (readWithin b token text) := by
  rw [readWithin]
  split
  · exact .error (.malformed htoken)
  · split
    · exact .error (.notNumber htext)
    · exact .error trivial
    · split
      · exact .ok _
      · exact .error (.outOfRange htoken _)

theorem readStep_fails (htoken : token ⊆ s) (text : List Char) :
    FailsOnly (IsPlain b s) (readStep token text) := by
  rw [readStep]
  split
  · exact .error (.badStep htoken)
  · exact .error trivial
  · split
    · exact .error (.badStep htoken)
    · exact .ok _

end Numeral

namespace Base

theorem readSpan_fails (htext : text ⊆ s) : FailsOnly (IsPlain b s) (readSpan b text) := by
  rw [readSpan]
  split
  · next first last h =>
    have hpart : ∀ p ∈ [first, last], p ⊆ s := fun p hp =>
      List.Subset.trans (Text.isInfix_of_mem_pieces (h ▸ hp)).subset htext
    refine (Numeral.readWithin_fails htext (hpart first (by simp))).bind fun n => ?_
    refine (Numeral.readWithin_fails htext (hpart last (by simp))).bind fun m => ?_
    split
    · exact .error (.reversedRange htext)
    · exact .ok _
  · exact .error (.malformed htext)

theorem read_fails (htoken : token ⊆ s) (htext : text ⊆ s) :
    FailsOnly (IsPlain b s) (read b token text) := by
  rw [read]
  split
  · exact .ok _
  · split
    · exact readSpan_fails htext
    · exact (Numeral.readWithin_fails htoken htext).map

end Base

namespace Element

/-- The text is an element with a base that fits and a step that is not 0, and selects nothing. -/
def MeetsNothing (b : Bounds) (part : List Char) : Prop :=
  ∃ base step, (stepped base step).text = part ∧ base.Fits b ∧ 0 < step.value ∧
    ∀ v, ¬ (stepped base step).Selects b v

theorem readForm_fails (hc : ',' ∉ part) : FailsOnly (IsPlain b part) (readForm b part) := by
  have hself : part ⊆ part := List.Subset.refl part
  rw [readForm, if_neg hc]
  split
  · rw [readStepped]
    split
    · next base step hp =>
      have hbase : base ⊆ part := (Text.isInfix_of_mem_pieces (hp ▸ List.mem_cons_self)).subset
      split
      · exact .error (.malformed hself)
      · exact (Numeral.readStep_fails hself step).bind fun _ =>
          (Base.read_fails hself hbase).bind fun _ => .ok _
    · exact .error (.malformed hself)
  · exact (Base.read_fails hself hself).map

theorem fault_of_refuseEmpty {e : Element} (htext : e.text = part) (he : e.IsFormed b)
    (h : refuseEmpty b part e = .error (.fault f)) :
    f = .selectsNothing (String.ofList part) b.low b.high ∧ MeetsNothing b part := by
  cases e with
  | plain base => cases h
  | stepped base step =>
    rw [refuseEmpty] at h
    split at h
    · next hempty =>
      cases h
      refine ⟨rfl, base, step, htext, he.1, he.2, fun v hv => ?_⟩
      rw [isEmpty_values.mpr ⟨v, hv⟩] at hempty
      cases hempty
    · cases h

theorem fault_of_read (hc : ',' ∉ part) (h : read b part = .error (.fault f)) :
    f.IsPlain b part ∨ f = .selectsNothing (String.ofList part) b.low b.high ∧ MeetsNothing b part := by
  rcases bind_eq_error.mp h with hform | ⟨e, hform, hempty⟩
  · exact .inl (readForm_fails hc _ hform)
  · obtain ⟨htext, he⟩ := readForm_eq_ok_iff.mp hform
    exact .inr (fault_of_refuseEmpty htext he hempty)

end Element

namespace Token

/-- The fault of a token is that of its first piece that is empty or cannot be read as an element. -/
theorem exists_part_of_fault (h : elements b token = .error (.fault f)) :
    ∃ before part after, Text.pieces ',' token = before ++ part :: after ∧
      (∀ p ∈ before, ∃ e, readElement b token p = .ok e) ∧
      (part = [] ∧ f = .emptyElement (String.ofList token) ∨
        part ≠ [] ∧ Element.read b part = .error (.fault f)) := by
  rw [elements_eq_mapM, mapM_eq_error_iff] at h
  obtain ⟨before, part, after, hp, hbefore, hpart⟩ := h
  refine ⟨before, part, after, hp, hbefore, ?_⟩
  rw [readElement] at hpart
  split at hpart
  · next hnil =>
    cases hpart
    exact .inl ⟨hnil, rfl⟩
  · next hne => exact .inr ⟨hne, hpart⟩

theorem elements_fails (b : Bounds) (token : List Char) :
    FailsOnly (BlamesOnly token) (elements b token) := by
  intro e h
  cases e with
  | overlong o => trivial
  | fault f =>
    obtain ⟨before, part, after, hp, -, ⟨-, rfl⟩ | ⟨-, hread⟩⟩ := exists_part_of_fault h
    · rw [BlamesOnly, Fault.token, String.toList_ofList]
      exact List.Subset.refl token
    · have hmem : part ∈ Text.pieces ',' token := by simp [hp]
      have hpart : part ⊆ token := (Text.isInfix_of_mem_pieces hmem).subset
      rcases Element.fault_of_read (Text.notMem_of_mem_pieces hmem) hread with hplain | ⟨rfl, -⟩
      · exact List.Subset.trans hplain.token_subset hpart
      · rwa [BlamesOnly, Fault.token, String.toList_ofList]

end Token

end CronSchedule
