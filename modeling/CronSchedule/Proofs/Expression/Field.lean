import CronSchedule.Expression.Field
import CronSchedule.Proofs.Token.Grammar
import CronSchedule.Proofs.Token.Overlong

/-!
Which tokens a slot accepts, and what the field holds that is read from a token. Main statements: a
field is at fault exactly if its slot does not accept the token (`Field.fault?_eq_none_iff`), and
otherwise holds what the token selects (`Field.mem_values_iff`).
-/

namespace CronSchedule

namespace Slot

/-- The token lets the slot take any number. -/
def LeavesOpen (s : Slot) (token : String) : Prop :=
  token = "*" ∨ token = "?" ∧ s.allowsQuestion = true

/-- The token leaves the slot open, or is a list of elements that fit the slot. -/
def Accepts (s : Slot) (token : String) : Prop :=
  s.LeavesOpen token ∨ Token.Accepts s.accepted token.toList

instance (s : Slot) (token : String) : Decidable (s.LeavesOpen token) :=
  inferInstanceAs (Decidable (_ ∨ _))

/-- The slots that say on which days a schedule fires. -/
def days : List Slot :=
  [dayOfMonth, dayOfWeek]

theorem leavesOpen_of_mem_days {s : Slot} {token : String} (h : s ∈ days) :
    s.LeavesOpen token ↔ token = "*" ∨ token = "?" := by
  have hq : s.allowsQuestion = true := by
    rcases List.mem_pair.mp h with rfl | rfl <;> rfl
  rw [LeavesOpen, hq, and_iff_left rfl]

theorem accepted_low_le_high (s : Slot) : s.accepted.low ≤ s.accepted.high := by
  cases s <;> decide

instance (s : Slot) (token : String) : Decidable (s.Accepts token) :=
  decidable_of_iff (s.LeavesOpen token ∨ (Token.elements s.accepted token.toList).isOk = true) <| by
    rw [Accepts, Token.accepts_iff s.accepted_low_le_high]
    cases Token.elements s.accepted token.toList <;> simp [Except.isOk, Except.toBool]

end Slot

theorem Token.not_accepts_question (b : Bounds) (hb : b.low ≤ b.high) : ¬ Accepts b ['?'] := by
  rw [accepts_iff hb]
  intro h
  obtain ⟨es, ⟨⟩⟩ := h

namespace Field

variable {slot : Slot} {token : String} {f : Field}

/-- A field is read in one of three ways: the token leaves the slot open, or it is a list of elements
that fit, or it is refused. -/
theorem read_cases (h : read slot token = .ok f) :
    (f.slot = slot ∧ f.token = token) ∧
      (slot.LeavesOpen token ∧ f.reading = .unrestricted ∨
        ¬ slot.LeavesOpen token ∧ (∃ es, Token.elements slot.accepted token.toList = .ok es ∧
          f.reading = .listed es (slot.normalize (Token.selection slot.accepted es))) ∨
        ¬ slot.Accepts token ∧ ∃ fault, f.reading = .refused fault) := by
  have hq := Token.not_accepts_question slot.accepted slot.accepted_low_le_high
  simp only [read] at h
  split at h
  · next ho =>
    cases h
    exact ⟨⟨rfl, rfl⟩, .inl ⟨ho, rfl⟩⟩
  · next ho =>
    split at h
    · next ht =>
      cases h
      subst ht
      exact ⟨⟨rfl, rfl⟩, .inr (.inr ⟨not_or.mpr ⟨ho, hq⟩, _, rfl⟩)⟩
    · split at h
      · next es hes =>
        cases h
        exact ⟨⟨rfl, rfl⟩, .inr (.inl ⟨ho, es, hes, rfl⟩)⟩
      · next fault hf =>
        cases h
        refine ⟨⟨rfl, rfl⟩, .inr (.inr ⟨not_or.mpr ⟨ho, ?_⟩, _, rfl⟩)⟩
        rw [Token.accepts_iff slot.accepted_low_le_high, hf]
        intro hx
        obtain ⟨es, ⟨⟩⟩ := hx
      · cases h

theorem slot_of_read (h : read slot token = .ok f) : f.slot = slot :=
  (read_cases h).1.1

theorem token_of_read (h : read slot token = .ok f) : f.token = token :=
  (read_cases h).1.2

theorem isUnrestricted_iff (h : read slot token = .ok f) :
    f.isUnrestricted = true ↔ slot.LeavesOpen token := by
  rw [isUnrestricted, decide_eq_true_iff]
  obtain ⟨-, ⟨ho, hr⟩ | ⟨ho, es, -, hr⟩ | ⟨ha, fault, hr⟩⟩ := read_cases h
  · simp [ho, hr]
  · simp [ho, hr]
  · simp [(not_or.mp ha).1, hr]

theorem fault?_eq_none_iff (h : read slot token = .ok f) : f.fault? = none ↔ slot.Accepts token := by
  obtain ⟨-, ⟨ho, hr⟩ | ⟨ho, es, hes, hr⟩ | ⟨ha, fault, hr⟩⟩ := read_cases h
  · simp [fault?, hr, Slot.Accepts, ho]
  · have ha : slot.Accepts token := .inr ((Token.accepts_iff slot.accepted_low_le_high).mpr ⟨es, hes⟩)
    simp [fault?, hr, ha]
  · simp [fault?, hr, ha]

theorem mem_values_of_leavesOpen (h : read slot token = .ok f) (ho : slot.LeavesOpen token) {v : Int} :
    v ∈ f.values ↔ slot.bounds.low ≤ v ∧ v ≤ slot.bounds.high := by
  obtain ⟨⟨rfl, -⟩, ⟨-, hr⟩ | ⟨hn, -⟩ | ⟨ha, -⟩⟩ := read_cases h
  · simp [values, hr]
  · exact absurd ho hn
  · exact absurd (.inl ho) ha

/-- The values of a field are the numbers that the token selects, with 7 for Sunday read as 0. -/
theorem mem_values_iff (h : read slot token = .ok f) (ho : ¬ slot.LeavesOpen token)
    (ha : slot.Accepts token) {v : Int} :
    v ∈ f.values ↔ ∃ n, Token.Selects slot.accepted token.toList n ∧ slot.canonical n = v := by
  obtain ⟨-, ⟨hn, -⟩ | ⟨-, es, hes, hr⟩ | ⟨hn, -⟩⟩ := read_cases h
  · exact absurd hn ho
  · have hl := (Token.elements_eq_ok_iff slot.accepted_low_le_high).mp hes
    simp [values, hr, Slot.normalize, Token.mem_selection hl.1]
  · exact absurd ha hn

/-- Only a number that is too long keeps a token from being read. -/
theorem read_eq_error_iff {o : OverlongNumber} :
    read slot token = .error o ↔ Token.Stops slot.accepted o token.toList := by
  have hshort (ht : token = "*" ∨ token = "?") : ¬ Token.Stops slot.accepted o token.toList := by
    intro h
    have hlong := h.maxDigits_lt_length
    rcases ht with rfl | rfl
    · exact absurd hlong (by decide)
    · exact absurd hlong (by decide)
  rw [← Token.elements_eq_overlong_iff slot.accepted_low_le_high] at hshort ⊢
  simp only [read]
  split
  · next ho => exact iff_of_false nofun (hshort (ho.imp_right And.left))
  · split
    · next ht => exact iff_of_false nofun (hshort (.inr ht))
    · split
      · next h => simp [h]
      · next h => simp [h]
      · next h => simp [h]

end Field

end CronSchedule
