import CronSchedule.Proofs.Expression.Tokens

/-!
The values of the fields of a valid expression: there are some, all lie within the bounds of the slot, and
they are listed in ascending order.
-/

namespace CronSchedule

variable {b : Bounds} {e : Element} {token : List Char} {v : Int}

theorem Element.Selects.within (hs : e.Selects b v) (hf : e.Fits b) : b.low ≤ v ∧ v ≤ b.high := by
  match e with
  | plain .every => exact hs
  | plain (.single n) => exact hs ▸ hf
  | plain (.span first last) =>
    obtain ⟨hlow, -, hhigh⟩ := hf
    exact ⟨Int.le_trans hlow hs.1, Int.le_trans hs.2 hhigh⟩
  | stepped .every step => exact hs.1
  | stepped (.single n) step => exact ⟨Int.le_trans hf.1.1 hs.1.1, hs.1.2⟩
  | stepped (.span first last) step =>
    obtain ⟨hlow, -, hhigh⟩ := hf.1
    exact ⟨Int.le_trans hlow hs.1.1, Int.le_trans hs.1.2 hhigh⟩

namespace Token

theorem Selects.within (hs : Selects b token v) (ha : Accepts b token) :
    b.low ≤ v ∧ v ≤ b.high := by
  obtain ⟨es, hes, e, he, hv⟩ := hs
  obtain ⟨es', hes', hfits⟩ := ha
  exact hv.within (hfits e (hes.unique hes' ▸ he))

theorem Accepts.exists_selects (hb : b.low ≤ b.high) (ha : Accepts b token) :
    ∃ v, Selects b token v := by
  obtain ⟨es, hes, hfits⟩ := ha
  obtain ⟨e, rest, rfl⟩ := List.exists_cons_of_ne_nil hes.1
  have he : e ∈ e :: rest := List.mem_cons_self
  obtain ⟨v, hv⟩ := (hfits e he).exists_selects hb
  exact ⟨v, _, hes, e, he, hv⟩

end Token

theorem Slot.canonical_within {s : Slot} {n : Int}
    (h : s.accepted.low ≤ n ∧ n ≤ s.accepted.high) :
    s.bounds.low ≤ s.canonical n ∧ s.canonical n ≤ s.bounds.high := by
  cases s with
  | dayOfWeek =>
    have hbounds : (0 : Int) ≤ n ∧ n ≤ 7 := h
    change 0 ≤ canonical .dayOfWeek n ∧ canonical .dayOfWeek n ≤ 6
    simp only [canonical, true_and]
    split <;> omega
  | second => exact h
  | minute => exact h
  | hour => exact h
  | dayOfMonth => exact h
  | month => exact h
  | year => exact h

theorem Bounds.pairwise_toList (b : Bounds) : b.toList.Pairwise (· < ·) := by
  rw [Bounds.toList, List.pairwise_map]
  refine List.pairwise_lt_range.imp fun hlt => ?_
  omega

namespace Field

variable {slot : Slot} {text : String} {f : Field}

theorem pairwise_values (h : read slot text = .ok f) : f.values.Pairwise (· < ·) := by
  obtain ⟨-, ⟨-, hr⟩ | ⟨-, es, -, hr⟩ | ⟨-, fault, hr⟩⟩ := read_cases h
  · rw [values, hr]
    exact f.slot.bounds.pairwise_toList
  · rw [values, hr]
    exact Ascending.pairwise_ofList _
  · rw [values, hr]
    exact .nil

theorem within_of_mem_values (h : read slot text = .ok f) (ha : slot.Accepts text)
    (hv : v ∈ f.values) : slot.bounds.low ≤ v ∧ v ≤ slot.bounds.high := by
  by_cases ho : slot.LeavesOpen text
  · exact (mem_values_of_leavesOpen h ho).mp hv
  · obtain ⟨n, hn, rfl⟩ := (mem_values_iff h ho ha).mp hv
    exact Slot.canonical_within (hn.within (ha.resolve_left ho))

theorem exists_mem_values (h : read slot text = .ok f) (ha : slot.Accepts text) :
    ∃ v, v ∈ f.values := by
  by_cases ho : slot.LeavesOpen text
  · refine ⟨slot.bounds.low, (mem_values_of_leavesOpen h ho).mpr ⟨Int.le_refl _, ?_⟩⟩
    cases slot <;> decide
  · obtain ⟨n, hn⟩ := (ha.resolve_left ho).exists_selects slot.accepted_low_le_high
    exact ⟨_, (mem_values_iff h ho ha).mpr ⟨n, hn, rfl⟩⟩

end Field

variable {source : String} {mode : Mode} {x : Expression} {slot : Slot} {f : Field}

theorem within_of_selects (h : parse source mode = .ok (.expression x)) (hv : x.isValid = true)
    (hf : x.field? slot = some f) (hs : f.selects v = true) :
    slot.bounds.low ≤ v ∧ v ≤ slot.bounds.high := by
  obtain ⟨hr, ha⟩ := read_of_isValid h hv hf
  exact Field.within_of_mem_values hr ha (Field.selects_iff.mp hs)

/-- Each field of a valid expression selects a number of its slot. -/
theorem exists_selects (h : parse source mode = .ok (.expression x)) (hv : x.isValid = true)
    (hf : x.field? slot = some f) : ∃ n : Nat, f.selects n = true := by
  obtain ⟨hr, ha⟩ := read_of_isValid h hv hf
  obtain ⟨v, hmem⟩ := Field.exists_mem_values hr ha
  have hwithin := Field.within_of_mem_values hr ha hmem
  have hlow : 0 ≤ slot.bounds.low := by cases slot <;> decide
  refine ⟨v.toNat, Field.selects_iff.mpr ?_⟩
  rwa [Int.toNat_of_nonneg (Int.le_trans hlow hwithin.1)]

end CronSchedule
