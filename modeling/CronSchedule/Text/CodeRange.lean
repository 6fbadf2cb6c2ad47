/-!
Sets of code points, given as ascending ranges.
-/

namespace CronSchedule.Text

/-- Whether `n` lies in one of the ascending ranges `(first, last)`. -/
def inRanges : List (Nat × Nat) → Nat → Bool
  | [], _ => false
  | (first, last) :: rest, n =>
    if n < first then false else n ≤ last || inRanges rest n

@[simp] theorem inRanges_nil (n : Nat) : inRanges [] n = false := rfl

theorem exists_range_of_inRanges {rs : List (Nat × Nat)} {n : Nat} (h : inRanges rs n = true) :
    ∃ r ∈ rs, r.1 ≤ n ∧ n ≤ r.2 := by
  induction rs with
  | nil => simp at h
  | cons r rs ih =>
    obtain ⟨first, last⟩ := r
    simp only [inRanges] at h
    split at h
    · simp at h
    · next hn =>
      rcases Bool.or_eq_true _ _ ▸ h with h | h
      · exact ⟨_, List.mem_cons_self, Nat.not_lt.mp hn, of_decide_eq_true h⟩
      · obtain ⟨r, hr, hb⟩ := ih h
        exact ⟨r, List.mem_cons_of_mem _ hr, hb⟩

end CronSchedule.Text
