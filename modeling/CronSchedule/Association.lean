/-!
Association lists that keep the order in which their keys first came up. Main statements: setting a
key changes what is found for it, and for no other key.
-/

namespace CronSchedule.Association

variable {κ ν : Type} [DecidableEq κ]

/-- Sets a key; a key that is already there keeps its place. -/
def set (key : κ) (v : ν) : List (κ × ν) → List (κ × ν)
  | [] => [(key, v)]
  | (k, w) :: rest => if k = key then (key, v) :: rest else (k, w) :: set key v rest

/-- The entries given one after the other, the last of equal keys winning. -/
def ofList (entries : List (κ × ν)) : List (κ × ν) :=
  entries.foldl (fun acc e => set e.1 e.2 acc) []

@[simp] theorem lookup_set_self (key : κ) (v : ν) (entries : List (κ × ν)) :
    (set key v entries).lookup key = some v := by
  induction entries with
  | nil => simp [set]
  | cons e entries ih =>
    simp only [set]
    split
    · simp
    · next h =>
      rw [List.lookup_cons, beq_false_of_ne (Ne.symm h)]
      exact ih

theorem lookup_set_of_ne {key other : κ} (h : other ≠ key) (v : ν) (entries : List (κ × ν)) :
    (set key v entries).lookup other = entries.lookup other := by
  induction entries with
  | nil => simp [set, h]
  | cons e entries ih =>
    obtain ⟨k, w⟩ := e
    simp only [set]
    split
    · next hk => simp [List.lookup_cons, hk, beq_false_of_ne h]
    · rw [List.lookup_cons, List.lookup_cons, ih]

end CronSchedule.Association
