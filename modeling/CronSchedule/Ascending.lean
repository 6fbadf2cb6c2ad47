/-!
Finite sets of numbers as strictly ascending lists. Main statements: the list made from any numbers
is strictly ascending and holds exactly those numbers.
-/

namespace CronSchedule.Ascending

/-- Puts a number in its place, unless it is already there. -/
def insert (x : Int) : List Int → List Int
  | [] => [x]
  | y :: rest =>
    if x < y then x :: y :: rest
    else if x = y then y :: rest
    else y :: insert x rest

/-- The numbers of a list in ascending order, each once. -/
def ofList (xs : List Int) : List Int :=
  xs.foldr insert []

@[simp] theorem ofList_nil : ofList [] = [] := rfl

@[simp] theorem ofList_cons (x : Int) (xs : List Int) :
    ofList (x :: xs) = insert x (ofList xs) := rfl

@[simp] theorem mem_insert {x y : Int} {xs : List Int} : y ∈ insert x xs ↔ y = x ∨ y ∈ xs := by
  induction xs with
  | nil => simp [insert]
  | cons z zs ih => grind [insert]

@[simp] theorem mem_ofList {x : Int} {xs : List Int} : x ∈ ofList xs ↔ x ∈ xs := by
  induction xs with
  | nil => simp
  | cons y ys ih => simp [ih]

theorem pairwise_insert {x : Int} {xs : List Int} (h : xs.Pairwise (· < ·)) :
    (insert x xs).Pairwise (· < ·) := by
  induction xs with
  | nil => simp [insert]
  | cons y ys ih =>
    obtain ⟨hy, hys⟩ := List.pairwise_cons.mp h
    simp only [insert]
    split
    · next hxy =>
      refine List.pairwise_cons.mpr ⟨fun z hz => ?_, h⟩
      rcases List.mem_cons.mp hz with rfl | hz
      · exact hxy
      · exact Int.lt_trans hxy (hy z hz)
    · split
      · exact h
      · refine List.pairwise_cons.mpr ⟨fun z hz => ?_, ih hys⟩
        rcases mem_insert.mp hz with rfl | hz
        · omega
        · exact hy z hz

theorem pairwise_ofList (xs : List Int) : (ofList xs).Pairwise (· < ·) := by
  induction xs with
  | nil => simp
  | cons x xs ih => exact pairwise_insert ih

end CronSchedule.Ascending
