/-!
Cutting a text at a mark, and putting the pieces together again.
-/

namespace CronSchedule.Text

/-- The pieces between the marks; a text without the mark is one piece. -/
def pieces (mark : Char) : List Char → List (List Char)
  | [] => [[]]
  | c :: rest =>
    if c = mark then [] :: pieces mark rest
    else (pieces mark rest).modifyHead (c :: ·)

/-- The pieces with the mark between each two. -/
def joined (mark : Char) (ps : List (List Char)) : List Char :=
  List.intercalate [mark] ps

@[simp] theorem pieces_nil (mark : Char) : pieces mark [] = [[]] := rfl

theorem pieces_ne_nil (mark : Char) (s : List Char) : pieces mark s ≠ [] := by
  induction s with
  | nil => simp
  | cons c rest ih =>
    simp only [pieces]
    split
    · simp
    · cases h : pieces mark rest with
      | nil => exact absurd h ih
      | cons p ps => simp

theorem joined_cons_nil {mark : Char} {ps : List (List Char)} (h : ps ≠ []) :
    joined mark ([] :: ps) = mark :: joined mark ps := by
  cases ps with
  | nil => exact absurd rfl h
  | cons q qs => simp [joined, List.intercalate_cons_cons]

theorem joined_modifyHead {mark : Char} (c : Char) {ps : List (List Char)} (h : ps ≠ []) :
    joined mark (ps.modifyHead (c :: ·)) = c :: joined mark ps := by
  match ps, h with
  | [p], _ => simp [joined]
  | p :: q :: qs, _ => simp [joined, List.intercalate_cons_cons]

@[simp] theorem joined_pieces (mark : Char) (s : List Char) : joined mark (pieces mark s) = s := by
  induction s with
  | nil => rfl
  | cons c rest ih =>
    simp only [pieces]
    split
    · next h => rw [joined_cons_nil (pieces_ne_nil mark rest), ih, h]
    · rw [joined_modifyHead c (pieces_ne_nil mark rest), ih]

end CronSchedule.Text
