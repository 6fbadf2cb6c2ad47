import CronSchedule.Text.Pieces
import Mathlib.Data.List.Basic

/-!
Cutting a text is the list library's `splitOn`, so it undoes putting pieces together: pieces without
the mark are found again. Each piece is a part of the text that it is cut from.
-/

namespace CronSchedule.Text

theorem pieces_eq_splitOn (mark : Char) (s : List Char) : pieces mark s = s.splitOn mark := by
  induction s with
  | nil => rfl
  | cons c rest ih => simp only [pieces, List.splitOn_cons_eq_if_modifyHead, beq_iff_eq, ih]

theorem pieces_joined {mark : Char} {ps : List (List Char)} (hps : ps ≠ [])
    (h : ∀ p ∈ ps, mark ∉ p) : pieces mark (joined mark ps) = ps := by
  rw [pieces_eq_splitOn]
  exact List.splitOn_intercalate mark h hps

theorem notMem_of_mem_pieces {mark : Char} {s p : List Char} (h : p ∈ pieces mark s) : mark ∉ p := by
  induction s generalizing p with
  | nil =>
    rw [List.mem_singleton.mp h]
    exact List.not_mem_nil
  | cons c s ih =>
    rw [pieces] at h
    split at h
    · rcases List.mem_cons.mp h with rfl | h
      · exact List.not_mem_nil
      · exact ih h
    · next hc =>
      obtain ⟨q, qs, hq⟩ := List.exists_cons_of_ne_nil (pieces_ne_nil mark s)
      rw [hq, List.modifyHead_cons] at h
      rcases List.mem_cons.mp h with rfl | h
      · rw [List.mem_cons, not_or]
        exact ⟨Ne.symm hc, ih (hq ▸ List.mem_cons_self)⟩
      · exact ih (hq ▸ List.mem_cons_of_mem q h)

/-- A text falls into given pieces exactly if it is them with the mark between each two. -/
theorem pieces_eq_iff {mark : Char} {s : List Char} {ps : List (List Char)}
    (h : ∀ p ∈ ps, mark ∉ p) : pieces mark s = ps ↔ ps ≠ [] ∧ s = joined mark ps := by
  constructor
  · rintro rfl
    exact ⟨pieces_ne_nil mark s, (joined_pieces mark s).symm⟩
  · intro hx
    obtain ⟨hps, rfl⟩ := hx
    exact pieces_joined hps h

theorem pieces_of_notMem {mark : Char} {s : List Char} (h : mark ∉ s) : pieces mark s = [s] := by
  rw [pieces_eq_iff (List.forall_mem_singleton.mpr h)]
  exact ⟨List.cons_ne_nil _ _, List.intercalate_singleton.symm⟩

theorem pieces_append_mark {mark : Char} {p s : List Char} (h : mark ∉ p) :
    pieces mark (p ++ mark :: s) = p :: pieces mark s := by
  induction p with
  | nil => rw [List.nil_append, pieces, if_pos rfl]
  | cons c p ih =>
    obtain ⟨hc, hp⟩ := not_or.mp (mt List.mem_cons.mpr h)
    rw [List.cons_append, pieces, if_neg (Ne.symm hc), ih hp, List.modifyHead_cons]

theorem joined_pair (mark : Char) (p q : List Char) : joined mark [p, q] = p ++ mark :: q := by
  simp [joined, List.intercalate_cons_cons]

theorem eq_of_pieces_pair {mark : Char} {s p q : List Char} (h : pieces mark s = [p, q]) :
    s = p ++ mark :: q := by
  rw [← joined_pieces mark s, h, joined_pair]

theorem pieces_pair {mark : Char} {p q : List Char} (hp : mark ∉ p) (hq : mark ∉ q) :
    pieces mark (p ++ mark :: q) = [p, q] := by
  rw [← joined_pair]
  apply pieces_joined (List.cons_ne_nil p [q])
  intro r hr
  rcases List.mem_cons.mp hr with rfl | hr
  · exact hp
  · rw [List.mem_singleton.mp hr]
    exact hq

theorem exists_mem_of_mem_joined {mark c : Char} {ps : List (List Char)} (h : c ∈ joined mark ps)
    (hc : c ≠ mark) : ∃ p ∈ ps, c ∈ p := by
  induction ps with
  | nil => cases h
  | cons q qs ih =>
    cases qs with
    | nil =>
      rw [joined, List.intercalate_singleton] at h
      exact ⟨q, List.mem_cons_self, h⟩
    | cons r rs =>
      rw [joined, List.intercalate_cons_cons, List.append_assoc, List.mem_append] at h
      rcases h with h | h
      · exact ⟨q, List.mem_cons_self, h⟩
      · obtain ⟨p, hp, hmem⟩ := ih ((List.mem_cons.mp h).resolve_left hc)
        exact ⟨p, List.mem_cons_of_mem q hp, hmem⟩

/-- Texts put together with a separator of one character are the pieces at that character. -/
theorem pieces_intercalate {s : String} {mark : Char} (hs : s.toList = [mark]) {xs : List String}
    (hne : xs ≠ []) (h : ∀ x ∈ xs, mark ∉ x.toList) :
    pieces mark (s.intercalate xs).toList = xs.map String.toList := by
  rw [String.toList_intercalate, hs]
  exact pieces_joined (mt List.map_eq_nil_iff.mp hne) (List.forall_mem_map.mpr h)

theorem intercalate_inj {s : String} {mark : Char} (hs : s.toList = [mark]) {xs ys : List String}
    (hx : xs ≠ []) (hy : ys ≠ []) (hxs : ∀ x ∈ xs, mark ∉ x.toList) (hys : ∀ y ∈ ys, mark ∉ y.toList)
    (h : s.intercalate xs = s.intercalate ys) : xs = ys := by
  have hinj : Function.Injective String.toList := fun _ _ => String.toList_inj.mp
  apply hinj.list_map
  rw [← pieces_intercalate hs hx hxs, h, pieces_intercalate hs hy hys]

theorem forall_mem_intercalate {P : Char → Prop} {s : String} {xs : List String}
    (hs : ∀ c ∈ s.toList, P c) (h : ∀ x ∈ xs, ∀ c ∈ x.toList, P c) :
    ∀ c ∈ (s.intercalate xs).toList, P c := by
  induction xs with
  | nil => nofun
  | cons x xs ih =>
    obtain ⟨hx, hxs⟩ := List.forall_mem_cons.mp h
    by_cases hne : xs = []
    · subst hne
      rwa [String.intercalate_singleton]
    · rw [String.intercalate_cons_of_ne_nil hne, String.toList_append, String.toList_append]
      exact List.forall_mem_append.mpr ⟨List.forall_mem_append.mpr ⟨hx, hs⟩, ih hxs⟩

theorem notMem_intercalate {s : String} {mark c : Char} (hs : s.toList = [mark]) {xs : List String}
    (hc : c ≠ mark) (h : ∀ x ∈ xs, c ∉ x.toList) : c ∉ (s.intercalate xs).toList := by
  intro hmem
  rw [String.toList_intercalate, hs] at hmem
  obtain ⟨p, hp, hmem⟩ := exists_mem_of_mem_joined hmem hc
  obtain ⟨x, hx, rfl⟩ := List.mem_map.mp hp
  exact h x hx hmem

theorem isInfix_joined {mark : Char} {p : List Char} {ps : List (List Char)} (h : p ∈ ps) :
    p <:+: joined mark ps := by
  induction ps with
  | nil => cases h
  | cons q qs ih =>
    cases qs with
    | nil =>
      have hq : joined mark [q] = p :=
        List.intercalate_singleton.trans (List.mem_singleton.mp h).symm
      exact hq.symm ▸ List.infix_rfl
    | cons r rs =>
      rw [joined, List.intercalate_cons_cons, List.append_assoc]
      rcases List.mem_cons.mp h with rfl | h
      · exact (List.prefix_append p _).isInfix
      · refine (ih h).trans ?_
        rw [← List.append_assoc]
        exact (List.suffix_append _ _).isInfix

theorem isInfix_of_mem_pieces {mark : Char} {p s : List Char} (h : p ∈ pieces mark s) :
    p <:+: s :=
  joined_pieces mark s ▸ isInfix_joined h

theorem mem_intercalate {s x : String} {mark c : Char} (hs : s.toList = [mark]) {xs : List String}
    (hx : x ∈ xs) (hc : c ∈ x.toList) : c ∈ (s.intercalate xs).toList := by
  rw [String.toList_intercalate, hs]
  exact (isInfix_joined (List.mem_map_of_mem hx)).mem hc

end CronSchedule.Text
