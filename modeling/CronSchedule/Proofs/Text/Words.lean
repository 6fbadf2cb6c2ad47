import CronSchedule.Text.Blank
import CronSchedule.Text.Pieces

/-!
The words of a text: each is a part of it, and a run of characters that a blank follows is the first.
Words with single spaces between them are the words of the text that they make (`words_joined`).
-/

namespace CronSchedule.Text

@[simp] theorem words_cons_of_isBlank {c : Char} (h : isBlank c = true) (s : List Char) :
    words (c :: s) = words s := by
  rw [words.eq_def]
  simp only [h, ↓reduceIte]

@[simp] theorem words_cons_cons_of_isBlank {c d : Char} (hc : isBlank c = false)
    (hd : isBlank d = true) (s : List Char) : words (c :: d :: s) = [c] :: words s := by
  rw [words.eq_def]
  simp [hc, hd]

@[simp] theorem words_cons_cons {c d : Char} (hc : isBlank c = false) (hd : isBlank d = false)
    (s : List Char) : words (c :: d :: s) = (words (d :: s)).modifyHead (c :: ·) := by
  rw [words.eq_def]
  simp [hc, hd]

/-- A text that does not start with a blank starts with its first word, and its other words are words
of what follows the first character. -/
theorem words_eq_cons {c : Char} (h : isBlank c = false) (s : List Char) :
    ∃ w ws, words (c :: s) = w :: ws ∧ w <+: c :: s ∧ ws ⊆ words s := by
  induction s generalizing c with
  | nil => exact ⟨[c], [], by simp [words, h], List.prefix_rfl, by simp⟩
  | cons d s ih =>
    cases hd : isBlank d with
    | true =>
      refine ⟨[c], words s, words_cons_cons_of_isBlank h hd s, by simp, ?_⟩
      rw [words_cons_of_isBlank hd]
      exact List.Subset.refl _
    | false =>
      obtain ⟨w, ws, hw, hp, -⟩ := ih hd
      refine ⟨c :: w, ws, ?_, (List.prefix_cons_inj c).mpr hp, ?_⟩
      · rw [words_cons_cons h hd, hw, List.modifyHead_cons]
      · rw [hw]
        exact List.subset_cons_self w ws

theorem words_append_cons {w : List Char} {c : Char} (hw : w ≠ [])
    (h : ∀ d ∈ w, isBlank d = false) (hc : isBlank c = true) (s : List Char) :
    words (w ++ c :: s) = w :: words s := by
  induction w with
  | nil => exact absurd rfl hw
  | cons d w ih =>
    obtain ⟨hd, hrest⟩ := List.forall_mem_cons.mp h
    cases w with
    | nil => exact words_cons_cons_of_isBlank hd hc s
    | cons e w =>
      have he := hrest e List.mem_cons_self
      rw [List.cons_append, List.cons_append, words_cons_cons hd he, ← List.cons_append,
        ih (List.cons_ne_nil e w) hrest, List.modifyHead_cons]

theorem isInfix_of_mem_words {w s : List Char} (h : w ∈ words s) : w <:+: s := by
  induction s generalizing w with
  | nil => cases h
  | cons c s ih =>
    have hs : s <:+: c :: s := (List.suffix_cons c s).isInfix
    cases hc : isBlank c with
    | true =>
      rw [words_cons_of_isBlank hc] at h
      exact (ih h).trans hs
    | false =>
      obtain ⟨v, vs, hv, hp, hvs⟩ := words_eq_cons hc s
      rw [hv] at h
      rcases List.mem_cons.mp h with rfl | h
      · exact hp.isInfix
      · exact (ih (hvs h)).trans hs

/-- The words of a text hold its characters that are not blank. -/
theorem flatten_words (s : List Char) : (words s).flatten = s.filter (!isBlank ·) := by
  induction s with
  | nil => rfl
  | cons c s ih =>
    cases hc : isBlank c with
    | true => rw [words_cons_of_isBlank hc, ih, List.filter_cons_of_neg (by simp [hc])]
    | false =>
      rw [List.filter_cons_of_pos (by simp [hc]), ← ih]
      cases s with
      | nil => simp [words, hc]
      | cons d s =>
        cases hd : isBlank d with
        | true =>
          rw [words_cons_cons_of_isBlank hc hd, words_cons_of_isBlank hd, List.flatten_cons,
            List.singleton_append]
        | false =>
          obtain ⟨w, ws, hw, -, -⟩ := words_eq_cons hd s
          rw [words_cons_cons hc hd, hw, List.modifyHead_cons, List.flatten_cons, List.flatten_cons,
            List.cons_append]

theorem isBlank_of_isDigit {c : Char} (h : c.isDigit = true) : isBlank c = false := by
  refine Bool.eq_false_iff.mpr fun hb => ?_
  obtain ⟨r, hr, hlow, hhigh⟩ := exists_range_of_inRanges hb
  obtain ⟨hfirst, hlast⟩ := Char.isDigit_iff_toNat.mp h
  have hapart : ∀ r ∈ blankRanges, r.2 < '0'.toNat ∨ '9'.toNat < r.1 := by decide
  have := hapart r hr
  omega

/-- A text that is one word. -/
structure IsWord (w : List Char) : Prop where
  ne_nil : w ≠ []
  not_isBlank : ∀ c ∈ w, isBlank c = false

instance (w : List Char) : Decidable (IsWord w) :=
  decidable_of_iff ((!w.isEmpty && w.all (!isBlank ·)) = true) <| by
    rw [Bool.and_eq_true, Bool.not_eq_true', List.isEmpty_eq_false_iff, List.all_eq_true]
    simp only [Bool.not_eq_true']
    exact ⟨fun h => ⟨h.1, h.2⟩, fun h => ⟨h.1, h.2⟩⟩

theorem IsWord.cons {c : Char} {w : List Char} (hc : isBlank c = false) (hw : IsWord w) :
    IsWord (c :: w) :=
  ⟨List.cons_ne_nil c w, List.forall_mem_cons.mpr ⟨hc, hw.not_isBlank⟩⟩

theorem IsWord.space_notMem {w : List Char} (hw : IsWord w) : ' ' ∉ w :=
  fun h => Bool.noConfusion ((hw.not_isBlank ' ' h).symm.trans (by decide : isBlank ' ' = true))

theorem IsWord.singleton {c : Char} (hc : isBlank c = false) : IsWord [c] :=
  ⟨List.cons_ne_nil c [], List.forall_mem_singleton.mpr hc⟩

theorem isWord_of_mem_words {w s : List Char} (h : w ∈ words s) : IsWord w := by
  induction s generalizing w with
  | nil => cases h
  | cons c s ih =>
    cases hc : isBlank c with
    | true => exact ih (words_cons_of_isBlank hc s ▸ h)
    | false =>
      cases s with
      | nil =>
        have hw : words [c] = [[c]] := by simp [words, hc]
        rw [hw, List.mem_singleton] at h
        exact h ▸ .singleton hc
      | cons d s =>
        cases hd : isBlank d with
        | true =>
          rw [words_cons_cons_of_isBlank hc hd] at h
          rcases List.mem_cons.mp h with rfl | h
          · exact .singleton hc
          · exact ih ((words_cons_of_isBlank hd s).symm ▸ h)
        | false =>
          obtain ⟨v, vs, hv, -, -⟩ := words_eq_cons hd s
          rw [words_cons_cons hc hd, hv, List.modifyHead_cons] at h
          rcases List.mem_cons.mp h with rfl | h
          · exact .cons hc (ih (hv ▸ List.mem_cons_self))
          · exact ih (hv ▸ List.mem_cons_of_mem v h)

theorem words_of_isWord {w : List Char} (hw : IsWord w) : words w = [w] := by
  obtain ⟨hne, hblank⟩ := hw
  induction w with
  | nil => exact absurd rfl hne
  | cons c w ih =>
    obtain ⟨hc, hrest⟩ := List.forall_mem_cons.mp hblank
    cases w with
    | nil => simp [words, hc]
    | cons d w =>
      rw [words_cons_cons hc (hrest d List.mem_cons_self), ih (List.cons_ne_nil d w) hrest,
        List.modifyHead_cons]

/-- Words with single spaces between them are found again. -/
theorem words_joined {ws : List (List Char)} (h : ∀ w ∈ ws, IsWord w) :
    words (joined ' ' ws) = ws := by
  induction ws with
  | nil => rfl
  | cons w ws ih =>
    obtain ⟨hw, hws⟩ := List.forall_mem_cons.mp h
    cases ws with
    | nil =>
      rw [joined, List.intercalate_singleton]
      exact words_of_isWord hw
    | cons v vs =>
      have hspace : joined ' ' (w :: v :: vs) = w ++ ' ' :: joined ' ' (v :: vs) := by
        simp [joined, List.intercalate_cons_cons]
      rw [hspace, words_append_cons hw.ne_nil hw.not_isBlank (by decide), ih hws]

end CronSchedule.Text
