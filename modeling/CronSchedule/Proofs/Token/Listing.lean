import CronSchedule.Proofs.Token.Overlong
import CronSchedule.Token.Expansion

/-!
The tokens that are not expanded, for a range with more numbers than a list holds. Main statements: a token is
expanded if all its elements fit and none overflows (`Token.listedElements_eq_ok_iff`); it overflows where the
elements before the one that does can be listed (`Token.listedElements_eq_unlistable_iff`), and nothing does
within bounds that a list can hold (`Token.not_overflows`).
-/

namespace CronSchedule

variable {b : Bounds} {token part : List Char}

/-- The element lists a range of more numbers than a list holds. Steps through all numbers, or from a single
one on, list none. -/
def Element.Overflows (b : Bounds) : Element → Prop
  | plain .every => (maxListed : Int) < b.high - b.low + 1
  | plain (.span first last) | stepped (.span first last) _ =>
    (maxListed : Int) < last.value - first.value + 1
  | plain (.single _) | stepped .every _ | stepped (.single _) _ => False

/-- Of the elements that overflow or do not fit, the first overflows. -/
def Token.Overflows (b : Bounds) (token : List Char) : Prop :=
  ∃ before part after, Text.pieces ',' token = before ++ part :: after ∧
    (∀ p ∈ before, ∃ e : Element, e.Fits b ∧ ¬ e.Overflows b ∧ e.text = p) ∧
    ∃ e : Element, e.IsFormed b ∧ e.Overflows b ∧ e.text = part

namespace Element

variable {e : Element} {o : OverlongNumber} {f : Fault}

theorem isUnlistable_iff : e.isUnlistable b = true ↔ e.Overflows b := by
  match e with
  | plain .every => exact decide_eq_true_iff
  | plain (.span first last) => exact decide_eq_true_iff
  | stepped (.span first last) step => exact decide_eq_true_iff
  | plain (.single n) => exact iff_of_false nofun id
  | stepped .every step => exact iff_of_false nofun id
  | stepped (.single n) step => exact iff_of_false nofun id

/-- What is listed lies within the bounds. -/
theorem IsFormed.not_overflows (h : e.IsFormed b) (hb : b.high - b.low < maxListed) :
    ¬ e.Overflows b := by
  match e with
  | plain .every =>
    rw [Overflows]
    omega
  | plain (.span first last) =>
    obtain ⟨hlow, -, hhigh⟩ := h
    rw [Overflows]
    omega
  | stepped (.span first last) step =>
    obtain ⟨hlow, -, hhigh⟩ := h.1
    rw [Overflows]
    omega
  | plain (.single n) => exact id
  | stepped .every step => exact id
  | stepped (.single n) step => exact id

theorem readListed_of_overflows (hform : readForm b part = .ok e) (h : e.Overflows b) :
    readListed b part = .error .unlistable := by
  refine bind_eq_error.mpr (.inr ⟨e, mapError_eq_ok.mpr hform, ?_⟩)
  exact if_pos (isUnlistable_iff.mpr h)

/-- Unless a range is too long, an element is listed as it is read. -/
theorem readListed_of_not_overflows (h : ∀ e, readForm b part = .ok e → ¬ e.Overflows b) :
    readListed b part = (read b part).mapError TokenError.expansionError := by
  rw [readListed, read]
  cases hform : readForm b part with
  | error error => rfl
  | ok e => exact if_neg fun hx => h e hform (isUnlistable_iff.mp hx)

theorem readListed_eq_unlistable_iff :
    readListed b part = .error .unlistable ↔ ∃ e : Element, e.IsFormed b ∧ e.Overflows b ∧ e.text = part := by
  constructor
  · intro h
    by_contra hn
    rw [readListed_of_not_overflows, mapError_eq_error] at h
    · obtain ⟨error, -, herror⟩ := h
      cases error <;> cases herror
    · intro e hform hx
      obtain ⟨htext, he⟩ := readForm_eq_ok_iff.mp hform
      exact hn ⟨e, he, hx, htext⟩
  · intro h
    obtain ⟨e, he, hx, rfl⟩ := h
    exact readListed_of_overflows (readForm_eq_ok_iff.mpr ⟨rfl, he⟩) hx

theorem readListed_eq_ok_iff (hb : b.low ≤ b.high) :
    readListed b part = .ok e ↔ e.Fits b ∧ ¬ e.Overflows b ∧ e.text = part := by
  by_cases h : ∃ e : Element, e.IsFormed b ∧ e.Overflows b ∧ e.text = part
  · rw [readListed_eq_unlistable_iff.mpr h]
    obtain ⟨e', he', hx, rfl⟩ := h
    refine iff_of_false nofun fun he => ?_
    exact he.2.1 (text_injective he.2.2 ▸ hx)
  · rw [readListed_of_not_overflows, mapError_eq_ok, read_eq_ok_iff hb]
    · constructor
      · intro he
        exact ⟨he.2, fun hx => h ⟨e, he.2.isFormed, hx, he.1⟩, he.1⟩
      · intro he
        exact ⟨he.2.2, he.1⟩
    · intro e' hform hx
      obtain ⟨htext, he'⟩ := readForm_eq_ok_iff.mp hform
      exact h ⟨e', he', hx, htext⟩

theorem read_of_readListed_fault (h : readListed b part = .error (.fault f)) :
    read b part = .error (.fault f) := by
  rw [readListed_of_not_overflows, mapError_eq_error] at h
  · obtain ⟨error, hread, herror⟩ := h
    cases error with
    | fault f' =>
      cases herror
      exact hread
    | overlong o => cases herror
  · intro e hform hx
    rw [readListed_of_overflows hform hx] at h
    cases h

theorem read_of_readListed_overlong (h : readListed b part = .error (.overlong o)) :
    read b part = .error (.overlong o) := by
  rw [readListed_of_not_overflows, mapError_eq_error] at h
  · obtain ⟨error, hread, herror⟩ := h
    cases error with
    | fault f => cases herror
    | overlong o' =>
      cases herror
      exact hread
  · intro e hform hx
    rw [readListed_of_overflows hform hx] at h
    cases h

end Element

namespace Token

variable {es : List Element} {o : OverlongNumber} {f : Fault}

/-- Reads and lists the text of one element of a token. -/
def readListed (b : Bounds) (token part : List Char) : Except ExpansionError Element :=
  if part = [] then .error (.fault (.emptyElement (String.ofList token)))
  else Element.readListed b part

theorem listedElements_eq_mapM :
    listedElements b token = (Text.pieces ',' token).mapM (readListed b token) := rfl

theorem readListed_eq_ok_iff (hb : b.low ≤ b.high) {e : Element} :
    readListed b token part = .ok e ↔ (e.Fits b ∧ ¬ e.Overflows b) ∧ e.text = part := by
  rw [readListed]
  split
  · next h =>
    subst h
    exact ⟨nofun, fun h => absurd h.2 e.text_ne_nil⟩
  · rw [Element.readListed_eq_ok_iff hb, and_assoc]

theorem readListed_eq_unlistable_iff :
    readListed b token part = .error .unlistable ↔
      ∃ e : Element, e.IsFormed b ∧ e.Overflows b ∧ e.text = part := by
  rw [readListed]
  split
  · next h =>
    subst h
    refine ⟨nofun, fun h => ?_⟩
    obtain ⟨e, -, -, h⟩ := h
    exact absurd h e.text_ne_nil
  · exact Element.readListed_eq_unlistable_iff

/-- All elements of a token are listed if they fit and none of them overflows. -/
theorem listedElements_eq_ok_iff (hb : b.low ≤ b.high) :
    listedElements b token = .ok es ↔
      IsList token es ∧ ∀ e ∈ es, e.Fits b ∧ ¬ e.Overflows b := by
  simp only [listedElements_eq_mapM, mapM_eq_ok, readListed_eq_ok_iff hb]
  exact forall₂_text_iff

theorem listedElements_eq_unlistable_iff (hb : b.low ≤ b.high) :
    listedElements b token = .error .unlistable ↔ Overflows b token := by
  simp only [listedElements_eq_mapM, mapM_eq_error_iff, readListed_eq_ok_iff hb,
    readListed_eq_unlistable_iff, Overflows, and_assoc]

theorem not_overflows (hb : b.high - b.low < maxListed) : ¬ Overflows b token := by
  intro h
  obtain ⟨-, -, -, -, -, e, he, hx, -⟩ := h
  exact he.not_overflows hb hx

/-- The elements of a token are listed unless they cannot be read or one of them overflows. -/
theorem exists_listedElements_iff (hb : b.low ≤ b.high) :
    (∃ es, listedElements b token = .ok es) ↔ Accepts b token ∧ ¬ Overflows b token := by
  constructor
  · intro h
    obtain ⟨es, hes⟩ := h
    obtain ⟨hlist, hlisted⟩ := (listedElements_eq_ok_iff hb).mp hes
    refine ⟨⟨es, hlist, fun e he => (hlisted e he).1⟩, fun hx => ?_⟩
    rw [(listedElements_eq_unlistable_iff hb).mpr hx] at hes
    cases hes
  · intro h
    obtain ⟨⟨es, hlist, hfits⟩, hx⟩ := h
    cases hlisted : listedElements b token with
    | ok es => exact ⟨es, rfl⟩
    | error error =>
      obtain ⟨before, part, after, hp, -, hpart⟩ := mapM_eq_error_iff.mp (listedElements_eq_mapM ▸ hlisted)
      have hmem : part ∈ es.map Element.text := by
        rw [← isList_iff.mp hlist, hp]
        simp
      obtain ⟨e, he, rfl⟩ := List.mem_map.mp hmem
      by_cases hover : e.Overflows b
      · rw [readListed_eq_unlistable_iff.mpr ⟨e, (hfits e he).isFormed, hover, rfl⟩] at hpart
        cases hpart
        exact absurd ((listedElements_eq_unlistable_iff hb).mp hlisted) hx
      · rw [(readListed_eq_ok_iff hb).mpr ⟨⟨hfits e he, hover⟩, rfl⟩] at hpart
        cases hpart

theorem listedElements_ne_overlong (h : ¬ HasLongNumber token) :
    listedElements b token ≠ .error (.overlong o) := by
  intro hstop
  obtain ⟨before, part, after, hp, -, hpart⟩ := mapM_eq_error_iff.mp (listedElements_eq_mapM ▸ hstop)
  have hmem : part ∈ Text.pieces ',' token := by simp [hp]
  rw [readListed] at hpart
  split at hpart
  · cases hpart
  · obtain ⟨ds, hds, hs⟩ := ((Element.read_eq_overlong_iff (Text.notMem_of_mem_pieces hmem)).mp
      (Element.read_of_readListed_overlong hpart)).exists_isWritten
    exact h (hs.hasLongNumber.mono (hds.trans (Text.isInfix_of_mem_pieces hmem)))

/-- The fault of a token is that of its first piece that is empty or cannot be read, if all before are listed. -/
theorem exists_part_of_listed_fault (h : listedElements b token = .error (.fault f)) :
    ∃ before part after, Text.pieces ',' token = before ++ part :: after ∧
      (∀ p ∈ before, ∃ e, readListed b token p = .ok e) ∧
      (part = [] ∧ f = .emptyElement (String.ofList token) ∨
        part ≠ [] ∧ Element.readListed b part = .error (.fault f)) := by
  rw [listedElements_eq_mapM, mapM_eq_error_iff] at h
  obtain ⟨before, part, after, hp, hbefore, hpart⟩ := h
  refine ⟨before, part, after, hp, hbefore, ?_⟩
  rw [readListed] at hpart
  split at hpart
  · next hnil =>
    cases hpart
    exact .inl ⟨hnil, rfl⟩
  · next hne => exact .inr ⟨hne, hpart⟩

end Token

end CronSchedule
