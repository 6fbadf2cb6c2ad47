import CronSchedule.Proofs.Outcome
import CronSchedule.Proofs.Text.Pieces
import CronSchedule.Token.Reading
import Mathlib.Data.List.Basic

/-!
The grammar of elements, and the numbers that an element selects. Main statements: reading succeeds on
exactly the written forms of the elements that fit the bounds (`Element.read_eq_ok_iff`), and what is
listed for such an element is what it selects (`Element.mem_values`).
-/

namespace CronSchedule

/-- The numbers of a base lie within the bounds, and a range does not run backwards. -/
def Base.Fits (b : Bounds) : Base → Prop
  | every => True
  | single n => b.low ≤ n.value ∧ n.value ≤ b.high
  | span first last => b.low ≤ first.value ∧ first.value ≤ last.value ∧ last.value ≤ b.high

/-- The base fits and the step is not 0; a step through a range has to meet a number of it. -/
def Element.Fits (b : Bounds) : Element → Prop
  | plain base => base.Fits b
  | stepped (.span first last) step =>
    (Base.span first last).Fits b ∧ 0 < step.value ∧
      ∃ v : Int, (first.value ≤ v ∧ v ≤ last.value) ∧ (step.value : Int) ∣ v - b.low
  | stepped base step => base.Fits b ∧ 0 < step.value

/-- The base fits and the step is not 0, whether the element selects anything or not. -/
def Element.IsFormed (b : Bounds) : Element → Prop
  | plain base => base.Fits b
  | stepped base step => base.Fits b ∧ 0 < step.value

/-- Steps are counted from the lower bound, but from a single number itself. -/
def Element.Selects (b : Bounds) : Element → Int → Prop
  | plain .every, v => b.low ≤ v ∧ v ≤ b.high
  | plain (.single n), v => v = n.value
  | plain (.span first last), v => first.value ≤ v ∧ v ≤ last.value
  | stepped .every step, v => (b.low ≤ v ∧ v ≤ b.high) ∧ (step.value : Int) ∣ v - b.low
  | stepped (.single n) step, v =>
    (n.value ≤ v ∧ v ≤ b.high) ∧ (step.value : Int) ∣ v - n.value
  | stepped (.span first last) step, v =>
    (first.value ≤ v ∧ v ≤ last.value) ∧ (step.value : Int) ∣ v - b.low

namespace Numeral

theorem not_mem_digits (n : Numeral) {c : Char} (hc : c.isDigit = false) : c ∉ n.digits := by
  intro h
  have := List.all_eq_true.mp n.all_isDigit c h
  simp [hc] at this

theorem read_eq_ok_iff {s : List Char} {n : Numeral} : read s = .ok n ↔ n.digits = s :=
  ⟨digits_of_read, fun h => h ▸ read_digits n⟩

theorem digits_injective : Function.Injective digits := by
  rintro ⟨ds, _, _, _⟩ ⟨ds', _, _, _⟩ rfl
  rfl

theorem readWithin_eq_ok_iff {b : Bounds} {token text : List Char} {n : Numeral} :
    readWithin b token text = .ok n ↔ n.digits = text ∧ b.low ≤ n.value ∧ n.value ≤ b.high := by
  constructor
  · intro h
    simp only [readWithin] at h
    split at h
    · cases h
    · split at h
      · cases h
      · cases h
      · next m hm =>
        split at h
        · next hb =>
          cases h
          exact ⟨digits_of_read hm, Bounds.contains_iff.mp hb⟩
        · cases h
  · intro h
    obtain ⟨rfl, hb⟩ := h
    simp only [readWithin, n.digits_ne_nil, ↓reduceIte, read_digits]
    exact if_pos (Bounds.contains_iff.mpr hb)

theorem readStep_eq_ok_iff {token text : List Char} {n : Numeral} :
    readStep token text = .ok n ↔ n.digits = text ∧ 0 < n.value := by
  constructor
  · intro h
    simp only [readStep] at h
    split at h
    · cases h
    · cases h
    · next m hm =>
      split at h
      · cases h
      · next h0 =>
        cases h
        exact ⟨digits_of_read hm, Nat.pos_of_ne_zero h0⟩
  · intro h
    obtain ⟨rfl, h0⟩ := h
    simp only [readStep, read_digits]
    exact if_neg (Nat.ne_of_gt h0)

end Numeral

namespace Base

theorem text_ne_nil (base : Base) : base.text ≠ [] := by
  cases base with
  | every => exact List.cons_ne_nil _ _
  | single n => exact n.digits_ne_nil
  | span first last => simp [text]

theorem not_mem_text (base : Base) {c : Char} (hc : c.isDigit = false) (hs : c ≠ '*')
    (hd : c ≠ '-') : c ∉ base.text := by
  cases base with
  | every => simpa [text] using hs
  | single n => exact n.not_mem_digits hc
  | span first last => simp [text, first.not_mem_digits hc, last.not_mem_digits hc, hd]

theorem slash_notMem_text (base : Base) : '/' ∉ base.text :=
  base.not_mem_text (by decide) (by decide) (by decide)

theorem star_mem_text {base : Base} : '*' ∈ base.text ↔ base = every := by
  cases base with
  | every => simp [text]
  | single n => simp [text, n.not_mem_digits]
  | span first last => simp [text, first.not_mem_digits, last.not_mem_digits]

theorem dash_mem_text {base : Base} : '-' ∈ base.text ↔ ∃ first last, base = span first last := by
  cases base with
  | every => simp [text]
  | single n => simp [text, n.not_mem_digits]
  | span first last => simp [text]

theorem text_injective : Function.Injective text := by
  intro base base' h
  have hstar : base = every ↔ base' = every := by rw [← star_mem_text, h, star_mem_text]
  have hdash : (∃ first last, base = span first last) ↔ ∃ first last, base' = span first last := by
    rw [← dash_mem_text, h, dash_mem_text]
  cases base with
  | every => exact (hstar.mp rfl).symm
  | single n =>
    cases base' with
    | every => exact hstar.mpr rfl
    | single n' => rw [Numeral.digits_injective h]
    | span first' last' =>
      obtain ⟨_, _, ⟨⟩⟩ := hdash.mpr ⟨first', last', rfl⟩
  | span first last =>
    obtain ⟨first', last', rfl⟩ := hdash.mp ⟨first, last, rfl⟩
    have hd (n : Numeral) : '-' ∉ n.digits := n.not_mem_digits (by decide)
    obtain ⟨hf, -, hl⟩ := (List.append_cons_inj_of_notMem (hd first) (hd last)).mp h
    rw [Numeral.digits_injective hf, Numeral.digits_injective hl]

theorem readSpan_eq_ok_iff {b : Bounds} {text : List Char} {base : Base} :
    readSpan b text = .ok base ↔
      ∃ first last, base = span first last ∧ base.text = text ∧ base.Fits b := by
  constructor
  · intro h
    simp only [readSpan] at h
    split at h
    · next s t hp =>
      rw [bind_eq_ok] at h
      obtain ⟨first, hs, h⟩ := h
      rw [bind_eq_ok] at h
      obtain ⟨last, ht, h⟩ := h
      obtain ⟨rfl, hlow, -⟩ := Numeral.readWithin_eq_ok_iff.mp hs
      obtain ⟨rfl, -, hhigh⟩ := Numeral.readWithin_eq_ok_iff.mp ht
      split at h
      · cases h
      · next hle =>
        cases h
        have ht := Text.eq_of_pieces_pair hp
        exact ⟨first, last, rfl, ht.symm, hlow, Nat.le_of_not_lt hle, hhigh⟩
    · cases h
  · intro h
    obtain ⟨first, last, rfl, rfl, hlow, hle, hhigh⟩ := h
    have hp : Text.pieces '-' (span first last).text = [first.digits, last.digits] :=
      Text.pieces_pair (first.not_mem_digits (by decide)) (last.not_mem_digits (by decide))
    simp only [readSpan, hp]
    refine bind_eq_ok.mpr ⟨first, Numeral.readWithin_eq_ok_iff.mpr ⟨rfl, hlow, by omega⟩, ?_⟩
    refine bind_eq_ok.mpr ⟨last, Numeral.readWithin_eq_ok_iff.mpr ⟨rfl, by omega, hhigh⟩, ?_⟩
    exact if_neg (Nat.not_lt.mpr hle)

/-- Reading a base is the inverse of writing it, for bases that fit. -/
theorem read_eq_ok_iff {b : Bounds} {token text : List Char} {base : Base} :
    read b token text = .ok base ↔ base.text = text ∧ base.Fits b := by
  simp only [read]
  split
  · next hs =>
    subst hs
    constructor
    · intro h
      cases h
      exact ⟨rfl, trivial⟩
    · intro h
      obtain ⟨ht, -⟩ := h
      have hstar : '*' ∈ base.text := ht ▸ List.mem_singleton_self _
      rw [star_mem_text.mp hstar]
  · next hs =>
    split
    · next hd =>
      rw [readSpan_eq_ok_iff]
      constructor
      · intro h
        obtain ⟨first, last, -, h⟩ := h
        exact h
      · intro h
        obtain ⟨rfl, hb⟩ := h
        obtain ⟨first, last, rfl⟩ := dash_mem_text.mp hd
        exact ⟨first, last, rfl, rfl, hb⟩
    · next hd =>
      rw [map_eq_ok]
      constructor
      · intro h
        obtain ⟨n, hn, rfl⟩ := h
        exact Numeral.readWithin_eq_ok_iff.mp hn
      · intro h
        obtain ⟨rfl, hb⟩ := h
        cases base with
        | every => exact absurd rfl hs
        | single n => exact ⟨n, Numeral.readWithin_eq_ok_iff.mpr ⟨rfl, hb⟩, rfl⟩
        | span first last => exact absurd (dash_mem_text.mpr ⟨first, last, rfl⟩) hd

end Base

namespace Element

variable {b : Bounds} {e : Element} {v : Int}

theorem text_ne_nil (e : Element) : e.text ≠ [] := by
  cases e with
  | plain base => exact base.text_ne_nil
  | stepped base step => simp [text]

theorem comma_not_mem_text (e : Element) : ',' ∉ e.text := by
  cases e with
  | plain base => exact base.not_mem_text (by decide) (by decide) (by decide)
  | stepped base step =>
    have hb : ',' ∉ base.text := base.not_mem_text (by decide) (by decide) (by decide)
    simp [text, hb, step.not_mem_digits]

theorem mem_values : v ∈ e.values b ↔ e.Selects b v := by
  have hdvd (a n : Int) : a % n = 0 ↔ n ∣ a := Int.dvd_iff_emod_eq_zero.symm
  match e with
  | plain .every => simp [values, Base.values, Selects]
  | plain (.single n) => simp [values, Base.values, Selects]
  | plain (.span first last) => simp [values, Base.values, Selects]
  | stepped .every step =>
    simp [values, Base.candidates, Base.values, Base.anchor, Selects, hdvd]
  | stepped (.single n) step => simp [values, Base.candidates, Base.anchor, Selects, hdvd]
  | stepped (.span first last) step =>
    simp [values, Base.candidates, Base.values, Base.anchor, Selects, hdvd]

theorem Fits.isFormed (h : e.Fits b) : e.IsFormed b := by
  match e with
  | plain base => exact h
  | stepped .every step => exact h
  | stepped (.single n) step => exact h
  | stepped (.span first last) step => exact ⟨h.1, h.2.1⟩

/-- An element that fits selects something: where a step starts, or what it meets of a range. -/
theorem Fits.exists_selects (hb : b.low ≤ b.high) (h : e.Fits b) : ∃ v, e.Selects b v := by
  match e with
  | plain .every => exact ⟨b.low, Int.le_refl _, hb⟩
  | plain (.single n) => exact ⟨n.value, rfl⟩
  | plain (.span first last) => exact ⟨first.value, Int.le_refl _, by have := h.2.1; omega⟩
  | stepped .every step => exact ⟨b.low, ⟨Int.le_refl _, hb⟩, by simp⟩
  | stepped (.single n) step => exact ⟨n.value, ⟨Int.le_refl _, h.1.2⟩, by simp⟩
  | stepped (.span first last) step => exact h.2.2

theorem fits_iff_isFormed (hb : b.low ≤ b.high) : e.Fits b ↔ e.IsFormed b ∧ ∃ v, e.Selects b v := by
  constructor
  · intro h
    exact ⟨h.isFormed, h.exists_selects hb⟩
  · intro h
    match e with
    | plain base => exact h.1
    | stepped .every step => exact h.1
    | stepped (.single n) step => exact h.1
    | stepped (.span first last) step => exact ⟨h.1.1, h.1.2, h.2⟩

theorem isEmpty_values : (e.values b).isEmpty = false ↔ ∃ v, e.Selects b v := by
  rw [List.isEmpty_eq_false_iff_exists_mem]
  exact exists_congr fun _ => mem_values

theorem refuseEmpty_eq_ok_iff (hb : b.low ≤ b.high) {token : List Char} {e' : Element}
    (h : e.IsFormed b) : refuseEmpty b token e = .ok e' ↔ e' = e ∧ e.Fits b := by
  rw [fits_iff_isFormed hb, and_iff_right h]
  cases e with
  | plain base =>
    have hsome : ∃ v, (plain base).Selects b v := Fits.exists_selects hb h
    simp [refuseEmpty, hsome, eq_comm]
  | stepped base step =>
    rw [refuseEmpty, ← isEmpty_values]
    split <;> simp [eq_comm, *]

theorem readStepped_eq_ok_iff {token : List Char} :
    readStepped b token = .ok e ↔
      ∃ base step, e = stepped base step ∧ e.text = token ∧ e.IsFormed b := by
  constructor
  · intro h
    simp only [readStepped] at h
    split at h
    · next s t hp =>
      split at h
      · cases h
      · rw [bind_eq_ok] at h
        obtain ⟨step, ht, h⟩ := h
        rw [bind_eq_ok] at h
        obtain ⟨base, hs, h⟩ := h
        obtain ⟨rfl, hstep⟩ := Numeral.readStep_eq_ok_iff.mp ht
        obtain ⟨rfl, hbase⟩ := Base.read_eq_ok_iff.mp hs
        cases h
        exact ⟨base, step, rfl, (Text.eq_of_pieces_pair hp).symm, hbase, hstep⟩
    · cases h
  · intro h
    obtain ⟨base, step, rfl, rfl, hbase, hstep⟩ := h
    have hp : Text.pieces '/' (stepped base step).text = [base.text, step.digits] :=
      Text.pieces_pair base.slash_notMem_text (step.not_mem_digits (by decide))
    simp only [readStepped, hp, if_neg base.text_ne_nil]
    refine bind_eq_ok.mpr ⟨step, Numeral.readStep_eq_ok_iff.mpr ⟨rfl, hstep⟩, ?_⟩
    exact bind_eq_ok.mpr ⟨base, Base.read_eq_ok_iff.mpr ⟨rfl, hbase⟩, rfl⟩

theorem slash_mem_text {e : Element} : '/' ∈ e.text ↔ ∃ base step, e = stepped base step := by
  cases e with
  | plain base => simp [text, base.slash_notMem_text]
  | stepped base step => simp [text]

theorem text_injective : Function.Injective text := by
  intro e e' h
  have hslash : (∃ base step, e = stepped base step) ↔ ∃ base step, e' = stepped base step := by
    rw [← slash_mem_text, h, slash_mem_text]
  cases e with
  | plain base =>
    cases e' with
    | plain base' => rw [Base.text_injective h]
    | stepped base' step' =>
      obtain ⟨_, _, ⟨⟩⟩ := hslash.mpr ⟨base', step', rfl⟩
  | stepped base step =>
    obtain ⟨base', step', rfl⟩ := hslash.mp ⟨base, step, rfl⟩
    have hs : '/' ∉ step.digits := step.not_mem_digits (by decide)
    obtain ⟨ht, -, hd⟩ := (List.append_cons_inj_of_notMem base.slash_notMem_text hs).mp h
    rw [Base.text_injective ht, Numeral.digits_injective hd]

/-- Reading the form of an element is the inverse of writing it. -/
theorem readForm_eq_ok_iff {token : List Char} :
    readForm b token = .ok e ↔ e.text = token ∧ e.IsFormed b := by
  simp only [readForm]
  split
  · next hc =>
    constructor
    · nofun
    · intro h
      obtain ⟨rfl, -⟩ := h
      exact absurd hc e.comma_not_mem_text
  · split
    · next hs =>
      rw [readStepped_eq_ok_iff]
      constructor
      · intro h
        obtain ⟨base, step, -, h⟩ := h
        exact h
      · intro h
        obtain ⟨rfl, h⟩ := h
        obtain ⟨base, step, rfl⟩ := slash_mem_text.mp hs
        exact ⟨base, step, rfl, rfl, h⟩
    · next hs =>
      rw [map_eq_ok]
      constructor
      · intro h
        obtain ⟨base, h, rfl⟩ := h
        exact Base.read_eq_ok_iff.mp h
      · intro h
        obtain ⟨rfl, h⟩ := h
        cases e with
        | plain base => exact ⟨base, Base.read_eq_ok_iff.mpr ⟨rfl, h⟩, rfl⟩
        | stepped base step => exact absurd (slash_mem_text.mpr ⟨base, step, rfl⟩) hs

/-- Elements that fit are read from their written forms, and from nothing else. -/
theorem read_eq_ok_iff (hb : b.low ≤ b.high) {token : List Char} :
    read b token = .ok e ↔ e.text = token ∧ e.Fits b := by
  rw [read, bind_eq_ok]
  constructor
  · intro h
    obtain ⟨e', hform, h⟩ := h
    obtain ⟨rfl, hformed⟩ := readForm_eq_ok_iff.mp hform
    obtain ⟨rfl, hfits⟩ := (refuseEmpty_eq_ok_iff hb hformed).mp h
    exact ⟨rfl, hfits⟩
  · intro h
    obtain ⟨rfl, hfits⟩ := h
    exact ⟨e, readForm_eq_ok_iff.mpr ⟨rfl, hfits.isFormed⟩,
      (refuseEmpty_eq_ok_iff hb hfits.isFormed).mpr ⟨rfl, hfits⟩⟩

end Element

namespace Token

/-- The token is the written form of one or more elements, with commas between them. -/
def IsList (token : List Char) (es : List Element) : Prop :=
  es ≠ [] ∧ token = Text.joined ',' (es.map Element.text)

/-- A token is accepted if all its elements fit. -/
def Accepts (b : Bounds) (token : List Char) : Prop :=
  ∃ es, IsList token es ∧ ∀ e ∈ es, e.Fits b

/-- A token selects what one of its elements selects. -/
def Selects (b : Bounds) (token : List Char) (v : Int) : Prop :=
  ∃ es, IsList token es ∧ ∃ e ∈ es, e.Selects b v

variable {b : Bounds} {token : List Char} {es : List Element}

theorem isList_iff : IsList token es ↔ Text.pieces ',' token = es.map Element.text := by
  have h : ∀ p ∈ es.map Element.text, ',' ∉ p :=
    List.forall_mem_map.mpr fun e _ => e.comma_not_mem_text
  rw [Text.pieces_eq_iff h, IsList, ne_eq, ne_eq, List.map_eq_nil_iff]

theorem IsList.unique {es' : List Element} (h : IsList token es) (h' : IsList token es') :
    es = es' :=
  Element.text_injective.list_map ((isList_iff.mp h).symm.trans (isList_iff.mp h'))

/-- Reads the text of one element of a token. -/
def readElement (b : Bounds) (token part : List Char) : Except TokenError Element :=
  if part = [] then .error (.fault (.emptyElement (String.ofList token)))
  else Element.read b part

theorem elements_eq_mapM : elements b token = (Text.pieces ',' token).mapM (readElement b token) := rfl

theorem readElement_eq_ok_iff (hb : b.low ≤ b.high) {part : List Char} {e : Element} :
    readElement b token part = .ok e ↔ e.Fits b ∧ e.text = part := by
  rw [readElement]
  split
  · next h =>
    subst h
    exact ⟨nofun, fun h => absurd h.2 e.text_ne_nil⟩
  · rw [Element.read_eq_ok_iff hb, and_comm]

/-- The pieces of a token are the texts of some elements, each with a property, if the token lists these. -/
theorem forall₂_text_iff {P : Element → Prop} :
    List.Forall₂ (fun part (e : Element) => P e ∧ e.text = part) (Text.pieces ',' token) es ↔
      IsList token es ∧ ∀ e ∈ es, P e :=
  calc List.Forall₂ (fun part (e : Element) => P e ∧ e.text = part) (Text.pieces ',' token) es
    _ ↔ List.Forall₂ (fun (e : Element) part => P e ∧ e.text = part) es (Text.pieces ',' token) :=
      ⟨.flip, .flip⟩
    _ ↔ (∀ e ∈ es, P e) ∧ es.map Element.text = Text.pieces ',' token := by
      rw [List.forall₂_and_left, ← List.forall₂_map_left_iff, List.forall₂_eq_eq_eq]
    _ ↔ IsList token es ∧ ∀ e ∈ es, P e := by rw [isList_iff, and_comm, eq_comm]

/-- Reading a token succeeds exactly on lists of elements that fit. -/
theorem elements_eq_ok_iff (hb : b.low ≤ b.high) :
    elements b token = .ok es ↔ IsList token es ∧ ∀ e ∈ es, e.Fits b := by
  simp only [elements_eq_mapM, mapM_eq_ok, readElement_eq_ok_iff hb]
  exact forall₂_text_iff

theorem accepts_iff (hb : b.low ≤ b.high) : Accepts b token ↔ ∃ es, elements b token = .ok es :=
  exists_congr fun _ => (elements_eq_ok_iff hb).symm

theorem mem_selection (h : IsList token es) {v : Int} :
    v ∈ selection b es ↔ Selects b token v := by
  simp only [selection, Ascending.mem_ofList, List.mem_flatMap, Element.mem_values]
  constructor
  · exact fun hv => ⟨es, h, hv⟩
  · intro hx
    obtain ⟨es', h', hv⟩ := hx
    exact h.unique h' ▸ hv

end Token

end CronSchedule
