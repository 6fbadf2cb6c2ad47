import CronSchedule.Proofs.Description.Elements
import CronSchedule.Proofs.Text.Figures
import CronSchedule.Proofs.Text.Pieces

/-!
English descriptions as clauses of words: what stands between two commas is a clause, and what stands
between two spaces a word. Main statement: what is said of a field is its clauses written out
(`Field.written_clausesOf`).
-/

namespace CronSchedule

/-- The words between two commas; after a comma the first of them is empty. -/
abbrev Clause := List String

namespace Clause

def written (cs : List Clause) : String :=
  ",".intercalate (cs.map (" ".intercalate ·))

/-- The items of a list in words: an item that a comma follows ends its clause, and the last one comes
after an `and`; `rest` is what follows the list. -/
def listing (rest : Clause) : List Clause → List Clause
  | [] => [rest]
  | [x] => [x ++ rest]
  | [x, y] => [x ++ "and" :: (y ++ rest)]
  | x :: xs => x :: (listing rest xs).modifyHead ("" :: ·)

end Clause

namespace Slot

/-- What a value of a slot is called. -/
def called (slot : Slot) (n : Int) : String :=
  Locale.en.value slot n

/-- What a step through a slot counts, word by word. -/
def unitWords : Slot → Clause
  | dayOfWeek => ["days", "of", "the", "week"]
  | s => [Locale.en.stepUnit s]

/-- The words in front of the values of a slot. -/
def leadWords (one : Bool) : Slot → Clause
  | second => ["", "at", if one then "second" else "seconds"]
  | minute => ["", "at", if one then "minute" else "minutes"]
  | hour => ["", "at", if one then "hour" else "hours"]
  | dayOfMonth => ["", "on", if one then "day" else "days"]
  | month => ["", "in"]
  | dayOfWeek => ["", "on"]
  | year => ["", "in"]

def tailWords : Slot → Clause
  | dayOfMonth => ["of", "the", "month"]
  | _ => []

end Slot

namespace Base

def words (slot : Slot) : Base → Clause
  | every => [slot.called slot.bounds.low, "through", slot.called slot.bounds.high]
  | single n => [slot.called n.value]
  | span first last => [slot.called first.value, "through", slot.called last.value]

def stepTail (slot : Slot) : Base → Clause
  | every => []
  | single n => ["starting", "at", slot.called n.value]
  | span first last => "from" :: (span first last).words slot

end Base

def Element.words (slot : Slot) : Element → Clause
  | plain base => base.words slot
  | stepped base step =>
    "every" :: String.ofList step.digits :: (slot.unitWords ++ base.stepTail slot)

/-- The clauses of a field that lists elements. -/
def Field.clausesOf (f : Field) (es : List Element) : List Clause :=
  match es with
  | [.stepped base step] => ["" :: (Element.stepped base step).words f.slot]
  | _ =>
    if f.isWorkingDays then [["", "on", "weekdays"]]
    else (Clause.listing f.slot.tailWords (es.map (·.words f.slot))).modifyHead
      (f.slot.leadWords (Element.isOne es) ++ ·)

namespace Message

theorem say_range (x y : String) :
    range.say .en [(.start, x), (.stop, y)] = x ++ (" through " ++ y) := by
  change x ++ (" through " ++ (y ++ "")) = _
  rw [String.append_empty]

theorem say_step (step unit : String) :
    Message.step.say .en [(.step, step), (.unit, unit)] = "every " ++ (step ++ (" " ++ unit)) := by
  change "every " ++ (step ++ (" " ++ (unit ++ ""))) = _
  rw [String.append_empty]

theorem say_stepFrom (step unit x : String) :
    stepFrom.say .en [(.step, step), (.unit, unit), (.start, x)] =
      "every " ++ (step ++ (" " ++ (unit ++ (" starting at " ++ x)))) := by
  change "every " ++ (step ++ (" " ++ (unit ++ (" starting at " ++ (x ++ ""))))) = _
  rw [String.append_empty]

theorem say_stepThrough (step unit x y : String) :
    stepThrough.say .en [(.step, step), (.unit, unit), (.start, x), (.stop, y)] =
      "every " ++ (step ++ (" " ++ (unit ++ (" from " ++ (x ++ (" through " ++ y)))))) := by
  change "every " ++ (step ++ (" " ++ (unit ++ (" from " ++ (x ++ (" through " ++ (y ++ ""))))))) = _
  rw [String.append_empty]

end Message

theorem Base.phrase_en (slot : Slot) (base : Base) :
    base.phrase .en slot = " ".intercalate (base.words slot) := by
  have hrange (x y : String) :
      Locale.en.through x y = " ".intercalate [x, "through", y] := by
    rw [Locale.through, Message.say_range, ← String.toList_inj]
    simp
  cases base with
  | every => exact hrange _ _
  | single n => rfl
  | span first last => exact hrange _ _

theorem Slot.stepUnit_en (slot : Slot) :
    Locale.en.stepUnit slot = " ".intercalate slot.unitWords := by
  cases slot <;> rfl

theorem Slot.unitWords_ne_nil (slot : Slot) : slot.unitWords ≠ [] := by
  cases slot <;> exact List.cons_ne_nil _ _

theorem Base.stepPhrase_en (slot : Slot) (base : Base) (step : Numeral) :
    base.stepPhrase .en slot step = " ".intercalate ((Element.stepped base step).words slot) := by
  have hne : slot.unitWords ++ base.stepTail slot ≠ [] :=
    List.append_ne_nil_of_left_ne_nil slot.unitWords_ne_nil _
  have hsplit {ws : Clause} (h : ws ≠ []) : " ".intercalate (slot.unitWords ++ ws) =
      Locale.en.stepUnit slot ++ " " ++ " ".intercalate ws := by
    rw [String.intercalate_append_of_ne_nil slot.unitWords_ne_nil h, slot.stepUnit_en]
  rw [Element.words, String.intercalate_cons_cons, String.intercalate_cons_of_ne_nil hne]
  cases base with
  | every =>
    rw [stepTail, List.append_nil, ← slot.stepUnit_en, stepPhrase, Message.say_step, ← String.toList_inj]
    simp
  | single n =>
    rw [stepTail, hsplit (List.cons_ne_nil _ _), stepPhrase, List.cons_append, List.cons_append,
      List.nil_append, Message.say_stepFrom, ← String.toList_inj]
    simp [Slot.called]
  | span first last =>
    rw [stepTail, hsplit (List.cons_ne_nil _ _), stepPhrase, List.cons_append, List.cons_append,
      List.nil_append, Message.say_stepThrough, words, ← String.toList_inj]
    simp [Slot.called]

theorem Element.phrase_en (slot : Slot) (e : Element) :
    e.phrase .en slot = " ".intercalate (e.words slot) := by
  cases e with
  | plain base => exact base.phrase_en slot
  | stepped base step => exact base.stepPhrase_en slot step

namespace Clause

theorem written_cons {cs : List Clause} (h : cs ≠ []) (c : Clause) :
    written (c :: cs) = " ".intercalate c ++ "," ++ written cs :=
  String.intercalate_cons_of_ne_nil (mt List.map_eq_nil_iff.mp h)

theorem written_append {cs ds : List Clause} (hc : cs ≠ []) (hd : ds ≠ []) :
    written (cs ++ ds) = written cs ++ "," ++ written ds := by
  rw [written, List.map_append]
  exact String.intercalate_append_of_ne_nil (mt List.map_eq_nil_iff.mp hc) (mt List.map_eq_nil_iff.mp hd)

theorem written_lead {lead c : Clause} (hl : lead ≠ []) (hc : c ≠ []) (cs : List Clause) :
    written ((lead ++ c) :: cs) = " ".intercalate lead ++ " " ++ written (c :: cs) := by
  have hsplit := String.intercalate_append_of_ne_nil hl hc (s := " ")
  by_cases h : cs = []
  · subst h
    simpa [written] using hsplit
  · rw [written_cons h, written_cons h, hsplit]
    simp only [String.append_assoc]

variable {rest : Clause}

theorem listing_cons (rest x : Clause) (xs : List Clause) :
    ∃ r cs, listing rest (x :: xs) = (x ++ r) :: cs := by
  match xs with
  | [] => exact ⟨rest, [], rfl⟩
  | [y] => exact ⟨_, [], rfl⟩
  | y :: z :: zs => exact ⟨[], _, by rw [List.append_nil]; rfl⟩

theorem listing_cons_cons_cons (x y z : Clause) (xs : List Clause) :
    listing rest (x :: y :: z :: xs) =
      x :: (listing rest (y :: z :: xs)).modifyHead ("" :: ·) := rfl

/-- A list in words reads as the list of the items; `t` is what follows it. -/
theorem written_listing {t : String}
    (ht : ∀ c : Clause, c ≠ [] → " ".intercalate (c ++ rest) = " ".intercalate c ++ t)
    {items : List Clause} (hne : items ≠ []) (h : ∀ x ∈ items, x ≠ []) :
    written (listing rest items) = Locale.en.listing (items.map (" ".intercalate ·)) ++ t := by
  have hand : Message.listLastSeparator.say .en [] = " and " := rfl
  have hcomma : Message.listSeparator.say .en [] = ", " := rfl
  match items, hne with
  | [x], _ => exact String.intercalate_singleton.trans (ht x (h x (by simp)))
  | [x, y], _ =>
    have hx := h x (by simp)
    have hy := h y (by simp)
    have hrest : y ++ rest ≠ [] := List.append_ne_nil_of_left_ne_nil hy _
    have hpair : written (listing rest [x, y]) = " ".intercalate (x ++ "and" :: (y ++ rest)) :=
      String.intercalate_singleton
    rw [hpair, String.intercalate_append_of_ne_nil hx (List.cons_ne_nil _ _),
      String.intercalate_cons_of_ne_nil hrest, ht y hy, List.map_cons, List.map_singleton,
      Locale.listing_pair, hand, ← String.toList_inj]
    simp
  | x :: y :: z :: xs, _ =>
    have hrest : ∀ w ∈ y :: z :: xs, w ≠ [] := fun w hw => h w (List.mem_cons_of_mem x hw)
    have ih := written_listing ht (List.cons_ne_nil y (z :: xs)) hrest
    obtain ⟨r, cs, hcs⟩ := listing_cons rest y (z :: xs)
    have hy : y ++ r ≠ [] := List.append_ne_nil_of_left_ne_nil (hrest y List.mem_cons_self) _
    have hspace := written_lead (List.cons_ne_nil "" []) hy cs
    rw [List.singleton_append] at hspace
    rw [listing_cons_cons_cons, hcs, List.modifyHead_cons, written_cons (List.cons_ne_nil _ _), hspace,
      ← hcs, ih]
    simp only [List.map_cons]
    rw [Locale.listing_cons_cons_cons, hcomma, ← String.toList_inj]
    simp

end Clause

theorem Slot.leadWords_ne_nil (slot : Slot) (one : Bool) : slot.leadWords one ≠ [] := by
  cases slot <;> exact List.cons_ne_nil _ _

theorem Base.words_ne_nil (slot : Slot) (base : Base) : base.words slot ≠ [] := by
  cases base <;> exact List.cons_ne_nil _ _

theorem Element.words_ne_nil (slot : Slot) (e : Element) : e.words slot ≠ [] := by
  cases e with
  | plain base => exact base.words_ne_nil slot
  | stepped base step => exact List.cons_ne_nil _ _

namespace Slot

def tailText : Slot → String
  | dayOfMonth => " of the month"
  | _ => ""

theorem intercalate_tailWords (slot : Slot) {c : Clause} (h : c ≠ []) :
    " ".intercalate (c ++ slot.tailWords) = " ".intercalate c ++ slot.tailText := by
  cases slot with
  | dayOfMonth =>
    rw [tailWords, String.intercalate_append_of_ne_nil h (List.cons_ne_nil _ _), tailText,
      ← String.toList_inj]
    simp
  | _ => simp [tailWords, tailText]

theorem say_values (slot : Slot) (one : Bool) (values : String) :
    " " ++ (if one then slot.one else slot.many).say .en [(.values, values)] =
      " ".intercalate (slot.leadWords one) ++ " " ++ (values ++ slot.tailText) := by
  rw [← String.toList_inj]
  cases slot <;> cases one <;>
    simp [one, many, Message.say, Message.template, Message.english, Piece.fill, leadWords, tailText]

end Slot

namespace Field

variable {f : Field} {slot : Slot} {es : List Element}

/-- A field is a single step, or the working days, or a list with words in front of it. -/
theorem clausesOf_cases (f : Field) (es : List Element) :
    (∃ base step, es = [.stepped base step] ∧
        f.clausesOf es = ["" :: (Element.stepped base step).words f.slot]) ∨
      (f.isWorkingDays = true ∧ f.clausesOf es = [["", "on", "weekdays"]] ∧
        f.phrase .en es = "on weekdays") ∨
      f.clausesOf es = (Clause.listing f.slot.tailWords (es.map (·.words f.slot))).modifyHead
          (f.slot.leadWords (Element.isOne es) ++ ·) ∧
        f.phrase .en es = (if Element.isOne es then f.slot.one else f.slot.many).say .en
          [(.values, Locale.en.listing (es.map (·.phrase .en f.slot)))] := by
  rcases f.shape_cases es with ⟨base, step, rfl⟩ | ⟨hplain, hdays | hdays⟩
  · exact .inl ⟨base, step, rfl, rfl⟩
  · rw [clausesOf.eq_2 f es hplain, phrase.eq_2 .en f es hplain, if_pos hdays, if_pos hdays]
    exact .inr (.inl ⟨hdays, rfl, rfl⟩)
  · rw [clausesOf.eq_2 f es hplain, phrase.eq_2 .en f es hplain, if_neg hdays, if_neg hdays]
    exact .inr (.inr ⟨rfl, rfl⟩)

theorem written_clausesOf (hne : es ≠ []) :
    Clause.written (f.clausesOf es) = " " ++ f.phrase .en es := by
  rcases f.clausesOf_cases es with ⟨base, step, rfl, hclauses⟩ | ⟨-, hclauses, hphrase⟩ |
    ⟨hclauses, hphrase⟩
  · have hwords := Element.words_ne_nil f.slot (.stepped base step)
    rw [hclauses, phrase, Base.stepPhrase_en]
    exact String.intercalate_singleton.trans (String.intercalate_cons_of_ne_nil hwords)
  · rw [hclauses, hphrase]
    rfl
  · have hitems : ∀ x ∈ es.map (·.words f.slot), x ≠ [] :=
      List.forall_mem_map.mpr fun e _ => e.words_ne_nil f.slot
    have hitems' : es.map (·.words f.slot) ≠ [] := mt List.map_eq_nil_iff.mp hne
    have hlist := Clause.written_listing (fun c => f.slot.intercalate_tailWords) hitems' hitems
    have hphrases : es.map (·.phrase .en f.slot) =
        (es.map (·.words f.slot)).map (" ".intercalate ·) := by
      simp only [List.map_map]
      exact List.map_congr_left fun e _ => e.phrase_en f.slot
    rw [hclauses, hphrase, f.slot.say_values, hphrases, ← hlist]
    -- the words in front of the values go into the first clause, that of the first item
    obtain ⟨e, es', rfl⟩ := List.exists_cons_of_ne_nil hne
    obtain ⟨r, cs, hcs⟩ := Clause.listing_cons f.slot.tailWords (e.words f.slot)
      (es'.map (·.words f.slot))
    have hhead := List.append_ne_nil_of_left_ne_nil (e.words_ne_nil f.slot) r
    rw [List.map_cons, hcs, List.modifyHead_cons,
      Clause.written_lead (f.slot.leadWords_ne_nil _) hhead]

/-- The clauses of a field; a field that is open has none. -/
def clauses (f : Field) : List Clause :=
  match f.reading with
  | .listed es _ => f.clausesOf es
  | _ => []

end Field

/-- What is said of a schedule without restricted slots. -/
def Mode.unitClause : Mode → Clause
  | minutes => ["", "every", "minute"]
  | seconds => ["", "every", "second"]

namespace Expression

def clausesAt (e : Expression) (slot : Slot) : List Clause :=
  (e.field? slot).elim [] Field.clauses

def slotClauses (e : Expression) : List Clause :=
  e.mode.slots.flatMap e.clausesAt

/-- The clauses of the sentence that is put together for an expression. -/
def clauses (e : Expression) : List Clause :=
  if e.slotClauses = [] then [e.mode.unitClause] else e.slotClauses

end Expression

end CronSchedule
