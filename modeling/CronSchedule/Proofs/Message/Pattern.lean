import CronSchedule.Message.Pattern
import CronSchedule.Proofs.Message.Template

/-!
Messages are filled in without fail, and what is put in is not looked at again (`Locale.format_eq`).
-/

namespace CronSchedule

/-- Nothing in the text opens or closes a placeholder. -/
def Piece.isPlain : Piece → Bool
  | text s => s.toList.all fun c => c ≠ '\x7b' && c ≠ '\x7d'
  | hole _ => true

theorem Message.isPlain_of_mem_template (m : Message) (l : Locale) :
    ∀ piece ∈ m.template l, piece.isPlain = true := by
  apply List.all_eq_true.mp
  cases m <;> cases l <;> decide +kernel

theorem Placeholder.isAlpha_of_mem_name (p : Placeholder) : ∀ c ∈ p.name.toList, c.isAlpha = true := by
  apply List.all_eq_true.mp
  cases p <;> decide +kernel

theorem Placeholder.toList_text (p : Placeholder) :
    p.text.toList = '\x7b' :: p.name.toList ++ ['\x7d'] := by
  simp [text]

variable {values : List (String × String)} {rest : List Char}

theorem fillPattern_cons {c : Char} (hopen : c ≠ '\x7b') (hclose : c ≠ '\x7d') :
    fillPattern values none (c :: rest) = (c :: ·) <$> fillPattern values none rest := by
  rw [fillPattern, if_neg hopen, if_neg hclose]
  · exact fun _ h => absurd h hopen
  · exact fun _ h => absurd h hclose

theorem fillPattern_text {s : String} (hs : (Piece.text s).isPlain = true) :
    fillPattern values none (s.toList ++ rest) = (s.toList ++ ·) <$> fillPattern values none rest := by
  rw [Piece.isPlain, List.all_eq_true] at hs
  generalize s.toList = cs at hs ⊢
  induction cs with
  | nil => simp
  | cons c cs ih =>
    obtain ⟨hc, hcs⟩ := List.forall_mem_cons.mp hs
    rw [Bool.and_eq_true, decide_eq_true_iff, decide_eq_true_iff] at hc
    rw [List.cons_append, fillPattern_cons hc.1 hc.2, ih hcs, Functor.map_map]
    rfl

theorem fillPattern_name {name read : List Char} {value : String}
    (hname : ∀ c ∈ name, c.isAlpha = true)
    (hvalue : values.lookup (String.ofList (read ++ name)) = some value) :
    fillPattern values (some read) (name ++ '\x7d' :: rest) =
      (value.toList ++ ·) <$> fillPattern values none rest := by
  induction name generalizing read with
  | nil =>
    rw [List.append_nil] at hvalue
    rw [List.nil_append, fillPattern, if_pos rfl, hvalue]
  | cons c name ih =>
    obtain ⟨hc, hname⟩ := List.forall_mem_cons.mp hname
    have hclose : c ≠ '\x7d' := by
      rintro rfl
      exact absurd hc (by decide)
    rw [List.cons_append, fillPattern, if_neg hclose, if_pos hc]
    apply ih hname
    rwa [List.append_assoc]

theorem fillPattern_open {s : List Char} (h : s.head? ≠ some '\x7b') :
    fillPattern values none ('\x7b' :: s) = fillPattern values (some []) s := by
  rw [fillPattern, if_pos rfl]
  · intro rest _ hs
    exact h (congrArg List.head? hs)
  · intro rest hbrace
    exact absurd hbrace (by decide)

theorem fillPattern_hole {p : Placeholder} {value : String} (hvalue : values.lookup p.name = some value) :
    fillPattern values none (p.text.toList ++ rest) =
      (value.toList ++ ·) <$> fillPattern values none rest := by
  -- An empty name, or one with a brace, would be taken for two braces.
  have hhead : (p.name.toList ++ '\x7d' :: rest).head? ≠ some '\x7b' := by
    intro h
    cases hname : p.name.toList with
    | nil =>
      rw [hname] at h
      cases h
    | cons c name =>
      rw [hname] at h
      cases h
      exact absurd (p.isAlpha_of_mem_name _ (hname ▸ List.mem_cons_self)) (by decide)
  rw [Placeholder.toList_text, List.append_assoc, List.cons_append, List.singleton_append,
    fillPattern_open hhead, fillPattern_name p.isAlpha_of_mem_name]
  rwa [List.nil_append, String.ofList_toList]

/-- A template is filled in by its text as it is by its pieces, if it has a brace only where a placeholder
is. -/
theorem fillPattern_fill {t : Template} {b : Bindings} (ht : ∀ piece ∈ t, piece.isPlain = true)
    (hb : t.missing? b = none) :
    fillPattern b.named none (t.fill []).toList = .ok (t.fill b).toList := by
  rw [Template.missing?_eq_none_iff] at hb
  induction t with
  | nil => rfl
  | cons piece t ih =>
    obtain ⟨hpiece, ht⟩ := List.forall_mem_cons.mp ht
    have hrest := ih ht fun p hp => hb p (List.mem_cons_of_mem piece hp)
    rw [Template.fill_cons, Template.fill_cons, String.toList_append, String.toList_append]
    cases piece with
    | text s =>
      rw [Piece.fill, fillPattern_text hpiece, hrest]
      rfl
    | hole p =>
      obtain ⟨value, hvalue⟩ := hb p List.mem_cons_self
      have hname : b.named.lookup p.name = some value := (Template.lookup_named b p).trans hvalue
      have hopen : Piece.fill [] (.hole p) = p.text := rfl
      have hfilled : Piece.fill b (.hole p) = value := by rw [Piece.fill, hvalue, Option.getD_some]
      rw [hopen, hfilled, fillPattern_hole hname, hrest]
      rfl

/-- With a value for each placeholder a message is filled in without fail. -/
theorem Locale.format_eq {l : Locale} {m : Message} {b : Bindings}
    (h : (m.template l).missing? b = none) : l.format m b = .ok (m.say l b) := by
  rw [format]
  split
  · next hempty =>
    rw [List.isEmpty_iff.mp hempty]
    rfl
  · rw [Message.pattern, Message.say, fillPattern_fill (m.isPlain_of_mem_template l) h]
    exact congrArg Except.ok String.ofList_toList

example : (Locale.en.format .badStep [(.token, "\x7btoken\x7d/0")]).toOption =
    some "step in '\x7btoken\x7d/0' must be a positive integer" := by
  decide +kernel

end CronSchedule
