import CronSchedule.Datum.Json
import CronSchedule.Proofs.Association
import CronSchedule.Proofs.Datum.Escape

/-!
Records on one line of JSON. Main statements: a record of texts with different keys is read again from its
line (`Json.read_line_texts`), and the line holds printable characters of ASCII only
(`Datum.isAsciiLine_line_texts`).
-/

namespace CronSchedule

open Text (IsAsciiLine)

/-- Entries as the members of a record. -/
def Datum.texts (entries : List (String × String)) : Members :=
  entries.map fun e => (e.1, .text e.2)

namespace Datum

theorem lineMembers_cons_cons (m k : Key × Datum) (members : Members) :
    lineMembers (m :: k :: members) = (Json.quotedString true m.1.display ++ ':' :: ' ' :: m.2.lineText) ++
      ',' :: ' ' :: lineMembers (k :: members) := rfl

/-! ## Characters -/

theorem isAsciiLine_lineMembers {members : Members} (h : ∀ m ∈ members, IsAsciiLine m.2.lineText) :
    IsAsciiLine (lineMembers members) := by
  induction members with
  | nil => exact Text.isAsciiLine_nil
  | cons m members ih =>
    obtain ⟨hm, hmembers⟩ := List.forall_mem_cons.mp h
    have hmember : IsAsciiLine (Json.quotedString true m.1.display ++ ':' :: ' ' :: m.2.lineText) :=
      (Json.isAsciiLine_quotedString m.1.display).append
        (Text.isAsciiLine_cons.mpr ⟨by decide, Text.isAsciiLine_cons.mpr ⟨by decide, hm⟩⟩)
    cases members with
    | nil => exact hmember
    | cons k members =>
      have hrest : IsAsciiLine (',' :: ' ' :: lineMembers (k :: members)) :=
        Text.isAsciiLine_cons.mpr ⟨by decide, Text.isAsciiLine_cons.mpr ⟨by decide, ih hmembers⟩⟩
      rw [lineMembers_cons_cons]
      exact hmember.append hrest

theorem isAsciiLine_line_texts (entries : List (String × String)) :
    IsAsciiLine (record (texts entries)).line.toList := by
  have hmembers : IsAsciiLine (lineMembers (texts entries)) := by
    apply isAsciiLine_lineMembers
    intro m hm
    obtain ⟨e, -, rfl⟩ := List.mem_map.mp hm
    exact Json.isAsciiLine_quotedString e.2
  rw [line, String.toList_ofList]
  exact (Text.isAsciiLine_cons.mpr ⟨by decide, hmembers⟩ : IsAsciiLine ('\x7b' :: _)).append (by decide)

end Datum

/-! ## Reading -/

namespace Json

variable {half : Nat → Char} {depth fuel : Nat} {entries : List (String × String)} {rest : List Char}

open Datum (texts lineMembers)

theorem lineMembers_texts_cons_cons (e f : String × String) (entries : List (String × String)) :
    lineMembers (texts (e :: f :: entries)) = (quotedString true e.1 ++ ':' :: ' ' ::
      (Datum.text e.2).lineText) ++ ',' :: ' ' :: lineMembers (texts (f :: entries)) :=
  Datum.lineMembers_cons_cons _ _ _

theorem readValue_text (s : String) :
    readValue half depth (fuel + 1) ((Datum.text s).lineText ++ rest) = .ok (.text s, rest) := by
  obtain ⟨inner, hinner, hread⟩ := readString_quotedString s rest
  rw [Datum.lineText, hinner, readValue, hread]

/-- Reads an entry, and goes on with what follows it. -/
theorem readMembers_entry (key text : String) (tail : List Char) :
    readMembers half depth (fuel + 2)
        (quotedString true key ++ ':' :: ' ' :: (Datum.text text).lineText ++ tail) =
      match skipSpace tail with
      | '\x7d' :: rest => .ok ([(key, .text text)], rest)
      | ',' :: rest => do
        let (members, rest) ← readMembers half depth (fuel + 1) (skipSpace rest)
        return ((key, .text text) :: members, rest)
      | _ => .error .malformed := by
  obtain ⟨inner, hinner, hread⟩ := readString_quotedString key
    (':' :: ' ' :: ((Datum.text text).lineText ++ tail))
  have hcolon : skipSpace (':' :: ' ' :: ((Datum.text text).lineText ++ tail)) =
      ':' :: ' ' :: ((Datum.text text).lineText ++ tail) := rfl
  have hspace : skipSpace (' ' :: ((Datum.text text).lineText ++ tail)) =
      (Datum.text text).lineText ++ tail := rfl
  rw [List.append_assoc, List.cons_append, List.cons_append, hinner, readMembers, hread]
  simp only [hcolon, hspace, readValue_text, bind, Except.bind]
  rfl

/-- The members on a line are read again, one entry after the other. -/
theorem readMembers_lineMembers (hentries : entries ≠ []) (hfuel : entries.length < fuel) :
    readMembers half depth fuel (lineMembers (texts entries) ++ '\x7d' :: rest) =
      .ok (texts entries, rest) := by
  induction entries generalizing fuel with
  | nil => exact absurd rfl hentries
  | cons e entries ih =>
    obtain ⟨fuel, rfl⟩ : ∃ n, fuel = n + 2 :=
      ⟨fuel - 2, by rw [List.length_cons] at hfuel; omega⟩
    cases entries with
    | nil => exact readMembers_entry e.1 e.2 _
    | cons f entries =>
      have hcomma (s : List Char) : skipSpace (',' :: ' ' :: s) = ',' :: ' ' :: s := rfl
      have hrest : readMembers half depth (fuel + 1) (lineMembers (texts (f :: entries)) ++ '\x7d' :: rest) =
          .ok (texts (f :: entries), rest) := by
        apply ih (List.cons_ne_nil f entries)
        rw [List.length_cons] at hfuel
        omega
      have hspace : skipSpace (' ' :: (lineMembers (texts (f :: entries)) ++ '\x7d' :: rest)) =
          lineMembers (texts (f :: entries)) ++ '\x7d' :: rest := by
        cases entries <;> rfl
      rw [lineMembers_texts_cons_cons, List.append_assoc, List.cons_append, List.cons_append,
        readMembers_entry, hcomma]
      simp only [hspace, hrest, bind, Except.bind]
      rfl

theorem length_le_lineMembers (entries : List (String × String)) :
    entries.length ≤ (lineMembers (texts entries)).length := by
  induction entries with
  | nil => exact Nat.le_refl 0
  | cons e entries ih =>
    cases entries with
    | nil => exact Nat.le_add_left 1 _
    | cons f entries =>
      simp only [lineMembers_texts_cons_cons, List.length_append, List.length_cons] at ih ⊢
      omega

theorem exists_lineMembers_eq (hentries : entries ≠ []) :
    ∃ inner, lineMembers (texts entries) = '\x22' :: inner := by
  match entries, hentries with
  | [e], _ => exact ⟨_, rfl⟩
  | e :: f :: entries, _ => exact ⟨_, rfl⟩

theorem readValue_record_texts (hentries : entries ≠ []) (hfuel : entries.length < fuel)
    (hkeys : (entries.map (·.1)).Nodup) :
    readValue half (depth + 1) (fuel + 1) ('\x7b' :: (lineMembers (texts entries) ++ '\x7d' :: rest)) =
      .ok (.record (texts entries), rest) := by
  obtain ⟨inner, hinner⟩ := exists_lineMembers_eq hentries
  have hstep (s : List Char) : readValue half (depth + 1) (fuel + 1) ('\x7b' :: '\x22' :: s) =
      (readMembers half depth fuel ('\x22' :: s)).bind fun r =>
        .ok (.record (Association.ofList r.1), r.2) := by
    rw [readValue]
    rfl
  have hmembers : readMembers half depth fuel (lineMembers (texts entries) ++ '\x7d' :: rest) =
      .ok (texts entries, rest) := readMembers_lineMembers hentries hfuel
  have hnodup : ((texts entries).map (·.1)).Nodup := by
    have htexts : (texts entries).map (·.1) = (entries.map (·.1)).map Key.text := by
      rw [texts, List.map_map, List.map_map]
      rfl
    rw [htexts]
    exact hkeys.map fun _ _ h => Key.text.inj h
  rw [hinner, List.cons_append] at hmembers ⊢
  rw [hstep, hmembers]
  simp only [Except.bind, Association.ofList_of_nodup hnodup]

/-- A record of texts is read again from its line. -/
theorem read_line_texts (hentries : entries ≠ []) (hkeys : (entries.map (·.1)).Nodup) :
    Json.read half (depth + 1) (Datum.record (texts entries)).line = .ok (.record (texts entries)) := by
  have hline : (Datum.record (texts entries)).lineText =
      '\x7b' :: (lineMembers (texts entries) ++ ['\x7d']) := rfl
  have hbrace (s : List Char) : skipSpace ('\x7b' :: s) = '\x7b' :: s := rfl
  have hfuel : entries.length < ('\x7b' :: (lineMembers (texts entries) ++ ['\x7d'])).length := by
    have hle := length_le_lineMembers entries
    simp only [List.length_cons, List.length_append]
    omega
  rw [Json.read, Datum.line, String.toList_ofList, hline, hbrace,
    readValue_record_texts hentries hfuel hkeys]
  rfl

end Json

end CronSchedule
