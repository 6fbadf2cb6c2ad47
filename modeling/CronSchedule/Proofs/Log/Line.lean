import CronSchedule.Log.Record
import CronSchedule.Proofs.Calendar.IsoText
import CronSchedule.Proofs.Datum.Line
import CronSchedule.Proofs.Text.Pieces

/-!
Records as lines. Main statements: in either layout a record is written as the layout asks for
(`LogRecord.isLine_text`), the line of JSON is printable ASCII and is read again as the record's own texts
(`LogRecord.read_text_json`), and a log is cut into the lines of its records again (`LogRecord.pieces_log`).
-/

namespace CronSchedule

open Text (IsAsciiLine pieces)

namespace LogRecord

/-- The time of a record as it is written in JSON, in universal time. -/
def timeText (r : LogRecord) : String :=
  Stamp.isoText ⟨r.created, some (Zone.ofOffset 0)⟩

theorem ofIso?_timeText (r : LogRecord) :
    Stamp.ofIso? r.timeText = some ⟨r.created, some (Zone.ofOffset 0)⟩ :=
  Stamp.ofIso?_isoText (z := Zone.ofOffset 0) (.inl rfl) (by decide)

/-! ## Entries -/

/-- The texts of a record by their keys. -/
def entries (r : LogRecord) : List (String × String) :=
  [("timestamp", r.timeText), ("level", LogLevel.nameOf r.level), ("logger", r.logger),
    ("message", r.message)] ++ (r.error.map fun e => ("exception", e.display)).toList

section

variable (r : LogRecord)

theorem keys_entries : r.entries.map (·.1) =
    ["timestamp", "level", "logger", "message"] ++ (r.error.map fun _ => "exception").toList := by
  rw [entries]
  cases r.error <;> rfl

theorem entries_ne_nil : r.entries ≠ [] :=
  List.cons_ne_nil _ _

theorem nodup_keys_entries : (r.entries.map (·.1)).Nodup := by
  rw [keys_entries]
  cases r.error with
  | none => decide
  | some e => exact (by decide : ["timestamp", "level", "logger", "message", "exception"].Nodup)

end

/-! ## Lines -/

/-- The text is a number below 100 in two figures. -/
structure IsTwoFigures (n : Nat) (s : List Char) : Prop where
  length_eq : s.length = 2
  isDigit : ∀ c ∈ s, c.isDigit = true
  natValue_eq : DecimalText.natValue s = n

/-- The text is the time of day without fractions of a second, two figures each for hours, minutes and
seconds. -/
def ShowsTime (c : Civil) (s : List Char) : Prop :=
  ∃ hour minute second, s = hour ++ ':' :: minute ++ ':' :: second ∧ IsTwoFigures c.hour hour ∧
    IsTwoFigures c.minute minute ∧ IsTwoFigures c.second second

/-- The text is the name of the level, filled up with blanks to eight characters if it is shorter. -/
def ShowsLevel (level : Int) (s : List Char) : Prop :=
  ∃ blanks, s = (LogLevel.nameOf level).toList ++ List.replicate blanks ' ' ∧ 8 ≤ s.length ∧
    (blanks = 0 ∨ s.length = 8)

/-- What a coloured level starts with: the colour of a level that has a name of its own. -/
def colourStart (level : Int) : List Char :=
  ((LogLevel.ofValue? level).map fun l => '\x1b' :: '[' :: l.colour.toList ++ ['m']).getD []

/-- What the console layout asks for: the time that the clock of the machine shows, the level, the logger in
brackets and the message with a blank between each two, and an error on a line of its own. -/
structure IsConsoleLine (here : LocalClock) (coloured : Bool) (r : LogRecord) (line : List Char) : Prop where
  exists_parts : ∃ time level error,
    line = time ++ ' ' :: ((if coloured then colourStart r.level else []) ++ level ++
      (if coloured then ['\x1b', '[', '0', 'm'] else [])) ++ ' ' :: '[' :: r.logger.toList ++
        ']' :: ' ' :: r.message.toList ++ error ∧
    ShowsTime (here r.created).civil time ∧ ShowsLevel r.level level ∧
      error = (r.error.map fun e => '\n' :: e.display.toList).getD []

/-- What the JSON layout asks for: printable ASCII, read again as a record of these members and no others,
each with the text of the log record, however deep brackets may be nested and whatever stands for half of a pair
of units. -/
structure IsJsonLine (r : LogRecord) (line : String) : Prop where
  isAsciiLine : IsAsciiLine line.toList
  read_eq : ∀ half depth, ∃ members : Members, Json.read half (depth + 1) line = .ok (.record members) ∧
    members.map (·.1) = (["timestamp", "level", "logger", "message"] ++
      (r.error.map fun _ => "exception").toList).map Key.text ∧
    members.lookup (.text "timestamp") = some (.text r.timeText) ∧
    members.lookup (.text "level") = some (.text (LogLevel.nameOf r.level)) ∧
    members.lookup (.text "logger") = some (.text r.logger) ∧
    members.lookup (.text "message") = some (.text r.message) ∧
    members.lookup (.text "exception") = r.error.map fun e => .text e.display

/-- What a layout asks for. -/
def IsLine (here : LocalClock) (r : LogRecord) : Layout → String → Prop
  | .console coloured, line => r.IsConsoleLine here coloured line.toList
  | .json, line => r.IsJsonLine line

theorem isTwoFigures_padded {n : Nat} (h : n < 100) : IsTwoFigures n (Text.padded 2 n) where
  length_eq := Text.length_padded (by decide) h
  isDigit _ := Text.isDigit_of_mem_padded
  natValue_eq := DecimalText.natValue_padded 2 n

/-- Without fractions of a second the time of day is written in hours, minutes and seconds. -/
theorem showsTime_timeText {c : Civil} (h : c.isValid = true) :
    ShowsTime c (Civil.timeText { c with microsecond := 0 }) := by
  simp only [Civil.isValid, Bool.and_eq_true, decide_eq_true_eq] at h
  refine ⟨Text.padded 2 c.hour, Text.padded 2 c.minute, Text.padded 2 c.second, ?_,
    isTwoFigures_padded (by omega), isTwoFigures_padded (by omega), isTwoFigures_padded (by omega)⟩
  rw [Civil.timeText, if_pos rfl, List.append_nil]

theorem showsLevel_rightpad (level : Int) :
    ShowsLevel level ((LogLevel.nameOf level).toList.rightpad 8 ' ') := by
  refine ⟨8 - (LogLevel.nameOf level).toList.length, rfl, ?_, ?_⟩
  all_goals
    rw [List.length_rightpad]
    omega

variable (here : LocalClock) (r : LogRecord)

theorem isConsoleLine_consoleText (coloured : Bool) :
    r.IsConsoleLine here coloured (r.consoleText here coloured).toList where
  exists_parts := by
    refine ⟨_, _, _, ?_, showsTime_timeText (here r.created).isValid_civil, showsLevel_rightpad r.level, rfl⟩
    have hcolour (n : String) : (colourCode n).toList = '\x1b' :: '[' :: n.toList ++ ['m'] := by
      rw [colourCode, String.toList_append, String.toList_append]
      rfl
    have hlevel : (r.levelText coloured).toList = (if coloured then colourStart r.level else []) ++
        (LogLevel.nameOf r.level).toList.rightpad 8 ' ' ++
          (if coloured then ['\x1b', '[', '0', 'm'] else []) := by
      rw [levelText]
      cases coloured with
      | false => simp
      | true =>
        simp only [if_true, String.toList_append, String.toList_ofList, colourStart, hcolour "0"]
        cases LogLevel.ofValue? r.level with
        | none => rfl
        | some l => simp only [Option.map_some, Option.getD_some, hcolour l.colour]; rfl
    have hline : (r.consoleText here coloured).toList = Civil.timeText { (here r.created).civil with
        microsecond := 0 } ++ ' ' :: (r.levelText coloured).toList ++ ' ' :: '[' :: r.logger.toList ++
          ']' :: ' ' :: r.message.toList ++ (r.error.map fun e => '\n' :: e.display.toList).getD [] := by
      rw [consoleText]
      cases r.error with
      | none => simp [String.toList_append]
      | some e => simp [String.toList_append]
    rw [hline, hlevel]

theorem text_json : r.text here .json = (Datum.record (Datum.texts r.entries)).line := by
  rw [text, datum, entries]
  cases r.error <;> rfl

theorem isAsciiLine_text_json : IsAsciiLine (r.text here .json).toList := by
  rw [text_json]
  exact Datum.isAsciiLine_line_texts _

theorem read_text_json_eq (half : Nat → Char) (depth : Nat) :
    Json.read half (depth + 1) (r.text here .json) = .ok (.record (Datum.texts r.entries)) := by
  rw [text_json]
  exact Json.read_line_texts r.entries_ne_nil r.nodup_keys_entries

theorem isJsonLine_text_json : r.IsJsonLine (r.text here .json) where
  isAsciiLine := r.isAsciiLine_text_json here
  read_eq half depth := by
    refine ⟨_, r.read_text_json_eq here half depth, ?_⟩
    rw [Datum.texts, entries]
    refine ⟨?_, rfl, rfl, rfl, rfl, ?_⟩
    · cases r.error <;> rfl
    · cases r.error <;> rfl

/-- A record is written as the layout asks for. -/
theorem isLine_text (layout : Layout) : r.IsLine here layout (r.text here layout) :=
  match layout with
  | .console coloured => r.isConsoleLine_consoleText here coloured
  | .json => r.isJsonLine_text_json here

/-- The line of a record is printable ASCII, so that it is one line whatever the record holds, and it is read
again as a record with these members and no others, each with the record's own text. -/
theorem read_text_json (half : Nat → Char) (depth : Nat) :
    IsAsciiLine (r.text here .json).toList ∧
    ∃ members : Members, Json.read half (depth + 1) (r.text here .json) = .ok (.record members) ∧
      members.map (·.1) = (["timestamp", "level", "logger", "message"] ++
        (r.error.map fun _ => "exception").toList).map Key.text ∧
      members.lookup (.text "timestamp") = some (.text r.timeText) ∧
      Stamp.ofIso? r.timeText = some ⟨r.created, some (Zone.ofOffset 0)⟩ ∧
      members.lookup (.text "level") = some (.text (LogLevel.nameOf r.level)) ∧
      members.lookup (.text "logger") = some (.text r.logger) ∧
      members.lookup (.text "message") = some (.text r.message) ∧
      members.lookup (.text "exception") = r.error.map fun e => .text e.display := by
  have hline := r.isJsonLine_text_json here
  obtain ⟨members, hread, hkeys, htime, hlevel, hlogger, hmessage, herror⟩ := hline.read_eq half depth
  exact ⟨hline.isAsciiLine, members, hread, hkeys, htime, r.ofIso?_timeText, hlevel, hlogger, hmessage, herror⟩

/-- A record in which each text has to be escaped. -/
example : Json.read Char.ofNat 1 (text id ⟨"app.\x22io\x22", -7, "C:\\\r\n\u2028\x00é😀", .epoch, some ⟨"ValueError", "a\n\\"⟩⟩
    .json) = .ok (.record [("timestamp", .text "1970-01-01T00:00:00+00:00"), ("level", .text "Level -7"),
      ("logger", .text "app.\x22io\x22"), ("message", .text "C:\\\r\n\u2028\x00é😀"),
      ("exception", .text "ValueError: a\n\\")]) := by
  have htime (r : LogRecord) (h : r.created = .epoch) : r.timeText = "1970-01-01T00:00:00+00:00" := by
    rw [timeText, h]
    decide +kernel
  rw [read_text_json_eq, entries, htime _ rfl]
  rfl

/-- A log is cut into the lines of its records again, which end where line ends were written and nowhere else. -/
theorem pieces_log (rs : List LogRecord) :
    pieces '\n' (rs.flatMap fun r => (r.text here .json).toList ++ ['\n']) =
      (rs.map fun r => (r.text here .json).toList) ++ [[]] := by
  induction rs with
  | nil => rfl
  | cons r rs ih =>
    have hend : '\n' ∉ (r.text here .json).toList :=
      fun hmem => absurd (r.isAsciiLine_text_json here _ hmem) (by decide)
    rw [List.flatMap_cons, List.append_assoc, List.singleton_append, Text.pieces_append_mark hend, ih,
      List.map_cons, List.cons_append]

end LogRecord

end CronSchedule
