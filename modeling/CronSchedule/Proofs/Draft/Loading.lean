import CronSchedule.Proofs.Draft.Slots
import CronSchedule.Proofs.Expression.NormalForm
import CronSchedule.Proofs.Expression.Verdict

/-!
Drafts from a text. Main statements: such a draft writes the normal form of the text, and what is built from
it is the expression of the text, or is refused as the text is (`Draft.build_ofSource`); but tokens past the
year are dropped, so that what is built from too many of them is the expression of the others
(`Draft.build_ofSource_of_surplus`).
-/

namespace CronSchedule.Draft

open Expression

variable {source : String} {mode : Mode} {e : Expression}

theorem mode_ofSource (source : String) (mode : Mode) : (ofSource source mode).mode = mode := by
  rw [ofSource]
  split <;> rfl

theorem ne_empty_of_mem_slotTokens {token : String} (h : token ∈ slotTokens mode (tokens source)) :
    token ≠ "" := by
  rintro rfl
  exact (isWord_of_mem_slotTokens h).ne_nil rfl

theorem slotTokens_eq_of_takes (hn : mode.Takes (tokens source).length) :
    ∃ s m h dom mon dow rest, slotTokens mode (tokens source) = s :: m :: h :: dom :: mon :: dow :: rest ∧
      (rest = [] ∨ ∃ y, rest = [y]) := by
  have hlength := takes_iff.mp hn
  generalize slotTokens mode (tokens source) = ts at hlength
  rcases ts with _ | ⟨s, _ | ⟨m, _ | ⟨h, _ | ⟨dom, _ | ⟨mon, _ | ⟨dow, rest⟩⟩⟩⟩⟩⟩
  -- Lists that are too short go by their length.
  all_goals simp [List.length_eq_one_iff] at hlength
  exact ⟨s, m, h, dom, mon, dow, rest, rfl, hlength⟩

/-- The slots that are written out are those that the tokens were copied to: the year is among them
exactly if the text has one, as no token is empty. -/
theorem map_token_ofSource (hn : mode.Takes (tokens source).length) :
    (ofSource source mode).writtenSlots.map (ofSource source mode).token = tokens source := by
  obtain ⟨s, m, h, dom, mon, dow, rest, ht, rfl | ⟨y, rfl⟩⟩ := slotTokens_eq_of_takes hn
  · simp only [writtenSlots, ofSource, ht]
    cases mode with
    | minutes => simp [Slot.all, (List.cons.inj ht).2]
    | seconds => simp [Slot.all, show tokens source = _ from ht]
  · have hy : y ≠ "" := ne_empty_of_mem_slotTokens (by rw [ht]; simp)
    simp only [writtenSlots, ofSource, ht]
    cases mode with
    | minutes => simp [Slot.all, hy, (List.cons.inj ht).2]
    | seconds => simp [Slot.all, hy, show tokens source = _ from ht]

theorem text_ofSource (hn : mode.Takes (tokens source).length) :
    (ofSource source mode).text = " ".intercalate (tokens source) := by
  rw [text, map_token_ofSource hn]

theorem tokens_text_ofSource (hn : mode.Takes (tokens source).length) :
    tokens (ofSource source mode).text = tokens source := by
  rw [text_ofSource hn, tokens_intercalate]

theorem parse_text_ofSource (h : parse source mode = .ok (.expression e)) :
    parse (ofSource source mode).text mode =
      .ok (.expression (e.withSource (ofSource source mode).text)) :=
  parse_withSource h (tokens_text_ofSource (forall₂_fields_of_parse h).1)

theorem build_ofSource_eq (h : parse source mode = .ok (.expression e)) :
    (ofSource source mode).build =
      if e.isValid then .ok (e.withSource (ofSource source mode).text)
      else .error (.rejected (.invalid .reading (ofSource source mode).text e.report)) := by
  rw [build, mode_ofSource, ofSource_of_parse (parse_text_ofSource h)]
  rfl

/-- A draft from a text that an expression can be read from writes the tokens with single spaces, in the
mode of the text. What is built from it is the same expression with the same fields if the text is valid,
and if it is not, the draft is refused on the same occasion and for the same report as the text. -/
theorem build_ofSource (h : parse source mode = .ok (.expression e)) :
    (ofSource source mode).text = " ".intercalate (tokens source) ∧
      (ofSource source mode).mode = mode ∧
      (∀ a, Expression.ofSource source mode = .ok a →
        ∃ b, (ofSource source mode).build = .ok b ∧ b.sameText a = true ∧ b.fields = a.fields) ∧
      ∀ error, Expression.ofSource source mode = .error error →
        error = .rejected (.invalid .reading source e.report) ∧ (ofSource source mode).build =
          .error (.rejected (.invalid .reading (ofSource source mode).text e.report)) := by
  refine ⟨text_ofSource (forall₂_fields_of_parse h).1, mode_ofSource source mode, fun a ha => ?_,
    fun error herror => ?_⟩
  · rw [ofSource_of_parse h] at ha
    split at ha
    · next hv =>
      cases ha
      have hparse := parse_text_ofSource h
      have htokens := tokens_text_ofSource (forall₂_fields_of_parse h).1
      refine ⟨_, ?_, (sameText_iff hparse h).mpr ⟨rfl, htokens⟩, rfl⟩
      rw [build_ofSource_eq h, if_pos hv]
    · cases ha
  · rw [ofSource_of_parse h] at herror
    split at herror
    · cases herror
    · next hv =>
      cases herror
      refine ⟨rfl, ?_⟩
      rw [build_ofSource_eq h, if_neg hv]

/-- All slots of a text, with blanks of other kinds and a minute that there is not. -/
theorem build_ofSource_no_such_minute :
    ∃ e, parse " 0\t75  9-17 ? *\u30001-5 2030\n" .seconds = .ok (.expression e) ∧
      (ofSource " 0\t75  9-17 ? *\u30001-5 2030\n" .seconds).text =
        " ".intercalate ["0", "75", "9-17", "?", "*", "1-5", "2030"] ∧
      (ofSource " 0\t75  9-17 ? *\u30001-5 2030\n" .seconds).build =
        .error (.rejected (.invalid .reading
          (ofSource " 0\t75  9-17 ? *\u30001-5 2030\n" .seconds).text e.report)) := by
  have hparse : parse " 0\t75  9-17 ? *\u30001-5 2030\n" .seconds = .ok (.expression _) := rfl
  have hrefused : Expression.ofSource " 0\t75  9-17 ? *\u30001-5 2030\n" .seconds = .error _ := rfl
  obtain ⟨htext, -, -, hbuild⟩ := build_ofSource hparse
  exact ⟨_, hparse, htext, (hbuild _ hrefused).2⟩

theorem tokens_take (source : String) (n : Nat) :
    tokens (" ".intercalate ((tokens source).take n)) = (tokens source).take n :=
  tokens_joined fun _ ht => isWord_of_mem_tokens (List.mem_of_mem_take ht)

/-- A draft takes one token for each slot; any tokens past the year make no difference. -/
theorem ofSource_take (source : String) (mode : Mode) :
    ofSource (" ".intercalate ((tokens source).take (mode.size + 1))) mode = ofSource source mode := by
  have hslots : slotTokens mode ((tokens source).take (mode.size + 1)) =
      (slotTokens mode (tokens source)).take 7 := by
    cases mode <;> rfl
  rw [ofSource, ofSource, tokens_take, hslots]
  -- The first six tokens and the one after them are all that is looked at.
  rcases slotTokens mode (tokens source) with
    _ | ⟨s, _ | ⟨m, _ | ⟨h, _ | ⟨dom, _ | ⟨mon, _ | ⟨dow, _ | ⟨y, rest⟩⟩⟩⟩⟩⟩⟩ <;> rfl

theorem assigned_take (source : String) (mode : Mode) :
    assigned (" ".intercalate ((tokens source).take (mode.size + 1))) mode = assigned source mode := by
  have hlength : mode.slots.length = mode.size + 1 := by cases mode <;> rfl
  have hslots : mode.slots.take (mode.size + 1) = mode.slots :=
    List.take_of_length_le (Nat.le_of_eq hlength)
  calc assigned (" ".intercalate ((tokens source).take (mode.size + 1))) mode
    _ = mode.slots.zip ((tokens source).take (mode.size + 1)) := by rw [assigned, tokens_take]
    _ = (mode.slots.zip (tokens source)).take (mode.size + 1) := by
      rw [List.zip_eq_zipWith, List.zip_eq_zipWith, List.take_zipWith, hslots]
    _ = assigned source mode := List.take_of_length_le <| by
      rw [List.length_zip, hlength]
      exact Nat.min_le_left _ _

/-- Too many tokens are refused for their number, but a draft made from them takes those that have a slot
and builds the expression of these: their number is never refused, and there is an expression exactly if
each slot accepts its token. -/
theorem build_ofSource_of_surplus (h : mode.size + 1 < (tokens source).length) :
    (∃ text, Expression.ofSource source mode =
        .error (.rejected (.wrongCount source mode.size (tokens source).length text))) ∧
      (ofSource source mode).build =
        Expression.ofSource (" ".intercalate ((tokens source).take (mode.size + 1))) mode ∧
      (∀ text expected actual shown, (ofSource source mode).build ≠
        .error (.rejected (.wrongCount text expected actual shown))) ∧
      ((∃ e, (ofSource source mode).build = .ok e) ↔
        ∀ w ∈ assigned source mode, w.1.Accepts w.2) := by
  have hsurplus : ¬ mode.Takes (tokens source).length := by
    rw [Mode.Takes]
    omega
  have htakes : mode.Takes
      (tokens (" ".intercalate ((tokens source).take (mode.size + 1)))).length := by
    rw [tokens_take, List.length_take, Nat.min_eq_left (Nat.le_of_lt h)]
    exact .inr rfl
  have hbuild : (ofSource source mode).build =
      Expression.ofSource (" ".intercalate ((tokens source).take (mode.size + 1))) mode := by
    rw [← ofSource_take, build, mode_ofSource, text_ofSource htakes, tokens_take]
  refine ⟨⟨String.ofList (Text.trim source.toList), ?_⟩, hbuild,
    fun text expected actual shown hx => ?_, ?_⟩
  · rw [Expression.ofSource, parse_of_not_takes hsurplus]
  · rw [hbuild] at hx
    exact ofSource_ne_wrongCount htakes hx
  · rw [hbuild, exists_ofSource_eq_ok_iff, and_iff_right htakes, refused, assigned_take,
      List.filter_eq_nil_iff]
    simp

/-- Two words behind the year. -/
theorem build_ofSource_of_surplus_seconds :
    Mode.seconds.size + 1 < (tokens "15 0 9 ? * 1-5 2030 # work").length ∧ ∃ e,
      (ofSource "15 0 9 ? * 1-5 2030 # work" .seconds).build = .ok e ∧
      ∀ w ∈ assigned "15 0 9 ? * 1-5 2030 # work" .seconds, w.1.Accepts w.2 := by
  have hsurplus : Mode.seconds.size + 1 < (tokens "15 0 9 ? * 1-5 2030 # work").length := by decide
  have hbuild : (ofSource "15 0 9 ? * 1-5 2030 # work" .seconds).build = .ok _ := rfl
  obtain ⟨-, -, -, hiff⟩ := build_ofSource_of_surplus hsurplus
  exact ⟨hsurplus, _, hbuild, hiff.mp ⟨_, hbuild⟩⟩

/-- A text with a word too many is no expression, but what is built from it is one. -/
theorem build_ofSource_eq_ok_of_surplus :
    ∃ e, (tokens "0 9 * * 1-5 2030 backup").length = 7 ∧
      (ofSource "0 9 * * 1-5 2030 backup" .minutes).build = .ok e ∧
      Expression.ofSource "0 9 * * 1-5 2030 backup" .minutes = .error (.rejected
        (.wrongCount "0 9 * * 1-5 2030 backup" 5 7 "0 9 * * 1-5 2030 backup")) :=
  ⟨_, rfl, rfl, rfl⟩

end CronSchedule.Draft
