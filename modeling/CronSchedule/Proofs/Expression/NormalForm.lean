import CronSchedule.Description.Sentence
import CronSchedule.Occurrence.Search
import CronSchedule.Proofs.Expression.Tokens

/-!
The normal form of a text: its tokens with single spaces between them. Main statement: the normal form is
read as the same fields, and texts of one mode with the same normal form are read as expressions that
differ in nothing but the text they name (`normalized_of_parse`).
-/

namespace CronSchedule

/-- The same rejection, of another text. -/
def Rejection.withSource (source : String) : Rejection → Rejection
  | wrongCount _ expected actual text => wrongCount source expected actual text
  | invalid occasion _ report => invalid occasion source report

def SearchError.withSource (source : String) : SearchError → SearchError
  | rejected r => rejected (r.withSource source)
  | countTooLarge => countTooLarge
  | offCalendar => offCalendar

namespace Expression

def withSource (e : Expression) (source : String) : Expression :=
  { e with source := source }

/-- Two expressions behave alike in everything; where they refuse, each names its own text. -/
structure Agrees (a b : Expression) : Prop where
  isValid : b.isValid = a.isValid
  matches? : ∀ c, b.matches? c = (a.matches? c).mapError (·.withSource b.source)
  describe : ∀ l, b.describe l = (a.describe l).mapError (·.withSource b.source)
  occurrences : ∀ reference budget window count,
    Search.occurrences ⟨b, reference, budget, window⟩ count =
      (Search.occurrences ⟨a, reference, budget, window⟩ count).mapError (·.withSource b.source)

variable {e : Expression} {source text : String}

theorem requireValid_withSource :
    (e.withSource text).requireValid =
      ((·.withSource text) <$> e.requireValid).mapError (·.withSource text) := by
  have hv : (e.withSource text).isValid = e.isValid := rfl
  rw [requireValid, requireValid, hv]
  split <;> rfl

theorem advance_withSource (e : Expression) (text : String) (reference : Stamp) (budget : Int)
    (window : Option Duration) (found left : Nat) (cursor : Moment) :
    Search.advance ⟨e.withSource text, reference, budget, window⟩ found left cursor =
      Search.advance ⟨e, reference, budget, window⟩ found left cursor := by
  induction left generalizing cursor with
  | zero => rfl
  | succ left ih =>
    simp only [Search.advance, ih]
    rfl

theorem collect_withSource (e : Expression) (text : String) (reference : Stamp) (budget : Int)
    (window : Option Duration) (n : Nat) (w : Walk) :
    Search.collect ⟨e.withSource text, reference, budget, window⟩ n w =
      Search.collect ⟨e, reference, budget, window⟩ n w := by
  induction n generalizing w with
  | zero => rfl
  | succ n ih =>
    simp only [Search.collect, Search.pull, advance_withSource, ih]

theorem harvest_withSource (reference : Stamp) (budget : Int) (window : Option Duration)
    (count : Int) :
    Search.harvest ⟨e.withSource text, reference, budget, window⟩ count =
      (Search.harvest ⟨e, reference, budget, window⟩ count).mapError (·.withSource text) := by
  have hstart : Search.start ⟨e.withSource text, reference, budget, window⟩ =
      Search.start ⟨e, reference, budget, window⟩ := rfl
  simp only [Search.harvest]
  split
  · rfl
  · rw [requireValid_withSource, hstart, collect_withSource]
    cases e.requireValid <;> rfl

theorem occurrences_withSource (reference : Stamp) (budget : Int) (window : Option Duration)
    (count : Int) :
    Search.occurrences ⟨e.withSource text, reference, budget, window⟩ count =
      (Search.occurrences ⟨e, reference, budget, window⟩ count).mapError (·.withSource text) := by
  rw [Search.occurrences, Search.occurrences, harvest_withSource]
  cases Search.harvest ⟨e, reference, budget, window⟩ count with
  | error error => rfl
  | ok h =>
    simp only [bind, Except.bind, Except.mapError]
    cases h.ending <;> rfl

/-- An expression agrees with the one that is read from another text with the same tokens. -/
theorem agrees_withSource (e : Expression) (text : String) : e.Agrees (e.withSource text) where
  isValid := rfl
  matches? c := by
    rw [matches?, matches?, requireValid_withSource]
    cases e.requireValid <;> rfl
  describe l := by
    rw [describe, describe, requireValid_withSource]
    cases e.requireValid <;> rfl
  occurrences := occurrences_withSource

theorem ofTokens_withSource (source text : String) (mode : Mode) (s m h dom mon dow : String)
    (y : Option String) :
    ofTokens text mode s m h dom mon dow y =
      (·.withSource text) <$> ofTokens source mode s m h dom mon dow y := by
  cases y with
  | none =>
    simp only [ofTokens, map_bind, map_pure]
    rfl
  | some y =>
    simp only [ofTokens, map_bind, map_pure]
    rfl

end Expression

open Expression

variable {source text : String} {mode : Mode} {e : Expression}

theorem parse_withSource (h : parse source mode = .ok (.expression e))
    (ht : tokens text = tokens source) : parse text mode = .ok (.expression (e.withSource text)) := by
  simp only [parse] at h ⊢
  rw [ht]
  split at h
  · obtain ⟨e', he', ⟨⟩⟩ := map_eq_ok.mp h
    rw [ofTokens_withSource source, he']
    rfl
  · obtain ⟨e', he', ⟨⟩⟩ := map_eq_ok.mp h
    rw [ofTokens_withSource source, he']
    rfl
  · cases h

theorem map_token_fields (h : parse source mode = .ok (.expression e)) :
    e.fields.map (·.token) = slotTokens mode (tokens source) := by
  have hn := (forall₂_fields_of_parse h).1
  have hlen : (slotTokens mode (tokens source)).length ≤ Slot.all.length := by
    have hall : Slot.all.length = 7 := rfl
    rcases takes_iff.mp hn with hn | hn <;> omega
  calc e.fields.map (·.token)
    _ = (filled source mode).map Prod.snd := map_fields_of_parse h fun _ _ _ => Field.token_of_read
    _ = slotTokens mode (tokens source) := List.map_snd_zip hlen

theorem map_token_written (h : parse source mode = .ok (.expression e)) :
    e.written.map (·.token) = tokens source := by
  have hmode : e.mode = mode := mode_of_parse h
  have hfields := map_token_fields h
  cases mode with
  | minutes => rw [written, hmode, List.map_drop, hfields]; rfl
  | seconds => rw [written, hmode, hfields]; rfl

/-- Tokens with single spaces between them are the tokens of the text that they make. -/
theorem tokens_intercalate (source : String) :
    tokens (" ".intercalate (tokens source)) = tokens source :=
  tokens_joined fun _ => isWord_of_mem_tokens

theorem normalized_eq (h : parse source mode = .ok (.expression e)) :
    e.normalized = " ".intercalate (tokens source) := by
  rw [normalized, map_token_written h]

theorem sameText_iff {mode' : Mode} {e' : Expression} (h : parse source mode = .ok (.expression e))
    (h' : parse text mode' = .ok (.expression e')) :
    e.sameText e' = true ↔ mode = mode' ∧ tokens source = tokens text := by
  have hmode : e.mode = mode := mode_of_parse h
  have hmode' : e'.mode = mode' := (forall₂_fields_of_parse h').2.1.2
  rw [sameText, Bool.and_eq_true, decide_eq_true_iff, decide_eq_true_iff, normalized_eq h,
    normalized_eq h', hmode, hmode', and_comm]
  refine and_congr_right fun _ => ⟨fun ht => ?_, fun ht => by rw [ht]⟩
  rw [← tokens_intercalate source, ht, tokens_intercalate]

theorem agrees_of_sameText {mode' : Mode} {e' : Expression}
    (h : parse source mode = .ok (.expression e)) (h' : parse text mode' = .ok (.expression e'))
    (hs : e.sameText e' = true) : e.Agrees e' := by
  obtain ⟨rfl, ht⟩ := (sameText_iff h h').mp hs
  cases h'.symm.trans (parse_withSource h ht.symm)
  exact agrees_withSource e text

/-- The normal form of an expression is its tokens with single spaces between them. Read again it gives
the same fields and the same report, and expressions are equal exactly if they have the same mode and
the same tokens; then they agree in all that they do. -/
theorem normalized_of_parse (h : parse source mode = .ok (.expression e)) :
    e.normalized = " ".intercalate (tokens source) ∧
      (∃ e', parse e.normalized mode = .ok (.expression e') ∧ e'.fields = e.fields ∧
        e'.report = e.report) ∧
      ∀ text mode' e', parse text mode' = .ok (.expression e') →
        (e.sameText e' = true ↔ mode = mode' ∧ tokens source = tokens text) ∧
          (e.sameText e' = true → e.Agrees e') := by
  have htokens : tokens e.normalized = tokens source := by
    rw [normalized_eq h, tokens_intercalate]
  exact ⟨normalized_eq h, ⟨_, parse_withSource h htokens, rfl, rfl⟩, fun _ _ _ h' =>
    ⟨sameText_iff h h', agrees_of_sameText h h'⟩⟩

/-- Blanks of other kinds, and a field that is at fault. -/
theorem normalized_of_parse_blanks :
    ∃ e e', parse " */5\t9-17  ?\u3000* 8\n" .minutes = .ok (.expression e) ∧
      parse "*/5 9-17 ? * 8" .minutes = .ok (.expression e') ∧
      e.normalized = " ".intercalate ["*/5", "9-17", "?", "*", "8"] ∧
      (e.sameText e' = true ↔ Mode.minutes = .minutes ∧
        tokens " */5\t9-17  ?\u3000* 8\n" = tokens "*/5 9-17 ? * 8") ∧
      (e.sameText e' = true → e.Agrees e') := by
  have hparse : parse " */5\t9-17  ?\u3000* 8\n" .minutes = .ok (.expression _) := rfl
  have hparse' : parse "*/5 9-17 ? * 8" .minutes = .ok (.expression _) := rfl
  obtain ⟨hnormal, -, hsame⟩ := normalized_of_parse hparse
  exact ⟨_, _, hparse, hparse', hnormal, hsame _ _ _ hparse'⟩

end CronSchedule
