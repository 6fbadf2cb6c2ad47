import CronSchedule.Proofs.Expression.Matching

/-!
The same schedule in both modes. Main statement: with a 0 in front for the seconds, the text of a schedule
of minutes is read as that schedule again, which then fires when the minute begins
(`parse_zero_append`, `selects_inSeconds_iff`).
-/

namespace CronSchedule

namespace Expression

/-- The expression in seconds mode, as read from another text. -/
def inSeconds (e : Expression) (source : String) : Expression :=
  { e with source := source, mode := .seconds }

theorem isValid_inSeconds (e : Expression) (source : String) :
    (e.inSeconds source).isValid = e.isValid := rfl

theorem tokens_zero_append (source : String) : tokens ("0 " ++ source) = "0" :: tokens source := by
  have hwords : Text.words ('0' :: ' ' :: source.toList) = ['0'] :: Text.words source.toList :=
    Text.words_cons_cons_of_isBlank rfl rfl source.toList
  have htext : ("0 " ++ source).toList = '0' :: ' ' :: source.toList := by
    rw [String.toList_append]
    rfl
  rw [tokens, htext, hwords, List.map_cons]
  rfl

theorem ofTokens_inSeconds (source text : String) (s m h dom mon dow : String)
    (y : Option String) :
    ofTokens text .seconds s m h dom mon dow y =
      (·.inSeconds text) <$> ofTokens source .minutes s m h dom mon dow y := by
  cases y with
  | none =>
    simp only [ofTokens, map_bind, map_pure]
    rfl
  | some y =>
    simp only [ofTokens, map_bind, map_pure]
    rfl

end Expression

open Expression

variable {source : String} {e : Expression}

theorem parse_zero_append (h : parse source .minutes = .ok (.expression e)) :
    parse ("0 " ++ source) .seconds = .ok (.expression (e.inSeconds ("0 " ++ source))) := by
  have hslots : slotTokens .seconds (tokens ("0 " ++ source)) = slotTokens .minutes (tokens source) := by
    rw [tokens_zero_append]
    rfl
  simp only [parse] at h ⊢
  rw [hslots]
  split at h
  · obtain ⟨e', he', ⟨⟩⟩ := map_eq_ok.mp h
    rw [ofTokens_inSeconds source, he']
    rfl
  · obtain ⟨e', he', ⟨⟩⟩ := map_eq_ok.mp h
    rw [ofTokens_inSeconds source, he']
    rfl
  · cases h

theorem second_selects_iff_of_token {mode : Mode} (h : parse source mode = .ok (.expression e))
    (ht : e.second.token = "0") {v : Int} : e.second.selects v = true ↔ v = 0 := by
  have hsecond : e.field? .second = some e.second := rfl
  have hr := (read_of_field? h hsecond).2
  have hvalues : Field.values <$> Field.read .second "0" = .ok [0] := rfl
  rw [← ht, hr] at hvalues
  rw [Field.selects_iff, Except.ok.inj hvalues, List.mem_singleton]

/-- In minutes mode the seconds are fixed to 0. -/
theorem second_selects_iff (h : parse source .minutes = .ok (.expression e)) {v : Int} :
    e.second.selects v = true ↔ v = 0 := by
  have hsecond : e.field? .second = some e.second := rfl
  have hmem : (Slot.second, "0") ∈ filled source .minutes := filled_minutes source ▸ List.mem_cons_self
  exact second_selects_iff_of_token h (eq_token_of_mem_filled h hsecond hmem).symm

theorem selects_inSeconds_iff (h : parse source .minutes = .ok (.expression e)) {text : String}
    {c : Civil} : (e.inSeconds text).selects c = true ↔ c.second = 0 ∧ e.selects c = true := by
  have hmode : e.mode = .minutes := (forall₂_fields_of_parse h).2.1.2
  have hseconds : (e.inSeconds text).selects c = (e.second.selects c.second &&
      e.minute.selects c.minute && e.hour.selects c.hour && e.month.selects c.date.month &&
      e.selectsYear c.date.year && e.selectsDay c.date) := rfl
  rw [hseconds]
  simp only [selects, hmode, Bool.and_eq_true, second_selects_iff h, Int.natCast_eq_zero,
    decide_true, Bool.true_or, true_and, and_assoc]

end CronSchedule
