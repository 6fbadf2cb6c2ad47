import CronSchedule.Expression.Basic
import CronSchedule.Proofs.Expression.Field
import CronSchedule.Proofs.Text.Words

/-!
The tokens of a text and the fields of the expression that is read from it: one for each token, in slot
order. Only a run of digits that is too long to be a number keeps a text from being read.
-/

namespace CronSchedule

namespace Mode

/-- The slots that a text may have tokens for, in order. -/
def slots : Mode → List Slot
  | minutes => [.minute, .hour, .dayOfMonth, .month, .dayOfWeek, .year]
  | seconds => [.second, .minute, .hour, .dayOfMonth, .month, .dayOfWeek, .year]

/-- The numbers of tokens that make an expression: the year may be left out. -/
def Takes (m : Mode) (n : Nat) : Prop :=
  n = m.size ∨ n = m.size + 1

end Mode

namespace Expression

/-- Each slot that a text has a token for, with the token. -/
def assigned (source : String) (mode : Mode) : List (Slot × String) :=
  mode.slots.zip (tokens source)

/-- Each slot of an expression with its token, which in minutes mode is 0 for the seconds. -/
def filled (source : String) (mode : Mode) : List (Slot × String) :=
  Slot.all.zip (slotTokens mode (tokens source))

theorem filled_minutes (source : String) :
    filled source .minutes = (.second, "0") :: assigned source .minutes := rfl

theorem filled_seconds (source : String) : filled source .seconds = assigned source .seconds := rfl

theorem takes_iff {mode : Mode} {ts : List String} :
    mode.Takes ts.length ↔ (slotTokens mode ts).length = 6 ∨ (slotTokens mode ts).length = 7 := by
  cases mode with
  | minutes => simp [Mode.Takes, Mode.size, slotTokens]
  | seconds => simp [Mode.Takes, Mode.size, slotTokens]

theorem ofTokens_eq_ok {source : String} {mode : Mode} {s m h dom mon dow : String}
    {y : Option String} {e : Expression} (he : ofTokens source mode s m h dom mon dow y = .ok e) :
    e.source = source ∧ e.mode = mode := by
  simp only [ofTokens, bind_eq_ok] at he
  obtain ⟨_, -, _, -, _, -, _, -, _, -, _, -, he⟩ := he
  cases y with
  | none =>
    cases he
    exact ⟨rfl, rfl⟩
  | some y =>
    obtain ⟨_, -, he⟩ := bind_eq_ok.mp he
    cases he
    exact ⟨rfl, rfl⟩

theorem fields_ofTokens (source : String) (mode : Mode) (s m h dom mon dow : String)
    (y : Option String) :
    fields <$> ofTokens source mode s m h dom mon dow y =
      (Slot.all.zip ([s, m, h, dom, mon, dow] ++ y.toList)).mapM fun w => Field.read w.1 w.2 := by
  cases y with
  | none => simp [ofTokens, Slot.all, fields, baseFields]
  | some y => simp [ofTokens, Slot.all, fields, baseFields]

end Expression

open Expression

variable {source : String} {mode : Mode} {e : Expression} {slot : Slot} {f : Field}

theorem parse_of_not_takes (hn : ¬ mode.Takes (tokens source).length) :
    parse source mode = .ok (.wrongCount mode.size (tokens source).length
      (String.ofList (Text.trim source.toList))) := by
  rw [takes_iff] at hn
  simp only [parse]
  split
  · next h => simp [h] at hn
  · next h => simp [h] at hn
  · rfl

/-- An expression is read by reading the fields of its tokens. -/
theorem parse_of_takes (hn : mode.Takes (tokens source).length) :
    ∃ x : Except OverlongNumber Expression, parse source mode = .expression <$> x ∧
      fields <$> x = ((filled source mode).mapM fun w => Field.read w.1 w.2) ∧
      ∀ e, x = .ok e → e.source = source ∧ e.mode = mode := by
  rcases takes_iff.mp hn with hn | hn
  · match ht : slotTokens mode (tokens source), hn with
    | [s, m, h, dom, mon, dow], _ =>
      refine ⟨ofTokens source mode s m h dom mon dow none, ?_, ?_, fun e => ofTokens_eq_ok⟩
      · simp only [parse, ht]
      · rw [fields_ofTokens, filled, ht]
        rfl
  · match ht : slotTokens mode (tokens source), hn with
    | [s, m, h, dom, mon, dow, y], _ =>
      refine ⟨ofTokens source mode s m h dom mon dow (some y), ?_, ?_, fun e => ofTokens_eq_ok⟩
      · simp only [parse, ht]
      · rw [fields_ofTokens, filled, ht]
        rfl

/-- An expression that was read has the fields that its tokens are read as, in slot order. -/
theorem forall₂_fields_of_parse (h : parse source mode = .ok (.expression e)) :
    mode.Takes (tokens source).length ∧ (e.source = source ∧ e.mode = mode) ∧
      List.Forall₂ (fun w f => Field.read w.1 w.2 = .ok f) (filled source mode) e.fields := by
  by_cases hn : mode.Takes (tokens source).length
  · obtain ⟨x, hp, hf, hx⟩ := parse_of_takes hn
    obtain ⟨e', rfl, ⟨⟩⟩ := map_eq_ok.mp (hp ▸ h)
    exact ⟨hn, hx e rfl, mapM_eq_ok.mp hf.symm⟩
  · rw [parse_of_not_takes hn] at h
    cases h

theorem mode_of_parse (h : parse source mode = .ok (.expression e)) : e.mode = mode :=
  (forall₂_fields_of_parse h).2.1.2

theorem exists_read_of_mem_fields (h : parse source mode = .ok (.expression e)) (hf : f ∈ e.fields) :
    ∃ w ∈ filled source mode, Field.read w.1 w.2 = .ok f :=
  exists_of_forall₂ (forall₂_fields_of_parse h).2.2.flip hf

/-- What can be told of each field from its slot and token can be told of all fields in order. -/
theorem map_fields_of_parse {α : Type} {k : Field → α} {g : Slot × String → α}
    (h : parse source mode = .ok (.expression e))
    (hk : ∀ slot token f, Field.read slot token = .ok f → k f = g (slot, token)) :
    e.fields.map k = (filled source mode).map g := by
  have hmap : List.Forall₂ (· = ·) (e.fields.map k) ((filled source mode).map g) :=
    List.forall₂_map_left_iff.mpr <| List.forall₂_map_right_iff.mpr <|
      (forall₂_fields_of_parse h).2.2.flip.imp fun f w hr => hk w.1 w.2 f hr
  rwa [List.forall₂_eq_eq_eq] at hmap

/-- The field in a slot is the one that the token of the slot is read as. -/
theorem field?_of_parse (h : parse source mode = .ok (.expression e)) :
    e.field? slot = some f ↔
      ∃ token, (slot, token) ∈ filled source mode ∧ Field.read slot token = .ok f := by
  obtain ⟨hn, -, hf⟩ := forall₂_fields_of_parse h
  simp only [filled, fields, baseFields] at hf ⊢
  rcases takes_iff.mp hn with hn | hn
  · match ht : slotTokens mode (tokens source), hn with
    | [s, m, h, dom, mon, dow], _ =>
      rw [ht] at hf
      cases hy : e.year with
      | none =>
        simp only [hy, Slot.all, List.zip_cons_cons, List.zip_nil_right, Option.toList_none,
          List.append_nil, List.forall₂_cons] at hf
        obtain ⟨hs, hm, hh, hdom, hmon, hdow, -⟩ := hf
        cases slot <;> simp [field?, Slot.all, *, eq_comm]
      | some y => simp [hy, Slot.all] at hf
  · match ht : slotTokens mode (tokens source), hn with
    | [s, m, h, dom, mon, dow, y], _ =>
      rw [ht] at hf
      cases hy : e.year with
      | none => simp [hy, Slot.all] at hf
      | some year =>
        simp only [hy, Slot.all, List.zip_cons_cons, List.zip_nil_right, Option.toList_some,
          List.cons_append, List.nil_append, List.forall₂_cons] at hf
        obtain ⟨hs, hm, hh, hdom, hmon, hdow, hyear, -⟩ := hf
        cases slot <;> simp [field?, Slot.all, *, eq_comm]

theorem read_of_field? (h : parse source mode = .ok (.expression e))
    (hf : e.field? slot = some f) :
    (slot, f.token) ∈ filled source mode ∧ Field.read slot f.token = .ok f := by
  obtain ⟨token, hw, hr⟩ := (field?_of_parse h).mp hf
  exact Field.token_of_read hr ▸ ⟨hw, hr⟩

theorem exists_field?_of_mem_filled {token : String}
    (h : parse source mode = .ok (.expression e))
    (hw : (slot, token) ∈ filled source mode) : ∃ f, e.field? slot = some f ∧ f.token = token := by
  obtain ⟨f, -, hr⟩ := exists_of_forall₂ (forall₂_fields_of_parse h).2.2 hw
  exact ⟨f, (field?_of_parse h).mpr ⟨token, hw, hr⟩, Field.token_of_read hr⟩

theorem fault?_eq_none (hv : e.isValid = true) (hf : f ∈ e.fields) :
    f.fault? = none := by
  have hi : e.issues = [] := Report.isValid_iff.mp hv
  exact Option.map_eq_none_iff.mp (List.filterMap_eq_nil_iff.mp hi f hf)

theorem mem_fields_of_field? (hf : e.field? slot = some f) :
    f ∈ e.fields := by
  cases slot <;> simp_all [field?, fields, baseFields]

/-- In a valid expression each slot accepts the token that its field was read from. -/
theorem read_of_isValid (h : parse source mode = .ok (.expression e)) (hv : e.isValid = true)
    (hf : e.field? slot = some f) :
    Field.read slot f.token = .ok f ∧ slot.Accepts f.token := by
  have hr := (read_of_field? h hf).2
  exact ⟨hr, (Field.fault?_eq_none_iff hr).mp (fault?_eq_none hv (mem_fields_of_field? hf))⟩

theorem eq_token_of_mem_filled (h : parse source mode = .ok (.expression e))
    (hf : e.field? slot = some f) {token : String} (ht : (slot, token) ∈ filled source mode) :
    token = f.token := by
  obtain ⟨f', hf', rfl⟩ := exists_field?_of_mem_filled h ht
  cases hf.symm.trans hf'
  rfl

theorem forall_mem_filled_iff (h : parse source mode = .ok (.expression e))
    (hf : e.field? slot = some f) {P : String → Prop} :
    (∀ t, (slot, t) ∈ filled source mode → P t) ↔ P f.token :=
  ⟨fun hP => hP _ (read_of_field? h hf).1, fun hP _ ht => eq_token_of_mem_filled h hf ht ▸ hP⟩

/-- The seconds aside, what fills a slot is written in the text. -/
theorem mem_filled_iff {token : String} (hs : slot ≠ .second) :
    (slot, token) ∈ filled source mode ↔ (slot, token) ∈ assigned source mode := by
  cases mode with
  | minutes => rw [filled_minutes, List.mem_cons, or_iff_right (by simp [hs])]
  | seconds => rw [filled_seconds]

theorem isInfix_of_mem_tokens {token : String} (h : token ∈ tokens source) :
    token.toList <:+: source.toList := by
  obtain ⟨w, hw, rfl⟩ := List.mem_map.mp h
  rw [String.toList_ofList]
  exact Text.isInfix_of_mem_words hw

theorem mem_tokens_of_mem_filled {w : Slot × String}
    (h : w ∈ filled source mode) : w = (.second, "0") ∨ w.2 ∈ tokens source := by
  cases mode with
  | minutes =>
    rw [filled_minutes] at h
    exact (List.mem_cons.mp h).imp_right fun h => (List.of_mem_zip h).2
  | seconds =>
    rw [filled_seconds] at h
    exact .inr (List.of_mem_zip h).2

theorem isWord_of_mem_tokens {token : String} (h : token ∈ tokens source) :
    Text.IsWord token.toList := by
  obtain ⟨w, hw, rfl⟩ := List.mem_map.mp h
  rw [String.toList_ofList]
  exact Text.isWord_of_mem_words hw

theorem isWord_of_field? (h : parse source mode = .ok (.expression e)) (hf : e.field? slot = some f) :
    Text.IsWord f.token.toList := by
  rcases mem_tokens_of_mem_filled (read_of_field? h hf).1 with h0 | hmem
  · rw [(Prod.mk.inj h0).2]
    decide
  · exact isWord_of_mem_tokens hmem

/-- Words with single spaces between them are the tokens of the text that they make. -/
theorem tokens_joined {ts : List String} (h : ∀ t ∈ ts, Text.IsWord t.toList) :
    tokens (" ".intercalate ts) = ts := by
  have hspace : " ".toList = [' '] := rfl
  have hwords : Text.words (List.intercalate [' '] (ts.map String.toList)) = ts.map String.toList :=
    Text.words_joined (List.forall_mem_map.mpr h)
  rw [tokens, String.toList_intercalate, hspace, hwords, List.map_map]
  simp

/-- The first token that is not read to the end is stopped at a number that is too long. A text with
the wrong number of tokens is not looked at that far. -/
def Expression.Stops (source : String) (mode : Mode) (o : OverlongNumber) : Prop :=
  mode.Takes (tokens source).length ∧
    ∃ before w after, filled source mode = before ++ w :: after ∧
      (∀ v ∈ before, ∀ o', ¬ Token.Stops v.1.accepted o' v.2.toList) ∧
      Token.Stops w.1.accepted o w.2.toList

theorem Expression.Stops.exists_mem_filled {o : OverlongNumber} (h : Expression.Stops source mode o) :
    ∃ w ∈ filled source mode, Token.Stops w.1.accepted o w.2.toList := by
  obtain ⟨-, before, w, after, hw, -, hs⟩ := h
  refine ⟨w, ?_, hs⟩
  rw [hw]
  exact List.mem_append_right _ List.mem_cons_self

theorem Field.exists_read_eq_ok_iff {token : String} :
    (∃ f, read slot token = .ok f) ↔ ∀ o, ¬ Token.Stops slot.accepted o token.toList := by
  simp only [← read_eq_error_iff]
  cases read slot token <;> simp

theorem Field.exists_read_of_accepts {token : String} (ha : slot.Accepts token) :
    ∃ f, read slot token = .ok f := by
  cases hr : read slot token with
  | ok f => exact ⟨f, rfl⟩
  | error o =>
    rcases ha with ho | ha
    · rw [read, if_pos (by exact ho)] at hr
      cases hr
    · obtain ⟨es, hes⟩ := (Token.accepts_iff slot.accepted_low_le_high).mp ha
      rw [read_eq_error_iff, ← Token.elements_eq_overlong_iff slot.accepted_low_le_high, hes] at hr
      cases hr

/-- Only a number that is too long keeps a text from being read. -/
theorem parse_eq_error_iff {o : OverlongNumber} :
    parse source mode = .error o ↔ Expression.Stops source mode o := by
  by_cases hn : mode.Takes (tokens source).length
  · obtain ⟨x, hp, hf, -⟩ := parse_of_takes hn
    have hmap : fields <$> x = .error o ↔ x = .error o := map_eq_error
    rw [Expression.Stops, and_iff_right hn, hp, map_eq_error, ← hmap, hf, mapM_eq_error_iff]
    simp only [Field.exists_read_eq_ok_iff, Field.read_eq_error_iff]
  · rw [parse_of_not_takes hn]
    exact iff_of_false nofun fun h => hn h.1

theorem hasLongNumber_of_parse {o : OverlongNumber}
    (h : parse source mode = .error o) : HasLongNumber source.toList := by
  obtain ⟨w, hmem, hs⟩ := (parse_eq_error_iff.mp h).exists_mem_filled
  rcases mem_tokens_of_mem_filled hmem with rfl | ht
  · exact absurd hs.maxDigits_lt_length (by decide)
  · obtain ⟨ds, hds, hs⟩ := hs.exists_isWritten
    exact hs.hasLongNumber.mono (hds.trans (isInfix_of_mem_tokens ht))

end CronSchedule
