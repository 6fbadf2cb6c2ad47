import CronSchedule.Draft.Call
import CronSchedule.Proofs.Association
import CronSchedule.Proofs.Expression.NormalForm
import CronSchedule.Proofs.Expression.Strict
import CronSchedule.Proofs.Text.Figures
import Mathlib.Data.List.TakeWhile

/-!
What becomes of the texts in the slots of a draft. Main statement: the expression that a draft makes has
in every slot the text that was last written there exactly if each of these texts is one word
(`Draft.carries_iff_of_build`).
-/

namespace CronSchedule

open Expression (filled slotTokens tokens)

namespace Text

variable {x y : String}

theorem IsWord.append (hx : IsWord x.toList) (hy : IsWord y.toList) : IsWord (x ++ y).toList := by
  rw [String.toList_append]
  exact ⟨List.append_ne_nil_of_left_ne_nil hx.ne_nil _,
    List.forall_mem_append.mpr ⟨hx.not_isBlank, hy.not_isBlank⟩⟩

theorem isWord_figures (n : Nat) : IsWord (figures n) :=
  ⟨figures_ne_nil n, fun _ hc => isBlank_of_isDigit (isDigit_of_mem_figures hc)⟩

theorem isWord_ofInt (n : Int) : IsWord (ofInt n).toList := by
  rw [ofInt, String.toList_ofList]
  cases n with
  | ofNat n => exact isWord_figures n
  | negSucc n => exact .cons (by decide) (isWord_figures (n + 1))

end Text

theorem listToken_cons_cons (m n : Int) (ns : List Int) :
    listToken (m :: n :: ns) = Text.ofInt m ++ "," ++ listToken (n :: ns) :=
  String.intercalate_cons_of_ne_nil (List.cons_ne_nil _ _)

theorem isWord_listToken {ns : List Int} (hne : ns ≠ []) : Text.IsWord (listToken ns).toList := by
  induction ns with
  | nil => exact absurd rfl hne
  | cons m ns ih =>
    cases ns with
    | nil =>
      rw [listToken, List.map_singleton, String.intercalate_singleton]
      exact Text.isWord_ofInt m
    | cons n ns =>
      rw [listToken_cons_cons]
      exact ((Text.isWord_ofInt m).append (by decide)).append (ih (List.cons_ne_nil n ns))

/-- What belongs in a slot: one word, or for the year no text at all. -/
def Slot.Takes (slot : Slot) (text : String) : Prop :=
  Text.IsWord text.toList ∨ slot = .year ∧ text = ""

instance (slot : Slot) (text : String) : Decidable (slot.Takes text) :=
  inferInstanceAs (Decidable (_ ∨ _))

/-- Each field has the text of its slot, and there is one for the year unless that text is empty. -/
structure Expression.Carries (e : Expression) (text : Slot → String) : Prop where
  token : ∀ slot f, e.field? slot = some f → f.token = text slot
  year : e.year.isSome = true ↔ text .year ≠ ""

/-- The text that is written to a slot last. -/
def lastText? (ws : List (Slot × String)) (slot : Slot) : Option String :=
  (ws.filter (·.1 = slot)).getLast?.map (·.2)

/-- A setter that writes what belongs in its slots: some numbers, if it takes any but years, and texts
of one word. -/
def Setter.IsProper : Setter → Prop
  | atSecond ns | atMinute ns | atHour ns | onDay ns | inMonth ns | onWeekday ns => ns ≠ []
  | field slot text => slot.Takes text
  | _ => True

section

variable {ws vs : List (Slot × String)} {slot : Slot} {text : String} {s : Setter}

theorem lastText?_append :
    lastText? (ws ++ vs) slot = (lastText? vs slot).or (lastText? ws slot) :=
  Association.last?_append slot ws vs

theorem lastText?_cons (w : Slot × String) :
    lastText? (w :: ws) slot =
      (lastText? ws slot).or (if w.1 = slot then some w.2 else none) :=
  Association.last?_cons slot w ws

theorem mem_of_lastText? (h : lastText? ws slot = some text) : (slot, text) ∈ ws := by
  obtain ⟨before, after, rfl, -⟩ := Association.last?_eq_some.mp h
  exact List.mem_append_right _ List.mem_cons_self

theorem Slot.takes_ofInt (slot : Slot) (n : Int) : slot.Takes (Text.ofInt n) :=
  .inl (Text.isWord_ofInt n)

theorem Slot.takes_everyToken (slot : Slot) (n : Int) : slot.Takes (everyToken n) :=
  .inl (.append (by decide) (Text.isWord_ofInt n))

theorem Slot.takes_listToken {ns : List Int} (slot : Slot) (h : ns ≠ []) :
    slot.Takes (listToken ns) :=
  .inl (isWord_listToken h)

theorem Slot.year_takes_listToken (ns : List Int) : Slot.year.Takes (listToken ns) := by
  by_cases h : ns = []
  · subst h
    exact .inr ⟨rfl, rfl⟩
  · exact year.takes_listToken h

theorem Setter.takes_of_mem_writes (hs : s.IsProper) (h : (slot, text) ∈ s.writes) :
    slot.Takes text := by
  cases s
  case withSeconds => cases h
  case everyDay =>
    rcases List.mem_pair.mp h with h | h
    all_goals
      cases h
      exact .inl (by decide)
  case dailyAt =>
    rcases List.mem_pair.mp h with h | h
    all_goals
      cases h
      exact Slot.takes_ofInt _ _
  -- all others write one text
  all_goals
    cases List.mem_singleton.mp h
  case atSecond | atMinute | atHour | onDay | inMonth | onWeekday => exact Slot.takes_listToken _ hs
  case everySeconds | everyMinutes | everyHours => exact Slot.takes_everyToken _ _
  case betweenHours first last =>
    exact .inl (((Text.isWord_ofInt first).append (by decide)).append (Text.isWord_ofInt last))
  case onWorkingDays | onWeekends => exact .inl (by decide)
  case inYear => exact Slot.year_takes_listToken _
  case hourlyAt => exact Slot.takes_ofInt _ _
  case field => exact hs

theorem Setter.length_numbers (s : Setter) : s.numbers.length = s.writes.length := by
  cases s <;> rfl

/-- A call that is stopped has written some of the texts, up to one of them. -/
theorem Setter.written_prefix (s : Setter) : s.written <+: s.writes := by
  have hzip : (s.writes.zip s.numbers).map (·.1) = s.writes :=
    List.map_fst_zip (Nat.le_of_eq s.length_numbers.symm)
  rw [← hzip]
  exact (List.takeWhile_prefix _).map _

theorem Setter.notMem_writes_second (h : s.usesSeconds = false) : (.second, text) ∉ s.writes := by
  cases s with
  | withSeconds => exact List.not_mem_nil
  | _ => exact fun hmem => List.any_eq_false.mp h _ hmem (decide_eq_true rfl)

end

namespace Draft

variable {d : Draft} {s : Setter} {ss : List Setter} {slot : Slot} {e : Expression}

/-- The text that a row of calls leaves in a slot: the one written there last, or the one that was there
before. -/
def stored (d : Draft) (ss : List Setter) (slot : Slot) : String :=
  (lastText? (ss.flatMap Setter.written) slot).getD (d.token slot)

theorem token_foldl_write (ws : List (Slot × String)) (d : Draft) (slot : Slot) :
    (ws.foldl (fun d w => d.write w.1 w.2) d).token slot =
      (lastText? ws slot).getD (d.token slot) := by
  induction ws generalizing d with
  | nil => rfl
  | cons w ws ih =>
    rw [List.foldl_cons, ih, lastText?_cons, Option.getD_or]
    congr 1
    by_cases h : w.1 = slot
    · rw [if_pos h, ← h, token_write_self, Option.getD_some]
    · rw [if_neg h, token_write_of_ne (Ne.symm h), Option.getD_none]

theorem mode_foldl_write (ws : List (Slot × String)) (d : Draft) :
    (ws.foldl (fun d w => d.write w.1 w.2) d).mode = d.mode := by
  induction ws generalizing d with
  | nil => rfl
  | cons w ws ih => exact ih (d.write w.1 w.2)

theorem token_call (d : Draft) (s : Setter) (slot : Slot) :
    (d.call s).token slot = (lastText? s.written slot).getD (d.token slot) := by
  rw [call, token_foldl_write]
  split <;> rfl

theorem mode_call (d : Draft) (s : Setter) :
    (d.call s).mode = if s.usesSeconds then .seconds else d.mode := by
  rw [call, mode_foldl_write]
  split <;> rfl

theorem token_foldl_call (d : Draft) (ss : List Setter) :
    (ss.foldl call d).token = d.stored ss := by
  funext slot
  induction ss generalizing d with
  | nil => rfl
  | cons s ss ih =>
    rw [List.foldl_cons, ih, stored, token_call, stored, List.flatMap_cons, lastText?_append,
      Option.getD_or]

/-- A draft is in minutes mode only as long as nothing was said about seconds. -/
theorem mode_foldl_call_eq_minutes (h : (ss.foldl call d).mode = .minutes) :
    d.mode = .minutes ∧ ∀ s ∈ ss, s.usesSeconds = false := by
  induction ss generalizing d with
  | nil => exact ⟨h, nofun⟩
  | cons s ss ih =>
    obtain ⟨hmode, hss⟩ := ih h
    rw [mode_call] at hmode
    split at hmode
    · cases hmode
    · next hs => exact ⟨hmode, List.forall_mem_cons.mpr ⟨Bool.eq_false_iff.mpr hs, hss⟩⟩

theorem stored_cases (d : Draft) (ss : List Setter) (slot : Slot) :
    d.stored ss slot = d.token slot ∨ ∃ s ∈ ss, (slot, d.stored ss slot) ∈ s.writes := by
  cases h : lastText? (ss.flatMap Setter.written) slot with
  | none =>
    left
    rw [stored, h, Option.getD_none]
  | some text =>
    right
    rw [stored, h, Option.getD_some]
    obtain ⟨s, hs, hwritten⟩ := List.mem_flatMap.mp (mem_of_lastText? h)
    exact ⟨s, hs, s.written_prefix.subset hwritten⟩

/-- A draft as it is started: anew, from a text, or from the numbers that were picked. -/
inductive IsStart : Draft → Prop
  | new : IsStart new
  | ofSource (source : String) (mode : Mode) : IsStart (ofSource source mode)
  | ofSelections (s : Selections) : IsStart (ofSelections s)

/-- Each slot has what belongs there, and the seconds are 0 in minutes mode. -/
structure IsTidy (d : Draft) : Prop where
  takes : ∀ slot : Slot, slot.Takes (d.token slot)
  second : d.mode = .minutes → d.token .second = "0"

theorem isTidy_new : new.IsTidy where
  takes slot := by cases slot <;> decide
  second _ := rfl

theorem isWord_of_mem_slotTokens {source t : String} {mode : Mode}
    (h : t ∈ slotTokens mode (tokens source)) : Text.IsWord t.toList := by
  cases mode with
  | minutes =>
    rcases List.mem_cons.mp h with rfl | h
    · decide
    · exact isWord_of_mem_tokens h
  | seconds => exact isWord_of_mem_tokens h

theorem isTidy_ofSource (source : String) (mode : Mode) : (ofSource source mode).IsTidy := by
  have hwords : ∀ t ∈ slotTokens mode (tokens source), Text.IsWord t.toList := fun _ =>
    isWord_of_mem_slotTokens
  rw [ofSource]
  split
  · next s m h dom mon dow rest ht =>
    rw [ht] at hwords
    simp only [List.forall_mem_cons] at hwords
    obtain ⟨hs, hm, hh, hdom, hmon, hdow, hrest⟩ := hwords
    refine ⟨fun slot => ?_, fun hmode => ?_⟩
    · cases slot
      case second => exact .inl hs
      case minute => exact .inl hm
      case hour => exact .inl hh
      case dayOfMonth => exact .inl hdom
      case month => exact .inl hmon
      case dayOfWeek => exact .inl hdow
      case year =>
        cases rest with
        | nil => exact .inr ⟨rfl, rfl⟩
        | cons y _ => exact .inl (hrest y List.mem_cons_self)
    · subst hmode
      exact (List.cons.inj ht).1.symm
  · exact ⟨isTidy_new.takes, fun _ => rfl⟩

theorem takes_selectionToken (slot : Slot) (ns : List Int) : slot.Takes (slot.selectionToken ns) := by
  rw [Slot.selectionToken]
  split
  · exact .inl (by decide)
  · next h => exact slot.takes_listToken fun hnil => h (.inl hnil)

theorem isTidy_ofSelections (s : Selections) : (ofSelections s).IsTidy where
  takes slot := by
    cases slot
    case second =>
      change Slot.second.Takes s.secondToken
      rw [Selections.secondToken]
      split
      · exact .inl (by decide)
      · exact takes_selectionToken _ _
    case year => exact .inr ⟨rfl, rfl⟩
    all_goals exact takes_selectionToken _ _
  second hmode := if_pos (.inl hmode)

theorem IsStart.isTidy (h : d.IsStart) : d.IsTidy := by
  cases h with
  | new => exact isTidy_new
  | ofSource source mode => exact isTidy_ofSource source mode
  | ofSelections s => exact isTidy_ofSelections s

theorem IsTidy.takes_stored (hd : d.IsTidy) (hss : ∀ s ∈ ss, s.IsProper) (slot : Slot) :
    slot.Takes (d.stored ss slot) := by
  rcases d.stored_cases ss slot with h | ⟨s, hs, h⟩
  · rw [h]
    exact hd.takes slot
  · exact Setter.takes_of_mem_writes (hss s hs) h

theorem IsTidy.stored_second (hd : d.IsTidy) (h : (ss.foldl call d).mode = .minutes) :
    d.stored ss .second = "0" := by
  obtain ⟨hmode, hss⟩ := mode_foldl_call_eq_minutes h
  rcases d.stored_cases ss .second with h | ⟨s, hs, h⟩
  · rw [h]
    exact hd.second hmode
  · exact absurd h (Setter.notMem_writes_second (hss s hs))

theorem build_eq_ok : d.build = .ok e ↔ parse d.text d.mode = .ok (.expression e) ∧ e.isValid = true :=
  ofSource_eq_ok_iff

theorem filled_text (hsecond : d.mode = .minutes → d.token .second = "0")
    (hw : ∀ slot ∈ d.writtenSlots, Text.IsWord (d.token slot).toList) :
    filled d.text d.mode =
      (Slot.all.filter fun slot => slot = .year → d.token .year ≠ "").map fun slot =>
        (slot, d.token slot) := by
  have ht : tokens d.text = d.writtenSlots.map d.token := tokens_joined (List.forall_mem_map.mpr hw)
  rw [filled, ht]
  cases hm : d.mode with
  | minutes =>
    have h0 := hsecond hm
    by_cases hy : d.token .year = "" <;> simp [writtenSlots, slotTokens, Slot.all, hm, hy, h0]
  | seconds =>
    by_cases hy : d.token .year = "" <;> simp [writtenSlots, slotTokens, Slot.all, hm, hy]

theorem isWord_of_carries (h : parse d.text d.mode = .ok (.expression e)) (hc : e.Carries d.token)
    (hs : slot ∈ d.writtenSlots) : Text.IsWord (d.token slot).toList := by
  have hfield : ∃ f, e.field? slot = some f := by
    cases slot
    case year =>
      exact Option.isSome_iff_exists.mp (hc.year.mpr (of_decide_eq_true (List.mem_filter.mp hs).2))
    all_goals exact ⟨_, rfl⟩
  obtain ⟨f, hf⟩ := hfield
  rw [← hc.token slot f hf]
  exact isWord_of_field? h hf

theorem carries_of_isWord (h : parse d.text d.mode = .ok (.expression e))
    (hsecond : d.mode = .minutes → d.token .second = "0")
    (hw : ∀ slot ∈ d.writtenSlots, Text.IsWord (d.token slot).toList) : e.Carries d.token where
  token slot f hf := by
    have hmem := (read_of_field? h hf).1
    rw [filled_text hsecond hw] at hmem
    obtain ⟨_, -, heq⟩ := List.mem_map.mp hmem
    obtain ⟨rfl, htoken⟩ := Prod.mk.inj heq
    exact htoken.symm
  year := by
    have hyear : e.year.isSome = true ↔ ∃ t, (Slot.year, t) ∈ filled d.text d.mode := by
      constructor
      · intro hsome
        obtain ⟨f, hf⟩ := Option.isSome_iff_exists.mp hsome
        have hfield : e.field? .year = some f := hf
        exact ⟨f.token, (read_of_field? h hfield).1⟩
      · intro hmem
        obtain ⟨t, ht⟩ := hmem
        obtain ⟨f, hf, -⟩ := exists_field?_of_mem_filled h ht
        exact Option.isSome_iff_exists.mpr ⟨f, hf⟩
    rw [hyear, filled_text hsecond hw]
    simp [Slot.all]

/-- If a draft makes an expression after a row of calls, of which some may have been stopped, its fields have
the texts that were written last exactly if each of those that are written out is one word. The setters see
to that unless a list of numbers is empty or a text is not one word. -/
theorem carries_iff_of_build (hd : d.IsStart) (ss : List Setter)
    (h : (ss.foldl call d).build = .ok e) :
    (e.Carries (d.stored ss) ↔
        ∀ slot ∈ (ss.foldl call d).writtenSlots, Text.IsWord (d.stored ss slot).toList) ∧
      ((∀ s ∈ ss, s.IsProper) → e.Carries (d.stored ss)) := by
  obtain ⟨hp, -⟩ := build_eq_ok.mp h
  have htoken := token_foldl_call d ss
  have hsecond : (ss.foldl call d).mode = .minutes → (ss.foldl call d).token .second = "0" := by
    rw [htoken]
    exact hd.isTidy.stored_second
  rw [← htoken]
  refine ⟨⟨fun hc slot => isWord_of_carries hp hc, carries_of_isWord hp hsecond⟩, fun hss => ?_⟩
  refine carries_of_isWord hp hsecond fun slot hslot => ?_
  rcases htoken ▸ hd.isTidy.takes_stored hss slot with hword | ⟨rfl, hempty⟩
  · exact hword
  · exact absurd hempty (of_decide_eq_true (List.mem_filter.mp hslot).2)

theorem carries_iff_of_build_working_days :
    ∃ d ss e, d = ofSource "0 9 * * 1-5 2030" .minutes ∧
      ss = [.everySeconds 10, .field .hour "8-17/3", .onDay [1, 15], .inYear []] ∧ d.IsStart ∧
      (ss.foldl call d).build = .ok e ∧ (∀ s ∈ ss, s.IsProper) ∧ e.Carries (d.stored ss) ∧
      ∀ slot ∈ (ss.foldl call d).writtenSlots, Text.IsWord (d.stored ss slot).toList := by
  have hproper : ∀ s ∈ [Setter.everySeconds 10, .field .hour "8-17/3", .onDay [1, 15], .inYear []],
      s.IsProper := by
    simp only [List.forall_mem_cons]
    exact ⟨trivial, .inl (by decide), List.cons_ne_nil _ _, trivial, nofun⟩
  have hstart : (ofSource "0 9 * * 1-5 2030" .minutes).IsStart := .ofSource _ _
  obtain ⟨hiff, hcarries⟩ := carries_iff_of_build hstart
    [.everySeconds 10, .field .hour "8-17/3", .onDay [1, 15], .inYear []] rfl
  exact ⟨_, _, _, rfl, rfl, hstart, rfl, hproper, hcarries hproper, hiff.mp (hcarries hproper)⟩

/-- No minutes, and a year: each text from the hour on is read one slot before its own. -/
theorem not_carries_of_build_no_minutes :
    ∃ ss e, ss = [.atMinute [], .atHour [9], .field .year "*"] ∧
      (ss.foldl call new).build = .ok e ∧ ¬ e.Carries (new.stored ss) ∧
      new.stored ss .minute = "" ∧ new.stored ss .hour = "9" ∧ new.stored ss .year = "*" ∧
      e.minute.token = "9" ∧ e.hour.token = "*" ∧ e.year = none := by
  refine ⟨[.atMinute [], .atHour [9], .field .year "*"], _, rfl, rfl, fun hc => ?_, by decide⟩
  exact absurd (hc.token .minute _ rfl) (by decide)

end Draft

end CronSchedule
