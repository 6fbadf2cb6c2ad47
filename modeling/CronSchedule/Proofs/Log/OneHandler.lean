import CronSchedule.Log.Setup
import CronSchedule.Proofs.Log.Line
import Mathlib.Data.List.Induction

/-!
What the logger writes. Main statement: it carries the handler of the latest setup that succeeded and no
other, and each record that is admitted is written once, as that setup asks for
(`LogSetup.one_handler_after`).
-/

namespace CronSchedule

theorem LogRequest.layout?_eq_none_iff {stderr : LogStream} {q : LogRequest} :
    q.layout? stderr = none ↔ q.layout ≠ "console" ∧ q.layout ≠ "json" := by
  rw [layout?, Option.map_eq_none_iff, Layout.ofName?]
  split_ifs <;> simp_all

theorem Layout.on_of_ofName? {name : String} {layout : Layout} {stream : LogStream}
    (h : ofName? name = some layout) (hs : stream.isTerminal = false) : layout.on stream = layout := by
  rw [ofName?] at h
  split_ifs at h <;> cases h
  · rw [on, hs]
  · rfl

namespace LogSetup

/-- What a setup asks for. -/
structure Terms where
  level : Int
  layout : Layout
  stream : LogStream

/-- What a record makes the logger write while these terms are in force. -/
def Terms.lines (here : LocalClock) (t : Terms) (r : LogRecord) : List (LogStream × String) :=
  if Logger.admits ⟨none, t.level⟩ r then [(t.stream, r.text here t.layout ++ "\n")] else []

/-- The terms that an event puts in force, `some none` if it is a reset and `none` if it changes
nothing. -/
def Event.change? : Event → Option (Option Terms)
  | configure stderr q =>
    (q.layout? stderr).map fun layout => some ⟨q.level.value, layout, q.target stderr⟩
  | reset => some none
  | record _ => none

/-- The terms in force after some events: those of the last change, unless that was a reset. -/
def inForce (es : List Event) : Option Terms :=
  (es.filterMap Event.change?).getLast?.join

/-- What an event makes the logger write while these terms, if any, are in force. -/
def Event.lines (here : LocalClock) (t : Option Terms) : Event → List (LogStream × String)
  | record r => t.elim [] (·.lines here r)
  | _ => []

/-- The logger is set up on these terms, or not at all. Its handlers are the installed one. -/
structure Shows (s : LogSetup) (t : Option Terms) : Prop where
  handlers : s.handlers.map (fun h => (h.layout, h.stream)) =
    t.toList.map fun t => (t.layout, t.stream)
  installed : s.installed.toList = s.handlers
  level : s.level = (t.map (·.level)).getD 0
  propagates : s.propagates = t.isNone

/-- The logger as a caller sees it: which handler was made when does not show. -/
def logger (s : LogSetup) : Logger :=
  ⟨s.handlers.head?.map fun h => ⟨h.layout, h.stream.number⟩, s.level⟩

/-- The event as a caller sees it. -/
def Event.onLogger : Event → LogEvent
  | configure stderr q => .configure q.level.value q.layout (q.target stderr).number
  | reset => .reset
  | record r => .record r

/-- The event does not send the lines to a terminal, so that their colours are not in question. -/
def Event.Plain : Event → Prop
  | configure stderr q => (q.target stderr).isTerminal = false
  | _ => True

/-- The effect as a caller sees it. -/
def Effect.onLogger (x : Effect) : Except UnknownLayout (Logger × List (Nat × String)) :=
  match x.error with
  | some u => .error u
  | none => .ok (x.setup.logger, x.written.map fun w => (w.1.number, w.2))

variable {here : LocalClock} {s : LogSetup} {t : Option Terms} {e : Event} {es : List Event} {r : LogRecord}
  {stderr : LogStream} {q : LogRequest} {u : UnknownLayout}

theorem inForce_concat : inForce (es ++ [e]) = e.change?.getD (inForce es) := by
  rw [inForce, List.filterMap_append]
  cases h : e.change? with
  | none => simp [h, inForce]
  | some change => simp [h]

theorem shows_fresh : fresh.Shows none where
  handlers := rfl
  installed := rfl
  level := rfl
  propagates := rfl

/-- Without the installed handler the logger carries none. -/
theorem Shows.handlers_removeInstalled (h : s.Shows t) : s.removeInstalled.handlers = [] := by
  have hs := h.installed
  rw [removeInstalled]
  cases hi : s.installed with
  | none =>
    rw [hi] at hs
    exact hs.symm
  | some handler =>
    rw [hi] at hs
    simp [removeHandler, ← hs]

theorem handlers_addHandler (hs : s.handlers = []) (new : NumberedHandler) :
    (s.addHandler new).handlers = [new] := by
  simp [addHandler, hs]

theorem installed_addHandler (s : LogSetup) (new : NumberedHandler) :
    (s.addHandler new).installed = s.installed := by
  rw [addHandler]
  split <;> rfl

/-- One step keeps the logger on the terms of the last change. -/
theorem Shows.step (h : s.Shows t) (e : Event) : (s.step here e).setup.Shows (e.change?.getD t) := by
  have hremoved := h.handlers_removeInstalled
  cases e with
  | configure stderr q =>
    rw [LogSetup.step, configure, Event.change?]
    cases q.layout? stderr with
    | none => exact h
    | some layout =>
      constructor
      case handlers =>
        rw [handlers_addHandler (by exact hremoved)]
        rfl
      case installed =>
        rw [handlers_addHandler (by exact hremoved), installed_addHandler]
        rfl
      all_goals rfl
  | reset =>
    constructor
    case handlers => exact List.map_eq_nil_iff.mpr hremoved
    case installed => exact hremoved.symm
    all_goals rfl
  | record r => exact h

theorem shows_after (here : LocalClock) (es : List Event) : (fresh.after here es).Shows (inForce es) := by
  induction es using List.reverseRecOn with
  | nil => exact shows_fresh
  | append_singleton es e ih =>
    rw [after, List.foldl_append, inForce_concat]
    exact ih.step e

theorem Shows.write_eq (h : s.Shows t) : s.write here r = t.elim [] (·.lines here r) := by
  have hh := h.handlers
  rw [write, admits, h.level]
  cases t with
  | none =>
    rw [List.map_eq_nil_iff.mp hh]
    exact ite_self _
  | some t =>
    obtain ⟨handler, hs, ht⟩ := List.map_eq_singleton_iff.mp hh
    obtain ⟨hlayout, hstream⟩ := Prod.mk.inj ht
    rw [hs, List.map_singleton, hlayout, hstream]
    rfl

/-- One step writes what the terms in force ask for. -/
theorem Shows.written_eq (h : s.Shows t) (e : Event) : (s.step here e).written = e.lines here t := by
  cases e with
  | configure stderr q =>
    rw [LogSetup.step, configure]
    cases q.layout? stderr <;> rfl
  | reset => rfl
  | record r => exact h.write_eq

theorem transcript_concat (s : LogSetup) (es : List Event) (e : Event) :
    s.transcript here (es ++ [e]) = s.transcript here es ++ ((s.after here es).step here e).written := by
  induction es generalizing s with
  | nil => simp [transcript, after]
  | cons x es ih =>
    rw [List.cons_append, transcript, ih, transcript, List.append_assoc]
    rfl

/-- Only a setup with an unknown layout fails. -/
theorem error_eq_some_iff : (s.step here e).error = some u ↔
    ∃ stderr q, e = .configure stderr q ∧ q.layout ≠ "console" ∧ q.layout ≠ "json" ∧
      u = ⟨q.layout⟩ := by
  cases e with
  | configure stderr q =>
    rw [LogSetup.step, configure]
    cases h : q.layout? stderr with
    | none =>
      have hq := LogRequest.layout?_eq_none_iff.mp h
      constructor
      · intro hu
        exact ⟨stderr, q, rfl, hq.1, hq.2, (Option.some.inj hu).symm⟩
      · intro hx
        obtain ⟨_, _, he, -, -, rfl⟩ := hx
        cases he
        rfl
    | some layout =>
      refine iff_of_false nofun fun hx => ?_
      obtain ⟨_, _, he, hconsole, hjson, -⟩ := hx
      cases he
      rw [LogRequest.layout?_eq_none_iff.mpr ⟨hconsole, hjson⟩] at h
      cases h
  | reset => exact iff_of_false nofun fun hx => by simp at hx
  | record r => exact iff_of_false nofun fun hx => by simp at hx

/-- What fails changes nothing. -/
theorem setup_of_error (h : (s.step here e).error ≠ none) : (s.step here e).setup = s := by
  cases e with
  | configure stderr q =>
    revert h
    rw [LogSetup.step, configure]
    cases q.layout? stderr with
    | none => exact fun _ => rfl
    | some layout => exact fun h => absurd rfl h
  | reset => exact absurd rfl h
  | record r => rfl

/-- The logger as a caller sees it takes the same steps. -/
theorem Shows.step_logger (h : s.Shows t) (he : e.Plain) :
    s.logger.step here e.onLogger = (s.step here e).onLogger := by
  cases e with
  | configure stderr q =>
    rw [LogSetup.step, configure, Event.onLogger, Logger.step, Logger.configure, LogRequest.layout?]
    cases hl : Layout.ofName? q.layout with
    | none => rfl
    | some layout =>
      simp only [Option.map_some, Effect.onLogger, logger]
      rw [handlers_addHandler (by exact h.handlers_removeInstalled), Layout.on_of_ofName? hl he]
      rfl
  | reset =>
    simp [LogSetup.step, Event.onLogger, Logger.step, Effect.onLogger, logger, reset,
      h.handlers_removeInstalled, Logger.unset]
  | record r =>
    have hwrite : s.logger.write here r = (s.write here r).map fun w => (w.1.number, w.2) := by
      rw [write, admits, logger, Logger.write, ← h.installed]
      cases s.installed with
      | none => simp
      | some handler =>
        simp only [Option.toList_some, List.head?_cons, Option.map_some, List.map_singleton]
        rw [apply_ite (List.map fun w : LogStream × String => (w.1.number, w.2))]
        rfl
    rw [Event.onLogger, Logger.step, hwrite]
    rfl

theorem Shows.propagates_logger (h : s.Shows t) : s.logger.propagates = s.propagates := by
  have hh := h.handlers
  rw [Logger.propagates, logger, Option.isNone_map, h.propagates]
  cases t with
  | none =>
    rw [List.map_eq_nil_iff.mp hh]
    rfl
  | some t =>
    obtain ⟨handler, hs, -⟩ := List.map_eq_singleton_iff.mp hh
    rw [hs]
    rfl

/-- After any events the logger carries exactly one handler if the last setup that succeeded was not a
reset, with the layout and the stream that it asked for, and none otherwise; its level is the one that was
asked for, and records are handed on unless it is set up. A setup fails exactly if it names an unknown
layout, and then it leaves the logger as it was. A record that is admitted makes the logger write one line,
to the stream of the setup in force and as its layout asks for, and nothing else is ever written. A caller
who is not shown which handler was made when sees `Logger` take the same steps. -/
theorem one_handler_after (here : LocalClock) (es : List Event) :
    (fresh.after here es).Shows (inForce es) ∧
    (∀ e u, ((fresh.after here es).step here e).error = some u ↔
      ∃ stderr q, e = .configure stderr q ∧ q.layout ≠ "console" ∧ q.layout ≠ "json" ∧
        u = ⟨q.layout⟩) ∧
    (∀ e, ((fresh.after here es).step here e).error ≠ none →
      ((fresh.after here es).step here e).setup = fresh.after here es) ∧
    (∀ e, ((fresh.after here es).step here e).written = e.lines here (inForce es)) ∧
    (∀ t r, inForce es = some t → Logger.admits ⟨none, t.level⟩ r = true →
      ∃ line, r.IsLine here t.layout line ∧
        ((fresh.after here es).step here (.record r)).written = [(t.stream, line ++ "\n")]) ∧
    (∀ e, fresh.transcript here (es ++ [e]) = fresh.transcript here es ++ e.lines here (inForce es)) ∧
    (fresh.after here es).logger.propagates = (fresh.after here es).propagates ∧
    ∀ e : Event, e.Plain →
      (fresh.after here es).logger.step here e.onLogger = ((fresh.after here es).step here e).onLogger := by
  have hshows : (fresh.after here es).Shows (inForce es) := shows_after here es
  refine ⟨hshows, fun e u => error_eq_some_iff, fun e => setup_of_error, hshows.written_eq, ?_, ?_,
    hshows.propagates_logger, fun e => hshows.step_logger⟩
  · intro t r ht hadmits
    refine ⟨_, r.isLine_text here t.layout, ?_⟩
    rw [hshows.written_eq, ht, Event.lines, Option.elim_some, Terms.lines, if_pos hadmits]
  · intro e
    rw [transcript_concat, hshows.written_eq]

example : (fresh.transcript id
    [.configure ⟨1, true⟩ ⟨.name "debug", "json", some ⟨2, false⟩⟩,
      .configure ⟨1, true⟩ ⟨.number 20, "console", none⟩,
      .configure ⟨1, true⟩ ⟨.number 0, "xml", some ⟨2, false⟩⟩,
      .record ⟨"cronlens.cli", 20, "", ⟨0, by decide⟩, none⟩, .reset,
      .record ⟨"cronlens.cli", 50, "", ⟨0, by decide⟩, none⟩]).map (·.1.number) = [1] := by
  rfl

end LogSetup

end CronSchedule
