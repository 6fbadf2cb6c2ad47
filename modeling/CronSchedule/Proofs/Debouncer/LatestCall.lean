import CronSchedule.Debouncer
import Mathlib.Data.List.Induction

/-!
Which calls a debouncer runs. Main statement: a flush and the timer that is set run the latest call, if
nothing has settled it since, and nothing else is ever run (`Debouncer.runs_latest_call`).
-/

namespace CronSchedule.Debouncer

/-- An event, and what the function would answer at that time. -/
structure Turn (α ε ρ : Type) where
  event : Event α
  answer : α → Except ε ρ

variable {α ε ρ : Type}

def turn (d : Debouncer α ρ) (t : Turn α ε ρ) : Option (Run α ε ρ) × Debouncer α ρ :=
  d.step t.answer t.event

/-- The debouncer after some turns. -/
def after (d : Debouncer α ρ) (ts : List (Turn α ε ρ)) : Debouncer α ρ :=
  ts.foldl (fun d t => (d.turn t).2) d

/-- What is run in the course of some turns. -/
def runs (d : Debouncer α ρ) : List (Turn α ε ρ) → List (Run α ε ρ)
  | [] => []
  | t :: ts => (d.turn t).1.toList ++ (d.turn t).2.runs ts

def events (ts : List (Turn α ε ρ)) : List (Event α) :=
  ts.map (·.event)

def Event.arguments? : Event α → Option α
  | call arguments => some arguments
  | _ => none

/-- The arguments of the calls among some events, in order. The timers are numbered as the calls are. -/
def calls (es : List (Event α)) : List α :=
  es.filterMap Event.arguments?

/-- The event leaves nothing to be done for the call with that timer: it replaces the call, drops it or
has it run. -/
def Event.Settles (timer : Nat) : Event α → Prop
  | elapse t => t = timer
  | _ => True

/-- After some events there is a call that nothing has settled, made with these arguments and that
timer. -/
def Waits (es : List (Event α)) (timer : Nat) (arguments : α) : Prop :=
  ∃ before after, es = before ++ .call arguments :: after ∧ (calls before).length = timer ∧
    ∀ e ∈ after, ¬ e.Settles timer

/-- What a debouncer remembers of the events: how many calls there were, and the one that waits. A timer
is set for it and for nothing else. -/
structure Recalls (d : Debouncer α ρ) (es : List (Event α)) : Prop where
  nextTimer : d.nextTimer = (calls es).length
  waits : ∀ timer arguments,
    d.timer = some timer ∧ d.pending = some arguments ↔ Waits es timer arguments
  linked : d.timer.isSome = d.pending.isSome

section

variable {d : Debouncer α ρ} {f : α → Except ε ρ} {es : List (Event α)} {e : Event α}
  {timer : Nat} {arguments : α} {r : Run α ε ρ}

/-- Running leaves nothing behind to be run, and a result only if there is one. -/
theorem runPending_eq :
    d.runPending f = (d.pending.map fun arguments => ⟨arguments, f arguments⟩,
      { d.cancel with
        lastResult := (d.pending.bind fun arguments => (f arguments).toOption).or d.lastResult }) := by
  rw [runPending]
  cases d.pending with
  | none => rfl
  | some arguments =>
    cases hf : f arguments with
    | error error => simp [hf, cancel, Except.toOption]
    | ok result => simp [hf, Except.toOption]

theorem not_waits_nil : ¬ Waits [] timer arguments := by
  intro h
  obtain ⟨before, after, h, -⟩ := h
  exact List.append_ne_nil_of_right_ne_nil before (List.cons_ne_nil _ after) h.symm

/-- After one more event the call that waits is the one that was just made, or the one that waited
before, if the event has not settled it. -/
theorem waits_concat : Waits (es ++ [e]) timer arguments ↔
    e = .call arguments ∧ (calls es).length = timer ∨
      Waits es timer arguments ∧ ¬ e.Settles timer := by
  constructor
  · intro h
    obtain ⟨before, after, h, htimer, hafter⟩ := h
    rcases List.eq_nil_or_concat after with rfl | ⟨after, last, rfl⟩
    · obtain ⟨rfl, hcall⟩ := List.append_inj' h rfl
      exact .inl ⟨List.singleton_inj.mp hcall, htimer⟩
    · rw [List.concat_eq_append, ← List.cons_append, ← List.append_assoc] at h
      obtain ⟨rfl, hlast⟩ := List.append_inj' h rfl
      cases hlast
      rw [List.concat_eq_append, List.forall_mem_append] at hafter
      exact .inr ⟨⟨before, after, rfl, htimer, hafter.1⟩, hafter.2 _ List.mem_cons_self⟩
  · intro h
    rcases h with ⟨rfl, htimer⟩ | ⟨⟨before, after, rfl, htimer, hafter⟩, he⟩
    · exact ⟨es, [], rfl, htimer, nofun⟩
    · refine ⟨before, after ++ [e], by simp, htimer, ?_⟩
      exact List.forall_mem_append.mpr ⟨hafter, List.forall_mem_singleton.mpr he⟩

theorem calls_concat : calls (es ++ [e]) = calls es ++ e.arguments?.toList := by
  rw [calls, List.filterMap_append]
  cases e <;> rfl

theorem recalls_new : (new : Debouncer α ρ).Recalls [] where
  nextTimer := rfl
  waits _ _ := iff_of_false (fun h => nomatch h.1) not_waits_nil
  linked := rfl

/-- Nothing waits after an event that settles the call which waited and makes no other. -/
theorem Recalls.idle (h : d.Recalls es) (he : e.arguments? = none)
    (hs : ∀ timer, d.timer = some timer → e.Settles timer) (result : Option ρ) :
    Recalls { d.cancel with lastResult := result } (es ++ [e]) where
  nextTimer := by
    rw [calls_concat, he]
    simpa [cancel] using h.nextTimer
  waits timer arguments := by
    refine iff_of_false (fun hx => nomatch hx.1) fun hw => ?_
    rcases waits_concat.mp hw with ⟨rfl, -⟩ | ⟨hw, hn⟩
    · cases he
    · exact hn (hs timer ((h.waits timer arguments).mpr hw).1)
  linked := rfl

theorem Recalls.call (h : d.Recalls es) : (d.call arguments).Recalls (es ++ [.call arguments]) where
  nextTimer := by
    rw [calls_concat, List.length_append, ← h.nextTimer]
    rfl
  waits timer other := by
    rw [waits_concat, ← h.nextTimer]
    simp [Debouncer.call, Event.Settles, eq_comm, and_comm]
  linked := rfl

theorem Recalls.elapse (h : d.Recalls es) (ht : d.timer ≠ some timer) :
    d.Recalls (es ++ [.elapse timer]) where
  nextTimer := by
    rw [calls_concat, h.nextTimer]
    simp [Event.arguments?]
  waits other arguments := by
    rw [waits_concat, or_iff_right (by simp), h.waits, iff_self_and]
    intro hw hs
    cases hs
    exact ht ((h.waits timer arguments).mpr hw).1
  linked := h.linked

/-- One step keeps what is remembered true. -/
theorem Recalls.step (h : d.Recalls es) (f : α → Except ε ρ) (e : Event α) :
    (d.step f e).2.Recalls (es ++ [e]) := by
  cases e with
  | call arguments => exact h.call
  | cancel =>
    refine h.idle rfl ?_ d.lastResult
    exact fun _ _ => trivial
  | flush =>
    rw [Debouncer.step, runPending_eq]
    refine h.idle rfl ?_ _
    exact fun _ _ => trivial
  | elapse timer =>
    rw [Debouncer.step]
    split
    · next ht =>
      rw [runPending_eq]
      refine h.idle rfl ?_ _
      exact fun _ hx => Option.some.inj (ht.symm.trans hx)
    · next ht => exact h.elapse ht

theorem recalls_after (ts : List (Turn α ε ρ)) :
    (new.after ts : Debouncer α ρ).Recalls (events ts) := by
  induction ts using List.reverseRecOn with
  | nil => exact recalls_new
  | append_singleton ts t ih =>
    rw [after, List.foldl_append, events, List.map_append]
    exact ih.step t.answer t.event

theorem Recalls.pending_iff (h : d.Recalls es) :
    d.pending = some arguments ↔ ∃ timer, Waits es timer arguments := by
  simp only [← h.waits]
  constructor
  · intro hp
    have ht : d.timer.isSome = true := by rw [h.linked, hp, Option.isSome_some]
    obtain ⟨timer, ht⟩ := Option.isSome_iff_exists.mp ht
    exact ⟨timer, ht, hp⟩
  · intro hw
    obtain ⟨timer, -, hp⟩ := hw
    exact hp

theorem Recalls.timer_iff (h : d.Recalls es) :
    d.timer = some timer ↔ ∃ arguments, Waits es timer arguments := by
  simp only [← h.waits]
  constructor
  · intro ht
    have hp : d.pending.isSome = true := by rw [← h.linked, ht, Option.isSome_some]
    obtain ⟨arguments, hp⟩ := Option.isSome_iff_exists.mp hp
    exact ⟨arguments, ht, hp⟩
  · intro hw
    obtain ⟨arguments, ht, -⟩ := hw
    exact ht

theorem Recalls.runPending_iff (h : d.Recalls es) :
    (d.runPending f).1 = some r ↔
      ∃ timer arguments, Waits es timer arguments ∧ r = ⟨arguments, f arguments⟩ := by
  rw [runPending_eq, Option.map_eq_some_iff]
  constructor
  · intro hx
    obtain ⟨arguments, hp, rfl⟩ := hx
    obtain ⟨timer, hw⟩ := h.pending_iff.mp hp
    exact ⟨timer, arguments, hw, rfl⟩
  · intro hx
    obtain ⟨timer, arguments, hw, rfl⟩ := hx
    exact ⟨arguments, h.pending_iff.mpr ⟨timer, hw⟩, rfl⟩

/-- A step runs the call that waits, if it is a flush or the timer of that call. -/
theorem Recalls.step_runs_iff (h : d.Recalls es) :
    (d.step f e).1 = some r ↔
      ∃ timer arguments, Waits es timer arguments ∧ (e = .flush ∨ e = .elapse timer) ∧
        r = ⟨arguments, f arguments⟩ := by
  cases e with
  | call arguments => exact iff_of_false nofun fun hx => by simp at hx
  | cancel => exact iff_of_false nofun fun hx => by simp at hx
  | flush =>
    rw [Debouncer.step, h.runPending_iff]
    simp
  | elapse timer =>
    rw [Debouncer.step]
    split
    · next ht =>
      rw [h.runPending_iff]
      constructor
      · intro hx
        obtain ⟨other, arguments, hw, hr⟩ := hx
        have hother : timer = other :=
          Option.some.inj (ht.symm.trans (h.timer_iff.mpr ⟨arguments, hw⟩))
        exact ⟨other, arguments, hw, .inr (congrArg _ hother), hr⟩
      · intro hx
        obtain ⟨other, arguments, hw, -, hr⟩ := hx
        exact ⟨other, arguments, hw, hr⟩
    · next ht =>
      refine iff_of_false nofun fun hx => ?_
      obtain ⟨other, arguments, hw, he | he, -⟩ := hx
      · cases he
      · cases he
        exact ht (h.timer_iff.mpr ⟨arguments, hw⟩)

/-- A call that was settled does not wait any more: no other event makes a call with its number. -/
theorem not_waits_of_settles {before between : List (Event α)}
    (hs : ∃ e ∈ between, e.Settles (calls before).length) (other : α) :
    ¬ Waits (before ++ .call arguments :: between) (calls before).length other := by
  intro hw
  obtain ⟨before', after, h, hnumber, hafter⟩ := hw
  have hbetween : between = after := by
    rcases List.append_eq_append_iff.mp h with ⟨c, rfl, hc⟩ | ⟨c, rfl, hc⟩
    · cases c with
      | nil => exact (List.cons.inj hc).2
      | cons x c =>
        cases hc
        simp [calls, Event.arguments?] at hnumber
    · cases c with
      | nil => exact (List.cons.inj hc).2.symm
      | cons x c =>
        cases hc
        simp [calls, Event.arguments?] at hnumber
  obtain ⟨e, he, hs⟩ := hs
  exact hafter e (hbetween ▸ he) hs

/-- What a step runs and leaves to be run is what was left before it and the call that it makes. -/
theorem sublist_step (d : Debouncer α ρ) (t : Turn α ε ρ) :
    ((d.turn t).1.toList.map (·.arguments) ++ (d.turn t).2.pending.toList).Sublist
      (d.pending.toList ++ t.event.arguments?.toList) := by
  obtain ⟨e, f⟩ := t
  have hrun : (d.runPending f).1.toList.map (·.arguments) ++ (d.runPending f).2.pending.toList =
      d.pending.toList := by
    rw [runPending_eq]
    cases d.pending <;> rfl
  simp only [turn]
  cases e with
  | call arguments => exact List.sublist_append_right ..
  | cancel => exact List.nil_sublist _
  | flush =>
    rw [Debouncer.step, hrun]
    exact List.sublist_append_left ..
  | elapse timer =>
    rw [Debouncer.step]
    split
    · rw [hrun]
      exact List.sublist_append_left ..
    · exact List.sublist_append_left ..

/-- What is run, and what is left to be run in the end, are calls in their order, each of them once. -/
theorem sublist_calls (d : Debouncer α ρ) (ts : List (Turn α ε ρ)) :
    ((d.runs ts).map (·.arguments) ++ (d.after ts).pending.toList).Sublist
      (d.pending.toList ++ calls (events ts)) := by
  induction ts generalizing d with
  | nil => exact List.sublist_append_left ..
  | cons t ts ih =>
    have hcalls : calls (events (t :: ts)) = t.event.arguments?.toList ++ calls (events ts) := by
      simp only [calls, events, List.map_cons, List.filterMap_cons]
      cases t.event.arguments? <;> rfl
    rw [runs, List.map_append, List.append_assoc, hcalls, ← List.append_assoc d.pending.toList]
    refine (List.Sublist.append_left (ih (d.turn t).2) _).trans ?_
    rw [← List.append_assoc]
    exact (sublist_step d t).append_right _

/-- A flush runs the latest call, and so does the timer that was set for it, unless a flush, a cancel or
that timer has come after the call. No other call is run then, and none that was settled is run later.
A timer that is out of date changes nothing, and one is set exactly while a call waits. -/
theorem runs_latest_call (ts : List (Turn α ε ρ)) :
    (∀ (t : Turn α ε ρ) r, ((new.after ts).turn t).1 = some r ↔
      ∃ timer arguments, Waits (events ts) timer arguments ∧
        (t.event = .flush ∨ t.event = .elapse timer) ∧ r = ⟨arguments, t.answer arguments⟩) ∧
    (∀ before arguments between, events ts = before ++ .call arguments :: between →
      (∃ e ∈ between, e.Settles (calls before).length) →
        ∀ other, ¬ Waits (events ts) (calls before).length other) ∧
    ((new.runs ts).map (·.arguments)).Sublist (calls (events ts)) ∧
    (∀ (t : Turn α ε ρ) timer, t.event = .elapse timer →
      (∀ arguments, ¬ Waits (events ts) timer arguments) →
        (new.after ts).turn t = (none, new.after ts)) ∧
    (new.after ts).timer.isSome = (new.after ts).pending.isSome ∧
    ∀ timer arguments, (new.after ts).timer = some timer ∧ (new.after ts).pending = some arguments ↔
      Waits (events ts) timer arguments := by
  have hrecalls : (new.after ts).Recalls (events ts) := recalls_after ts
  refine ⟨fun t r => hrecalls.step_runs_iff, ?_, ?_, ?_, hrecalls.linked, hrecalls.waits⟩
  · intro before arguments between h hs
    rw [h]
    exact not_waits_of_settles hs
  · exact (List.sublist_append_left ..).trans (sublist_calls new ts)
  · intro t timer ht hw
    have htimer : (new.after ts).timer ≠ some timer := fun hx =>
      (hrecalls.timer_iff.mp hx).elim hw
    rw [turn, ht, Debouncer.step, if_neg htimer]

end

example : ((new : Debouncer Nat Nat).runs
    ([.call 1, .call 2, .elapse 0, .elapse 1, .flush].map fun e =>
      ⟨e, (.ok : Nat → Except String Nat)⟩)).map (·.arguments) = [2] := rfl

end CronSchedule.Debouncer
