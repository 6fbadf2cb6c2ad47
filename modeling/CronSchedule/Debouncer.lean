import CronSchedule.Calendar.Duration

/-!
Debouncing: of the calls in a burst only the last one is run, once they have been quiet for a while
or on demand.
-/

namespace CronSchedule

/-- A debouncer of calls with arguments `α` that give results `ρ`. -/
structure Debouncer (α ρ : Type) where
  /-- The arguments of the call that waits to be run. -/
  pending : Option α
  /-- The timer that is set. -/
  timer : Option Nat
  /-- The timers that were ever set are those below this one. -/
  nextTimer : Nat
  lastResult : Option ρ
deriving DecidableEq

namespace Debouncer

/-- What can happen to a debouncer. A timer may still elapse after it was replaced. -/
inductive Event (α : Type) where
  | call (arguments : α)
  | cancel
  | flush
  | elapse (timer : Nat)
deriving DecidableEq

/-- What a call may raise: an exception, or an interrupt such as a request to exit, which is none and is not
caught where exceptions are. -/
inductive Raised (ε : Type) where
  | exception (error : ε)
  | interrupt (error : ε)
deriving DecidableEq

/-- A call that was run, and what came of it. -/
structure Run (α ε ρ : Type) where
  arguments : α
  outcome : Except ε ρ

variable {α ε ρ : Type}

def new : Debouncer α ρ :=
  ⟨none, none, 0, none⟩

def negativeDelay : String :=
  "delay must be non-negative"

/-- A debouncer that waits for some time, unless that is negative. -/
def ofDelay? (delay : Duration) : Option (Debouncer α ρ) :=
  if delay.micros < 0 then none else some new

/-- Sets a new timer for a call, which replaces the one that waits. -/
def call (d : Debouncer α ρ) (arguments : α) : Debouncer α ρ :=
  { d with pending := some arguments, timer := some d.nextTimer, nextTimer := d.nextTimer + 1 }

def cancel (d : Debouncer α ρ) : Debouncer α ρ :=
  { d with pending := none, timer := none }

/-- Runs the call that waits, if there is one; a failure leaves the last result as it was. -/
def runPending (f : α → Except ε ρ) (d : Debouncer α ρ) :
    Option (Run α ε ρ) × Debouncer α ρ :=
  let idle := d.cancel
  match d.pending with
  | none => (none, idle)
  | some arguments =>
    match f arguments with
    | .error e => (some ⟨arguments, .error e⟩, idle)
    | .ok r => (some ⟨arguments, .ok r⟩, { idle with lastResult := some r })

/-- The call that an event runs, if any, and the debouncer after it. -/
def step (f : α → Except ε ρ) (d : Debouncer α ρ) :
    Event α → Option (Run α ε ρ) × Debouncer α ρ
  | .call arguments => (none, d.call arguments)
  | .cancel => (none, d.cancel)
  | .flush => d.runPending f
  | .elapse timer => if d.timer = some timer then d.runPending f else (none, d)

/-- What an event gives back to its caller, when that call was run: a flush hands on what came of it. A timer
works on a thread of its own, so that there is nobody to give or to raise anything to. -/
def Event.answer : Event α → Option (Run α ε ρ) → Except ε (Option ρ)
  | flush, some run => some <$> run.outcome
  | _, _ => .ok none

end Debouncer

end CronSchedule
