import CronSchedule.CommandLine.Passage

/-!
Commands as they work: each part of one shows some passages, and then has a result or stops the
command.
-/

namespace CronSchedule.CommandLine

/-- What stops a command before its end. -/
inductive Stop where
  /-- All is said, and only the code is left. -/
  | exit (code : ExitCode)
  | failed (f : Failure)
  /-- An error that the command does not foresee. -/
  | raised (e : Exception)
deriving DecidableEq

namespace Stop

def code : Stop → ExitCode
  | exit code => code
  | failed f => f.code
  | raised _ => .general

/-- What is told of the stop. -/
def told : Stop → List Passage
  | exit _ => []
  | failed f => f.complaints
  | raised e =>
    [.record ⟨"cronlens.cli_modules.errors", .error, "Unexpected error", some e⟩,
      .complaint "red" ("Error: " ++ e.text)]

end Stop

structure Work (α : Type) where
  shown : List Passage
  result : Except Stop α

namespace Work

variable {α β : Type}

instance : Monad Work where
  pure a := ⟨[], .ok a⟩
  bind x f :=
    match x.result with
    | .error stop => ⟨x.shown, .error stop⟩
    | .ok a => ⟨x.shown ++ (f a).shown, (f a).result⟩

def display (p : Passage) : Work Unit :=
  ⟨[p], .ok ()⟩

def displayAll (ps : List Passage) : Work Unit :=
  ⟨ps, .ok ()⟩

def log (js : List JournalLine) : Work Unit :=
  ⟨js.map .record, .ok ()⟩

def stop (s : Stop) : Work α :=
  ⟨[], .error s⟩

/-- Something that is done without a word. -/
def quietly (x : Except Stop α) : Work α :=
  ⟨[], x⟩

@[simp] theorem result_pure (a : α) : (pure a : Work α).result = .ok a := rfl

@[simp] theorem result_display (p : Passage) : (display p).result = .ok () := rfl

@[simp] theorem result_displayAll (ps : List Passage) : (displayAll ps).result = .ok () := rfl

@[simp] theorem result_log (js : List JournalLine) : (log js).result = .ok () := rfl

@[simp] theorem result_stop (s : Stop) : (stop s : Work α).result = .error s := rfl

@[simp] theorem result_quietly (x : Except Stop α) : (quietly x).result = x := rfl

theorem bind_eq (x : Work α) (f : α → Work β) :
    x >>= f =
      match x.result with
      | .error stop => ⟨x.shown, .error stop⟩
      | .ok a => ⟨x.shown ++ (f a).shown, (f a).result⟩ := rfl

@[simp] theorem result_bind (x : Work α) (f : α → Work β) :
    (x >>= f).result = x.result >>= fun a => (f a).result := by
  rw [bind_eq]
  cases x.result <;> rfl

theorem bind_of_ok {x : Work α} {a : α} (h : x.result = .ok a) (f : α → Work β) :
    x >>= f = ⟨x.shown ++ (f a).shown, (f a).result⟩ := by
  rw [bind_eq, h]

theorem bind_of_error {x : Work α} {s : Stop} (h : x.result = .error s) (f : α → Work β) :
    x >>= f = ⟨x.shown, .error s⟩ := by
  rw [bind_eq, h]

end Work

end CronSchedule.CommandLine
