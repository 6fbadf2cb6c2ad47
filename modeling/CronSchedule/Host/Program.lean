import CronSchedule.CommandLine.Run
import CronSchedule.Host.ControlSequence
import CronSchedule.Host.Markup
import CronSchedule.Host.Options
import CronSchedule.Host.Table

/-!
The program between the arguments that it is given and the text that it prints. How arguments are read and
how sheets are laid out is the business of libraries that the program is linked with; the modules of this
directory stand in for them, so that the program can be run, and nothing is proved about them.
-/

namespace CronSchedule.Host

open CommandLine

/-! ## Running -/

/-- How arguments were answered; those that make no command are answered by how to use the program. -/
inductive Answer where
  | usage
  | finished (verbose : Bool) (o : Outcome)

/-- Answers the arguments. That those of a command are of no use is only told once the settings are
loaded. -/
def answer (w : Surroundings) (args : List String) : Answer :=
  let help : Work Unit := .display (.echo helpText)
  let outcome (verbose : Bool) (work : Work Unit) :=
    .finished verbose (work.outcome w (logSetup w.stderr verbose))
  match Request.read? args with
  | none => .usage
  | some .help => outcome false help
  | some (.command config verbose name rest) =>
    match loadSettings w config, CommandRequest.read? name rest with
    | .ok _, none => .usage
    | .ok _, some .help => outcome verbose (prepared w config >>= fun _ => help)
    | .ok _, some (.command c) => .finished verbose (run w ⟨config, verbose, c⟩)
    | .error _, _ => outcome verbose (prepared w config >>= fun _ => pure ())

/-! ## Printing -/

/-- How many columns there are to print on. -/
def pageWidth : Nat := 400

/-- A piece of text as it is shown: markup is only looked for where it is not protected from that. -/
def shownSpan (s : Span) : String :=
  if s.isProtected then Markup.display s.text else s.text

def shownSpans (spans : List Span) : String :=
  String.join (spans.map shownSpan)

def shownSheet : Sheet → String
  | .line spans => paragraph pageWidth (shownSpans spans)
  | .table columns rows => table pageWidth columns (rows.map (·.map shownSpan))
  | .panel title lines => panel pageWidth title (lines.map shownSpans)

/-- What is written for a passage. -/
def shownPassage : Passage → String
  | .echo text => withoutSequences text ++ "\n"
  | .page sheet => shownSheet sheet
  | .complaint _ text => withoutSequences text ++ "\n"
  | .record _ => ""

end CronSchedule.Host
