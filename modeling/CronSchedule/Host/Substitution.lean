/-!
Replacing pieces of a text by others, from left to right.
-/

namespace CronSchedule.Host

/-- The text in which each piece that `find` knows is replaced. Of a text that starts with such a
piece, `find` tells how many characters it has and what takes its place; `skipped` characters of the
piece before are still to be passed over. -/
def substituteFrom (find : List Char → Option (Nat × List Char)) (skipped : Nat) :
    List Char → List Char
  | [] => []
  | c :: rest =>
    match skipped with
    | n + 1 => substituteFrom find n rest
    | 0 =>
      match find (c :: rest) with
      | some (n + 1, new) => new ++ substituteFrom find n rest
      | _ => c :: substituteFrom find 0 rest

def substitute (find : List Char → Option (Nat × List Char)) (s : List Char) : List Char :=
  substituteFrom find 0 s

end CronSchedule.Host
