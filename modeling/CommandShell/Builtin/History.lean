import CommandShell.Builtin.Response

/-!
The history listing. With the flag `c` the history is cleared instead.
-/

namespace CommandShell.History

open Text (joinLines numbered padLeft)

/-- The lines with their numbers, which are aligned on the right. -/
def listing (lines : List Text) : Text :=
  let width := (toString lines.length).length
  joinLines ((numbered lines).map fun (n, line) => padLeft width n ++ "  " ++ line)

def respond (i : Invocation) (s : Session) : Response :=
  if i.hasFlag "c" then .say { s with history := [] } "History cleared"
  else if s.history.isEmpty then .say s "No history"
  else .say s (listing s.history)

end CommandShell.History
