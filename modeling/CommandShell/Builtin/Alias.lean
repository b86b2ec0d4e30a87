import CommandShell.Builtin.Response

/-!
The commands that list, create and remove aliases.

To create an alias the line is read again from its text, since the target is kept as it was
typed: `alias name=target` or `alias name target`, and a target that is one quoted span loses its
quotes (`readBinding`).
-/

namespace CommandShell.Alias

open Text (joinLines)

def usage : Text := "Usage: alias <name>=<command> | alias <name> <command>"

/-- The sign that separates a name from its target. -/
def equalsSign : CodePoint := '='

/-- The text before the first equals sign and the text after it. -/
def splitAtEquals (t : Text) : Text × Text :=
  (t.takeWhile (· != equalsSign), (t.dropWhile (· != equalsSign)).tail)

/-- A target that is nothing but one quoted span stands for the text in it. -/
def unquote (target : Text) : Text :=
  match Token.tokenize target with
  | [t] => if Token.startsQuoted target then Text.trim t else target
  | _ => target

/-- The name and the target in the text after the command name. An equals sign separates them
only in a first token that is not quoted. -/
def readBinding (rest : Text) : Text × Text :=
  let first := (Token.splitFirst rest).1
  let (name, target) :=
    if equalsSign ∈ first && !Token.startsQuoted rest then splitAtEquals rest
    else Token.splitFirst rest
  (Text.trim name, unquote (Text.trim target))

/-- One alias as it is listed and reported. -/
def listed (name target : Text) : Text := name ++ "='" ++ target ++ "'"

def respond (i : Invocation) (s : Session) : Response :=
  if i.args.isEmpty then
    match s.registry.aliasList with
    | [] => .say s "No aliases defined"
    | aliases => .say s (joinLines (aliases.map fun (name, target) => listed name target))
  else
    let (name, target) := readBinding (Token.splitFirst i.line).2
    if name.isEmpty || target.isEmpty then .say s usage
    else
      match s.bindAlias name target with
      | .error fault => .fail s fault.failure
      | .ok bound => .done bound ("alias " ++ listed name target)

def respondRemove (i : Invocation) (s : Session) : Response :=
  match i.args with
  | [] => .say s "Usage: unalias <name>"
  | name :: _ =>
    if s.registry.aliases.contains name then
      .done (s.removeAlias name) ("Alias '" ++ name ++ "' removed")
    else .say s ("unalias: " ++ name ++ ": not found")

end CommandShell.Alias
