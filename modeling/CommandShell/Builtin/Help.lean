import CommandShell.Builtin.Response

/-!
Help: an overview of the registry, or the details of one name.
-/

namespace CommandShell.Help

open Text (joinLines padRight)

/-- The aliases with their targets under a heading, if there are any. -/
def aliasLines : List (Text × Text) → List Text
  | [] => []
  | aliases =>
    "" :: "Aliases:" :: aliases.map fun (name, target) => "  " ++ name ++ " -> " ++ target

/-- The beginning of the overview. -/
def openingLines : List Text := ["Available commands:"]

/-- The end of the overview. -/
def closingLines : List Text := ["", "Type 'help <command>' for details."]

/-- All commands with their descriptions, then the aliases. -/
def overview (r : Registry) : Text :=
  let commands := r.commandList
  let width := (commands.map (·.name.length)).foldl max 0
  let commandLine := fun (c : Command) => "  " ++ padRight width c.name ++ "  " ++ c.description
  joinLines <|
    openingLines ++ commands.map commandLine ++ aliasLines r.aliasList ++ closingLines

/-- The line that tells of a name that it is an alias. -/
def aliasLine (r : Registry) (name : Text) : List Text :=
  match r.aliases.get? name with
  | some target => [name ++ " is an alias for '" ++ target ++ "'"]
  | none => []

/-- The line with the flags of a command, if it has any. -/
def flagLine (c : Command) : List Text :=
  if c.flagList.isEmpty then [] else ["flags: " ++ (", " : Text).intercalate c.flagList]

/-- The command that a name stands for, and that the name is an alias if it is one. -/
def describe (r : Registry) (name : Text) : Text :=
  match r.lookup? name with
  | none => "No help for '" ++ name ++ "'"
  | some c => joinLines (aliasLine r name ++ (c.name ++ " - " ++ c.description) :: flagLine c)

def respond (i : Invocation) (s : Session) : Response :=
  match i.args with
  | [] => .say s (overview s.registry)
  | name :: _ => .say s (describe s.registry name)

end CommandShell.Help
