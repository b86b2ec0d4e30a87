import CommandShell.Builtin.Response

/-!
The command that lists plugins and switches them on and off.
-/

namespace CommandShell.Plugins

open Text (joinLines)

def usage : Text :=
  "Usage: plugin list | plugin info <name> | plugin enable <name> | plugin disable <name>"

def stateName (enabled : Bool) : Text := if enabled then "enabled" else "disabled"

def list (s : Session) : Response :=
  match s.pluginList with
  | [] => .say s "No plugins installed"
  | infos => .say s <| joinLines <|
      infos.map fun p => p.name ++ " v" ++ p.version ++ " " ++ stateName p.enabled

def describe (s : Session) (name : Text) : Response :=
  match s.pluginInfo name with
  | .error fault => .fail s fault.failure
  | .ok p => .say s (p.name ++ " v" ++ p.version ++ " (" ++ stateName p.enabled ++ ")")

/-- Switches a plugin on or off. -/
def switch (s : Session) (name : Text) (enabled : Bool) : Response :=
  match s.switchPlugin name enabled with
  | none => .say s ("Plugin '" ++ name ++ "' not found")
  | some s => .done s ("Plugin '" ++ name ++ "' " ++ stateName enabled)

/-- What the command can be asked for. -/
inductive Subcommand where
  | list
  | info
  | enable
  | disable
deriving DecidableEq, Repr

namespace Subcommand

def name : Subcommand → Text
  | .list => "list"
  | .info => "info"
  | .enable => "enable"
  | .disable => "disable"

def ofName? (t : Text) : Option Subcommand :=
  [list, info, enable, disable].find? fun sub => sub.name == t

end Subcommand

def respond (i : Invocation) (s : Session) : Response :=
  match i.args with
  | [] => .say s usage
  | word :: args =>
    match Subcommand.ofName? word, args with
    | none, _ => .say s ("Unknown subcommand: " ++ word)
    | some .list, _ => list s
    | some _, [] => .say s ("Usage: plugin " ++ word ++ " <name>")
    | some .info, name :: _ => describe s name
    | some .enable, name :: _ => switch s name true
    | some .disable, name :: _ => switch s name false

end CommandShell.Plugins
