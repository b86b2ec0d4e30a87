import CommandShell.Builtin.Response

/-!
The commands that keep and run macros.
-/

namespace CommandShell.Macros

open Text (joinLines numbered)

def usage : Text :=
  "Usage: macro create <name> <line>... | macro list | macro show <name> | " ++
    "macro delete <name> | macro run <name>"

/-- Lines with their numbers, a point after each. -/
def listing (lines : List Text) : Text :=
  joinLines ((numbered lines).map fun (n, line) => n ++ ". " ++ line)

def notFound (name : Text) : Text := "Macro '" ++ name ++ "' not found"

/-- Stores a macro. -/
def create (s : Session) (name : Text) (lines : List Text) : Response :=
  .done ((s.macros.define name lines).map fun b => { s with macros := b })
    ("Macro '" ++ name ++ "' saved (" ++ toString lines.length ++ " lines)")

/-- Removes a macro. -/
def delete (s : Session) (name : Text) : Response :=
  if (s.macros.get? name).isSome then
    .say { s with macros := s.macros.delete name } ("Macro '" ++ name ++ "' deleted")
  else .say s (notFound name)

/-- The lines of a macro. -/
def display (s : Session) (name : Text) : Response :=
  match s.macros.get? name with
  | none => .say s (notFound name)
  | some lines => .say s (listing lines)

def list (s : Session) : Response :=
  match s.macros.names with
  | [] => .say s "No macros defined"
  | names => .say s (joinLines names)

/-- What the command can be asked for. -/
inductive Subcommand where
  | list
  | create
  | display
  | delete
  | run
deriving DecidableEq, Repr

namespace Subcommand

def name : Subcommand → Text
  | .list => "list"
  | .create => "create"
  | .display => "show"
  | .delete => "delete"
  | .run => "run"

def ofName? (t : Text) : Option Subcommand :=
  [list, create, display, delete, run].find? fun sub => sub.name == t

end Subcommand

def respond (i : Invocation) (s : Session) : Response :=
  match i.args with
  | [] => .say s usage
  | word :: args =>
    match Subcommand.ofName? word, args with
    | none, _ => .say s ("Unknown subcommand: " ++ word)
    | some .list, _ => list s
    | some .create, name :: line :: lines => create s name (line :: lines)
    | some .create, _ => .say s "Usage: macro create <name> <line>..."
    | some _, [] => .say s ("Usage: macro " ++ word ++ " <name>")
    | some .run, name :: _ => ⟨s, [], .runMacro name⟩
    | some .delete, name :: _ => delete s name
    | some .display, name :: _ => display s name

def respondRun (i : Invocation) (s : Session) : Response :=
  match i.args with
  | [] => .say s "Usage: run <name>"
  | name :: _ => ⟨s, [], .runMacro name⟩

end CommandShell.Macros
