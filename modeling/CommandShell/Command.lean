import CommandShell.Clock
import CommandShell.Invocation
import CommandShell.Text.Order

/-!
Commands: a name, a description and a body, and what a body gives back.
-/

namespace CommandShell

/-- What the body of a command gives back. A cancelled body has neither a value nor a failure. -/
inductive Reply where
  | value (v : Value)
  | failure (f : Failure)
  | cancelled
deriving Repr

/-- A reply that is a text. -/
def Reply.say (t : Text) : Reply := .value (.text t)

/-- The output that a value stands for: nothing stands for an empty one. -/
def Value.output : Value → Shown
  | .nothing => .ok []
  | v => v.display

/-- What a command does. The built-in bodies act on the session; a body from outside sees nothing
but its invocation. -/
inductive Body where
  | help
  | clear
  | exit (leaves : Bool)
  | history
  | alias
  | unalias
  | whoami (user : Text)
  | uptime (started : Seconds)
  | date
  | time
  | echo
  | macroBook
  | runMacro
  | plugin
  | weather
  | crypto
  | placeholder (command plugin : Text)
  | external (answer : Invocation → Reply)

/-- A named command. Its flags serve for help only. -/
structure Command where
  name : Text
  description : Text := []
  flags : List Text := []
  body : Body

/-- The flags in order, each once. -/
def Command.flagList (c : Command) : List Text := Text.sortedDistinct c.flags

/-- The stand-in for a command of a disabled plugin: its name and flags are kept, its body only
says that the plugin is disabled. -/
def Command.placeholder (c : Command) (plugin : Text) : Command where
  name := c.name
  description := c.description ++ " (disabled)"
  flags := c.flags
  body := .placeholder c.name plugin

@[simp] theorem Command.placeholder_name (c : Command) (plugin : Text) :
    (c.placeholder plugin).name = c.name := rfl

/-- What is shown for one routed invocation: an output, which may be empty, or an error line. -/
inductive Result where
  | done (output : Text)
  | failed (error : Text)
deriving DecidableEq, Repr

namespace Result

def output : Result → Text
  | .done output => output
  | .failed _ => []

def error? : Result → Option Text
  | .done _ => none
  | .failed error => some error

def isOk (r : Result) : Bool := r.error?.isNone

end Result

end CommandShell
