import CommandShell.Builtin.Alias
import CommandShell.Builtin.Demo
import CommandShell.Builtin.Help
import CommandShell.Builtin.History
import CommandShell.Builtin.Macros
import CommandShell.Builtin.Plugins

/-!
What each body does, and the commands that every session starts with.
-/

namespace CommandShell

/-- The text that clears a terminal. -/
def clearScreen : Text := "\x1b[2J\x1b[H"

/-- The text that an exit ends with. -/
def farewell : Text := "Goodbye!"

/-- The answer of a body to an invocation. -/
def Body.respond (b : Body) (i : Invocation) (s : Session) : Response :=
  match b with
  | .help => Help.respond i s
  | .clear => .say s clearScreen
  | .exit leaves => .say { s with exiting := s.exiting || leaves } farewell
  | .history => History.respond i s
  | .alias => Alias.respond i s
  | .unalias => Alias.respondRemove i s
  | .whoami user => .say s user
  | .uptime started =>
    match s.clock.uptimeText started with
    | .ok text => .say s text
    | .error fault => .fail s fault.failure
  | .date => .say s s.clock.now.dateText
  | .time => .say s s.clock.now.timeText
  | .echo => .say s ((" " : Text).intercalate i.args)
  | .macroBook => Macros.respond i s
  | .runMacro => Macros.respondRun i s
  | .plugin => Plugins.respond i s
  | .weather => Demo.respondWeather i s
  | .crypto => Demo.respondCrypto i s
  | .placeholder name owner => .say s (name ++ ": plugin '" ++ owner ++ "' is disabled")
  | .external answer => ⟨s, [], .reply (answer i)⟩

/-- The command that tells how long it is since `started`. -/
def uptimeCommand (started : Seconds) : Command where
  name := "uptime"
  description := "Show session uptime"
  body := .uptime started

/-- The built-in commands, but for the one about plugins. -/
def builtinCommands (user : Text) (leaves : Bool) (started : Float) : List Command := [
  { name := "help", description := "Show available commands", body := .help },
  { name := "clear", description := "Clear the terminal screen", body := .clear },
  { name := "exit", description := "Exit the terminal", body := .exit leaves },
  { name := "history", description := "Show command history", flags := ["-c"], body := .history },
  { name := "alias", description := "Create or list command aliases", body := .alias },
  { name := "unalias", description := "Remove an alias", body := .unalias },
  { name := "whoami", description := "Show current user", body := .whoami user },
  uptimeCommand (.float started),
  { name := "date", description := "Show current date", body := .date },
  { name := "time", description := "Show current time", body := .time },
  { name := "echo", description := "Print arguments", body := .echo },
  { name := "macro", description := "Create, inspect and run command macros", body := .macroBook },
  { name := "run", description := "Run a macro", body := .runMacro }]

/-- The command about plugins. -/
def pluginCommand : Command where
  name := "plugin"
  description := "Manage plugins"
  body := .plugin

end CommandShell
