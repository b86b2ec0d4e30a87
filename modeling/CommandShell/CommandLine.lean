import CommandShell.FrontEnd
import CommandShell.LogOutput
import CommandShell.Path
import CommandShell.Screen.TerminalCode
import CommandShell.Settings.Load

/-!
The command line: what the arguments ask for, and what a call of the program comes to.

`--env-file FILE` names the file of variables and stands before the subcommand. `run` executes its
arguments as lines, `commands` lists the names there are, and `shell`, or no subcommand, starts a
dialogue. In the arguments of a subcommand the first `--` is dropped, and what follows it are
plain texts even if they begin with a dash.
-/

namespace CommandShell.CommandLine

/-- The file of variables that is read if none is named. -/
def defaultEnvFile : Path := { parts := [".env"] }

/-- What is to be done. -/
inductive Action where
  | shell
  | run (lines : List Text)
  | commands
deriving DecidableEq, Repr

namespace Action

def name : Action → Text
  | .shell => "shell"
  | .run _ => "run"
  | .commands => "commands"

/-- The action of a subcommand of this name with these arguments. -/
def ofName? (name : Text) (args : List Text) : Option Action :=
  let offered : List Action := match args with
    | [] => [.shell, .commands]
    | lines => [.run lines]
  offered.find? fun action => action.name == name

end Action

/-- What the arguments say. -/
structure Request where
  envFile : Option Text := none
  action : Action
deriving DecidableEq, Repr

/-- The path of the file of variables. Naming the current directory is as good as naming none. -/
def Request.variableFile (r : Request) : Path :=
  match r.envFile.map Path.ofText with
  | some path => if path.isHere then defaultEnvFile else path
  | none => defaultEnvFile

/-- Why there is no report: the arguments are wrong, the file of variables cannot be looked for, a
setting cannot be read, or the output cannot be written. -/
inductive Fault where
  | usage
  | path (fault : PathFault)
  | unreadable (field : Field) (origin : Settings.Origin)
  | unwritable
deriving DecidableEq, Repr

/-- A dash alone is a text; a dash with something after it begins an option. -/
def isOption (arg : Text) : Bool := arg.head? == some '-' && arg.length > 1

/-- What ends the options. -/
def optionsEnd : Text := "--"

/-- The texts among the arguments of a subcommand, which has no options of its own. -/
def texts? : List Text → Option (List Text)
  | [] => some []
  | arg :: args =>
    if arg = optionsEnd then some args
    else if isOption arg then none
    else (texts? args).map (arg :: ·)

/-- The action that a subcommand with its arguments asks for. -/
def action? : List Text → Option Action
  | [] => some .shell
  | name :: args => (texts? args).bind (Action.ofName? name)

/-- The option that names the file of variables. -/
def envFileOption : Text := "--env-file"

/-- The text after `--env-file=`. -/
def attachedFile? (arg : Text) : Option Text :=
  let lead := envFileOption ++ "="
  if lead.isPrefixOf arg then some (arg.drop lead.length) else none

/-- Reads the options in front of the subcommand, where `envFile` is the file named so far; the last
one named counts. The subcommand and its arguments are left over. -/
def options? (envFile : Option Text) : List Text → Option (Option Text × List Text)
  | [] => some (envFile, [])
  | arg :: args =>
    if arg = optionsEnd then some (envFile, args)
    else if arg = envFileOption then
      match args with
      | file :: args => options? (some file) args
      | [] => none
    else
      match attachedFile? arg with
      | some file => options? (some file) args
      | none => if isOption arg then none else some (envFile, arg :: args)

/-- A null ends a path, so there is no path with a null in it. -/
def null : CodePoint := '\x00'

/-- What the arguments ask for. The options are looked at before the subcommand. -/
def read (args : List Text) : Except Fault Request :=
  match options? none args with
  | none => .error .usage
  | some (envFile, args) =>
    if envFile.any (null ∈ ·) then .error (.path .holdsNull)
    else
      match action? args with
      | some action => .ok { envFile, action }
      | none => .error .usage

/-- What a call of the program sees of its surroundings. -/
structure World where
  environment : List (Text × Text) := []
  files : Files
  clock : Clock
  /-- The lines that are typed, should there be a dialogue. -/
  typed : List Text := []
  /-- Whether the output goes to a terminal, which alone takes terminal codes. -/
  onTerminal : Bool := false

/-- What a call of the program comes to. -/
structure Report where
  exitCode : Nat
  output : String := ""
  errors : String := ""
  /-- How the log was set up, if it came to that, and what goes to it. -/
  logSetup : Option LogSetup := none
  events : List Event := []
  /-- The dialogue, if there was one. -/
  dialogue : Option Dialogue := none

/-- What is said of a statement of the file of variables that cannot be read. -/
def unreadableLine (line : Nat) : String :=
  "python-dotenv could not parse statement starting at line " ++ toString line ++ "\n"

/-- What is said of a file of variables. -/
def warnings (file : Option Text) : String :=
  String.join ((EnvFile.unreadableLines (file.getD [])).map unreadableLine)

/-- The first line of what is said of settings that are not right. -/
def invalidLine (problems : List Problem) : String :=
  let count := problems.length
  "Invalid configuration: " ++ toString count ++ " validation error"
    ++ (if count = 1 then "" else "s") ++ " for Settings\n"

/-- How the log is set up for an action. -/
def Action.logSetup (action : Action) (settings : Settings) : LogSetup where
  profile := match action with
    | .shell => "shell"
    | _ => "default"
  level := settings.logLevel.name

/-- What is written to the output: a text without surrogates. -/
def written (t : Text) : Except Fault String :=
  match t.toString? with
  | some s => .ok s
  | none => .error .unwritable

/-- Does what is asked for, in a session of the given settings. Errors are always writable, since
they escape what is not. -/
def perform (action : Action) (settings : Settings) (world : World) : Except Fault Report := do
  let opened := Session.ofSettings settings world.clock
  let session := opened.value
  let logSetup := some (action.logSetup settings)
  let sent := if world.onTerminal then id else TerminalCode.dropCodes
  match action with
  | .shell =>
    let dialogue := session.runDialogue settings world.typed
    return { exitCode := 0, logSetup, events := opened.events ++ dialogue.events,
             dialogue := some dialogue }
  | .commands =>
    let listing := session.registry.names.flatMap fun name => name ++ [Text.lineFeed]
    return { exitCode := 0, output := ← written (sent listing), logSetup,
             events := opened.events }
  | .run lines =>
    let batch := session.runBatch lines
    return { exitCode := if batch.failed then 1 else 0
             output := ← written (sent batch.outputText)
             errors := Text.escapedString (sent batch.errorText)
             logSetup, events := opened.events ++ batch.events }

/-- The text of the file of variables that is asked for, if there is such a file. -/
def variableText (request : Request) (world : World) : Except Fault (Option Text) :=
  (request.variableFile.read world.files).mapError .path

/-- The settings for a call with the given file of variables. -/
def loadSettings (file : Option Text) (world : World) : Except Settings.LoadFault Settings :=
  Settings.load [] world.environment file

/-- A call of the program. Settings that are not right end it with a report of their own. -/
def call (args : List Text) (world : World) : Except Fault Report := do
  let request ← read args
  let file ← variableText request world
  match loadSettings file world with
  | .error (.unreadable field origin) => throw (.unreadable field origin)
  | .error (.invalid problems) =>
    return { exitCode := 2, errors := warnings file ++ invalidLine problems }
  | .ok settings =>
    let report ← perform request.action settings world
    return { report with errors := warnings file ++ report.errors }

end CommandShell.CommandLine
