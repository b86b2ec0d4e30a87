import CommandShell.CommandLine
import Std.Time.Format

/-!
The program: it looks at the environment, the files and the clock, and talks to the terminal. What
it says is decided by `CommandLine.call`, and in a dialogue, line by line, by `Session.execute`.
-/

namespace CommandShell.Main

/-- The date and time of day. -/
def currentMoment : IO Moment := do
  let t ← Std.Time.PlainDateTime.now
  return {
    year := t.year.toInt.toNat, month := t.month.toNat, day := t.day.toNat,
    hour := t.hour.val.toNat, minute := t.minute.val.toNat, second := t.second.val.toNat }

def currentClock : IO Clock := do
  return { now := ← currentMoment, seconds := (← IO.monoNanosNow).toFloat / 1000000000.0 }

/-- The variables that settings are read from, their names all in small or all in capital
letters. -/
def currentEnvironment : IO (List (Text × Text)) := do
  let names := Field.all.flatMap fun f =>
    let name := Settings.variableStem ++ f.name
    [name, Text.upper name]
  names.filterMapM fun name => do
    return (← IO.getEnv (Text.escapedString name)).map fun value => (name, (value : Text))

/-- The columns of a terminal that does not tell how many it has. -/
def usualColumns : Nat := 80

/-- The columns of the terminal. -/
def currentColumns : IO Nat := do
  return ((← IO.getEnv "COLUMNS").bind String.toNat?).getD usualColumns

/-- The text of a file, if it can be read. -/
def readFile? (path : String) : IO (Option Text) := do
  try
    return some (← IO.FS.readFile path)
  catch _ =>
    return none

/-- There is a directory of this path: it can be opened by a dot in it. -/
def isDirectory (path : String) : IO Bool := do
  try
    discard <| IO.FS.Handle.mk (path ++ "/.") .read
    return true
  catch _ =>
    return false

/-- The home directory that a line of the list of users gives to a user. -/
def homeInLine? (user line : String) : Option String :=
  match (line.split (· == ':')).toList.map (·.copy) with
  | name :: _ :: _ :: _ :: _ :: home :: _ => if name = user then some home else none
  | _ => none

/-- The home directory of a user, or of the caller if the name is empty. -/
def homeOf? (user : Text) : IO (Option Path) := do
  if user.isEmpty then
    return (← IO.getEnv "HOME").map fun home => Path.ofText home
  let users := (← readFile? "/etc/passwd").getD []
  return (Text.splitLines users).findSome? fun line =>
    (homeInLine? (Text.escapedString user) (Text.escapedString line)).map fun home =>
      Path.ofText home

/-- The files that following a path may look at. -/
def currentFiles (path : Path) : IO Files := do
  let home ← match path.parts with
    | (_ :: user) :: _ => homeOf? user
    | _ => pure none
  let expanded := (path.expandHome { home? := fun _ => home, isDirectory := fun _ => false,
                                     text? := fun _ => none }).toOption.getD path
  let written := fun (p : Path) => Text.escapedString p.text
  let text ← readFile? (written expanded)
  let directory ← match expanded.beforeLongPart? with
    | some p => isDirectory (written p)
    | none => pure false
  return { home? := fun _ => home
           isDirectory := fun p => directory && expanded.beforeLongPart? == some p
           text? := fun p => if p = expanded then text else none }

/-- What is written in front of a log message. -/
def currentStamp : IO LogStamp := do
  let now ← currentMoment
  return { time := now.dateText ++ " " ++ now.timeText, place := "shell" }

/-- Writes events to the log. -/
def writeLog (log : LogOutput) (events : List Event) : IO Unit := do
  let columns ← currentColumns
  for (level, message) in events.flatMap Event.entries do
    match log.write columns (← currentStamp) level.name message with
    | .ok written => IO.eprint (Text.escapedString written)
    | .error _ => pure ()

/-- What is said of a fault. -/
def faultText : CommandLine.Fault → String
  | .usage => "Usage: [--env-file FILE] [shell | run LINE... | commands]\n"
  | .path .holdsNull => "the path of the file of variables holds a null\n"
  | .path .unknownHome => "there is no such user\n"
  | .path .tooLong => "the path of the file of variables is too long\n"
  | .unreadable field origin =>
    Text.escapedString (Settings.unreadableMessage field origin) ++ "\n"
  | .unwritable => "cannot write half of a surrogate pair\n"

/-- The status that a fault leaves. -/
def faultCode : CommandLine.Fault → UInt32
  | .usage => 2
  | _ => 1

/-- Ends with a fault. -/
def fail (fault : CommandLine.Fault) : IO UInt32 := do
  IO.eprint (faultText fault)
  return faultCode fault

/-- Prints to the terminal. -/
def print (text : Text) : IO Unit := do
  match CommandLine.written text with
  | .ok s => IO.print s
  | .error fault => throw (IO.userError (faultText fault))

/-- Goes on with a dialogue at the terminal. -/
partial def converse (settings : Settings) (log : LogOutput) (display : Display) (s : Session) :
    IO Unit := do
  if s.exiting then return
  let input ← IO.getStdin
  print settings.promptText
  (← IO.getStdout).flush
  let typed ← input.getLine
  if typed.isEmpty then
    print (Screen.render display (.note farewell))
  else
    let clock ← currentClock
    let run := { s with clock }.execute (typed.dropEndWhile (· == '\n')).copy
    writeLog log run.events
    match run.outcome with
    | .finished r =>
      print (Screen.render display (.result r))
      converse settings log display run.session
    | _ => pure ()

/-- Opens a session and holds a dialogue at the terminal. -/
def runShell (settings : Settings) (clock : Clock) : IO UInt32 := do
  let display := { columns := ← currentColumns, color := ← (← IO.getStdout).isTty }
  let log := (({} : LogOutput).configure (CommandLine.Action.shell.logSetup settings)).1
  let opened := Session.ofSettings settings clock
  writeLog log opened.events
  print (Screen.render display (.welcome settings.welcome))
  converse settings log display opened.value
  return 0

/-- Prints what a call came to. -/
def printReport (report : CommandLine.Report) : IO UInt32 := do
  match report.logSetup with
  | some setup => writeLog (({} : LogOutput).configure setup).1 report.events
  | none => pure ()
  IO.print report.output
  IO.eprint report.errors
  return report.exitCode.toUInt32

/-- Calls the program with its arguments. -/
def run (args : List String) : IO UInt32 := do
  let args : List Text := args.map Text.ofString
  match CommandLine.read args with
  | .error fault => fail fault
  | .ok request =>
    let world : CommandLine.World := {
      environment := ← currentEnvironment
      files := ← currentFiles request.variableFile
      clock := ← currentClock
      onTerminal := ← (← IO.getStdout).isTty }
    let file := CommandLine.variableText request world
    match request.action, file.toOption.map fun text => (text, CommandLine.loadSettings text world)
    with
    | .shell, some (text, .ok settings) =>
      IO.eprint (CommandLine.warnings text)
      runShell settings world.clock
    | _, _ =>
      match CommandLine.call args world with
      | .ok report => printReport report
      | .error fault => fail fault

end CommandShell.Main

/-- The program. -/
def main (args : List String) : IO UInt32 := CommandShell.Main.run args
