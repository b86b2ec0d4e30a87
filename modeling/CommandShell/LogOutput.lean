import CommandShell.Level
import CommandShell.LogOutput.Highlight
import CommandShell.Text.Wrap

/-!
Where the log goes. It is set up by a profile and a level; messages below the level are dropped.

Setting up what is already set up does nothing. Any other set-up first takes the old output away,
and only then looks at the level, so a level that does not exist leaves no output at all.

In the shell's format long lines are broken to fit the terminal, which is given each run of a
message on its own (`Highlight`). Whatever the format, no line that is written ends in white space.
-/

namespace CommandShell

/-- What a log output is asked to be. -/
structure LogSetup where
  profile : Text := "default"
  level : Text := "INFO"
deriving DecidableEq, Repr

/-- An output: which format it has and which level it starts at. -/
structure LogSink where
  shell : Bool
  level : Level
deriving DecidableEq, Repr

/-- The log output of a program: the last set-up that succeeded, and the output there is now. -/
structure LogOutput where
  configured : Option LogSetup := none
  sink : Option LogSink := none
deriving DecidableEq, Repr

/-- The time of a message and the place in the program that it comes from. -/
structure LogStamp where
  time : Text
  place : Text

/-- A level of no known name. -/
inductive LogFault where
  | unknownLevel (name : Text)
deriving DecidableEq, Repr

namespace LogOutput

/-- Sets the log up. -/
def configure (o : LogOutput) (setup : LogSetup) : LogOutput × Option LogFault :=
  if o.configured = some setup then (o, none)
  else
    match Level.ofName? setup.level with
    | none => ({ o with sink := none }, some (.unknownLevel setup.level))
    | some level => (⟨some setup, some ⟨setup.profile == "shell", level⟩⟩, none)

/-- The columns that a level takes in the shell's format, the blank after it included. -/
def shellMargin : Nat := 9

/-- The lines of a message as a terminal shows them in so many columns. -/
def shellLines (columns : Nat) (message : Text) : List Text :=
  let cells := Highlight.highlighted (message.filter (!Text.movesCursor ·))
  (Text.splitAfter (fun cell => cell.1 == Text.lineFeed) [] cells).flatMap fun line =>
    (Text.wrapped columns (Text.stretches line).flatten).map fun shown =>
      Text.Cells.text (Text.fitted columns none shown)

/-- A message in the shell's format: the level, then the text, whose further lines stand under the
first. -/
def shellEntry (columns : Nat) (level : Level) (message : Text) : Text :=
  Text.joinLines <| (shellLines (columns - shellMargin) message).zipIdx.map fun (line, n) =>
    Text.padRight shellMargin (if n = 0 then level.name else []) ++ line

/-- A message in the plain format. -/
def plainEntry (stamp : LogStamp) (level : Level) (message : Text) : Text :=
  (" | " : Text).intercalate [stamp.time, Text.padRight 7 level.name, stamp.place, message]

/-- An entry as it is written: without the white space at the ends of its lines. -/
def written (entry : Text) : Text :=
  Text.joinLines ((Text.splitLines entry).map Text.trimRight) ++ "\n"

/-- What a message writes on a terminal of so many columns. Without an output even an unknown level
goes unnoticed. -/
def write (o : LogOutput) (columns : Nat) (stamp : LogStamp) (level message : Text) :
    Except LogFault Text :=
  match o.sink with
  | none => .ok []
  | some sink =>
    match Level.ofName? level with
    | none => .error (.unknownLevel level)
    | some l =>
      if l.severity < sink.level.severity then .ok []
      else if sink.shell then .ok (written (shellEntry columns l message))
      else .ok (written (plainEntry stamp l message))

end LogOutput

end CommandShell
