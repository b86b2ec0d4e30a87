import CommandShell.Screen
import CommandShell.Setup

/-!
The two ways to feed a session: a list of lines that is run through (`Session.runBatch`), and a
dialogue in which lines are typed at a prompt (`Session.runDialogue`). Both stop as soon as the
session is asked to end, and hand it the same lines up to there.
-/

namespace CommandShell

/-- What came of a batch: the results of the lines that were executed, the session after them, and
the events on the way. -/
structure Batch where
  results : List Result
  session : Session
  events : List Event := []

namespace Batch

/-- Some line failed. -/
def failed (b : Batch) : Bool := b.results.any fun r => !r.isOk

/-- The outputs that are not empty, each on lines of its own. -/
def outputText (b : Batch) : Text :=
  b.results.flatMap fun r => if r.output.isEmpty then [] else r.output ++ "\n"

/-- The errors, each on a line of its own. -/
def errorText (b : Batch) : Text :=
  b.results.flatMap fun r =>
    match r.error? with
    | some error => "error: " ++ error ++ "\n"
    | none => []

end Batch

/-- Executes lines in turn until one asks the session to end. A line that does not come to a result
ends the batch too. -/
def Session.runBatch (s : Session) : List Text → Batch
  | [] => ⟨[], s, []⟩
  | line :: lines =>
    let run := s.execute line
    match run.outcome with
    | .finished r =>
      if run.session.exiting then ⟨[r], run.session, run.events⟩
      else
        let rest := run.session.runBatch lines
        ⟨r :: rest.results, rest.session, run.events ++ rest.events⟩
    | _ => ⟨[], run.session, run.events⟩

/-- What came of a dialogue: what was printed, how many times a line was asked for, the lines that
were not read, the session at the end, and the events on the way. -/
structure Dialogue where
  items : List Item
  prompts : Nat
  unread : List Text
  session : Session
  events : List Event := []

/-- Goes on with a dialogue. When there is nothing more to read, the farewell is printed. -/
def Session.converse (s : Session) (lines : List Text) : Dialogue :=
  match lines with
  | [] =>
    if s.exiting then { items := [], prompts := 0, unread := [], session := s }
    else { items := [.note farewell], prompts := 1, unread := [], session := s }
  | line :: rest =>
    if s.exiting then { items := [], prompts := 0, unread := line :: rest, session := s }
    else
      let run := s.execute line
      match run.outcome with
      | .finished r =>
        let d := run.session.converse rest
        { d with
          items := .result r :: d.items
          prompts := d.prompts + 1
          events := run.events ++ d.events }
      | _ =>
        { items := [], prompts := 1, unread := rest, session := run.session, events := run.events }

/-- A dialogue from its welcome on. -/
def Session.runDialogue (s : Session) (settings : Settings) (lines : List Text) : Dialogue :=
  let d := s.converse lines
  { d with items := .welcome settings.welcome :: d.items }

/-- The results of the lines that were executed. -/
def Dialogue.results (d : Dialogue) : List Result :=
  d.items.filterMap fun
    | .result r => some r
    | _ => none

/-- All that a dialogue prints. -/
def Dialogue.screen (d : Dialogue) (display : Display) : Text :=
  d.items.flatMap (Screen.render display)

end CommandShell
