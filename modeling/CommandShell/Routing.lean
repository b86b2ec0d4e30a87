import CommandShell.Builtin
import CommandShell.Completion

/-!
Routing: from an invocation to its outcome.

A call is resolved, its command is looked up, and the body answers. Only a macro leads back here:
its lines are routed one after another. So routing recurs on the number of macros that may be
active at a time, one inside the other (`routeWithin`). A macro is not started while it is active,
and every name that a line could make up is part of a text that is there at the start, so the
number of those parts is enough (`Session.depthBound`); `route` and `execute` take it.

A line that fails ends the macro it stands in, and that macro's failure ends the one around it. A
value or a failure that has no text to be shown leaves routing without a result. Inside a macro this
is the failure of the call that runs the macro.
-/

namespace CommandShell

/-- How routing ends: with a result, with something that cannot be shown, by cancellation, or
because more macros were active at a time than allowed. -/
inductive Outcome where
  | finished (r : Result)
  | unshown (fault : DisplayFault)
  | cancelled
  | tooDeep
deriving DecidableEq, Repr

/-- How a command ends. -/
inductive Ending where
  | reply (r : Reply)
  | tooDeep

/-- An ending with the session it leaves and the events on the way. -/
structure Run (α : Type) where
  outcome : α
  session : Session
  events : List Event := []

/-- What routes an invocation. -/
abbrev Router := Invocation → Session → Run Outcome

/-- What runs the macro of a name. -/
abbrev MacroRunner := Text → Session → Run Ending

/-- The error line for a name that nothing is registered under. -/
def notFoundError (name : Text) : Text :=
  "Command not found: " ++ name ++ ". Type 'help' for available commands."

/-- Lets a body answer, and runs the macro that it asks for. -/
def perform (runMacro : MacroRunner) (b : Body) (i : Invocation) (s : Session) : Run Ending :=
  let r := b.respond i s
  match r.next with
  | .reply reply => ⟨.reply reply, r.session, r.events⟩
  | .runMacro name =>
    let m := runMacro name r.session
    { m with events := r.events ++ m.events }

/-- The result that a text makes, if there is one to be shown. -/
def Outcome.ofShown (result : Text → Result) : Shown → Outcome
  | .ok text => .finished (result text)
  | .error fault => .unshown fault

namespace Outcome

variable (result : Text → Result) (shown : Shown)

@[simp] theorem ofShown_eq_unshown_iff {fault : DisplayFault} :
    ofShown result shown = .unshown fault ↔ shown = .error fault := by
  cases shown <;> simp [ofShown]

@[simp] theorem ofShown_ne_cancelled : ofShown result shown ≠ .cancelled := by
  cases shown <;> exact Outcome.noConfusion

@[simp] theorem ofShown_ne_tooDeep : ofShown result shown ≠ .tooDeep := by
  cases shown <;> exact Outcome.noConfusion

end Outcome

/-- What routing makes of the ending of a call, and the events before the end of the call. -/
def settle (name : Text) : Ending → Outcome × List Event
  | .reply (.value v) => (.ofShown .done v.output, [])
  | .reply (.failure f) => (.ofShown .failed f.report, [.callFailed name f])
  | .reply .cancelled => (.cancelled, [])
  | .tooDeep => (.tooDeep, [])

/-- Routes one invocation. Nothing typed gives nothing; a name without a command is an error that
names what was typed. -/
def routeWith (runMacro : MacroRunner) : Router := fun i s =>
  if i.command = [] then ⟨.finished (.done []), s, []⟩
  else
    let call := s.registry.resolve i
    match s.registry.commands.get? call.command with
    | none => ⟨.finished (.failed (notFoundError i.command)), s, [.notFound i.command]⟩
    | some c =>
      let run := perform runMacro c.body call s
      let (outcome, failed) := settle call.command run.outcome
      { outcome
        session := run.session
        events := .callStart c call :: run.events ++ failed
          ++ [.callEnd call.command s.clock.measures] }

/-- Routes the lines of a macro in turn, up to the first that fails, and gathers the outputs that
are not empty. -/
def routeLines (route : Router) (name : Text) (outputs : List Text) :
    List Text → Session → Run Ending
  | [], s => ⟨.reply (.say (Text.joinLines outputs)), s, []⟩
  | line :: lines, s =>
    let run := route (Invocation.ofLine line) s
    match run.outcome with
    | .finished (.done output) =>
      let outputs := if output.isEmpty then outputs else outputs ++ [output]
      let rest := routeLines route name outputs lines run.session
      { rest with events := run.events ++ rest.events }
    | .finished (.failed error) =>
      ⟨.reply (.failure (MacroFault.lineFailed name line error).failure), run.session, run.events⟩
    | .unshown fault => ⟨.reply (.failure fault.failure), run.session, run.events⟩
    | .cancelled => ⟨.reply .cancelled, run.session, run.events⟩
    | .tooDeep => ⟨.tooDeep, run.session, run.events⟩

/-- The event of a macro that came to its end. -/
def ranEvents (name : Text) (lines : List Text) : Ending → List Event
  | .reply (.value _) => [.macroRan name lines.length]
  | _ => []

/-- Runs a macro of the session. The lines are those stored when it starts; it counts as running
until it has ended, however it ends. -/
def runMacroWith (route : Router) : MacroRunner := fun name s =>
  match s.macros.linesToRun name with
  | .error fault => ⟨.reply (.failure fault.failure), s, []⟩
  | .ok lines =>
    let run := routeLines route name [] lines { s with macros := s.macros.enter name }
    { outcome := run.outcome
      session := { run.session with macros := run.session.macros.leave name }
      events := run.events ++ ranEvents name lines run.outcome }

/-- Runs a macro of a book that is kept outside the session. No line of the session can reach that
book, so it stays as it is. -/
def MacroBook.runOutside (b : MacroBook) (route : Router) : MacroRunner := fun name s =>
  match b.linesToRun name with
  | .error fault => ⟨.reply (.failure fault.failure), s, []⟩
  | .ok lines =>
    let run := routeLines route name [] lines s
    { run with events := run.events ++ ranEvents name lines run.outcome }

/-- Routes an invocation with at most `depth` macros active inside one another. -/
def routeWithin : Nat → Router
  | 0 => routeWith fun _ s => ⟨.tooDeep, s, []⟩
  | depth + 1 => routeWith (runMacroWith (routeWithin depth))

namespace Session

/-- Every text that a line of the session can take a name from. -/
def texts (s : Session) : List Text :=
  s.registry.aliases.keys ++ s.registry.aliases.values ++ s.macros.macros.keys
    ++ s.macros.macros.values.flatten

/-- A bound on the number of different parts of the texts at hand. -/
def depthBound (s : Session) (i : Invocation) : Nat :=
  let texts := s.texts ++ (i.line :: i.tokens) ++ [(s.registry.resolve i).line]
  texts.foldr (fun t n => (t.length + 1) * (t.length + 1) + n) 1

/-- Routes an invocation. -/
def route (s : Session) (i : Invocation) : Run Outcome := routeWithin (s.depthBound i) i s

/-- Executes a line: keeps it in the history and routes it. -/
def execute (s : Session) (line : Text) : Run Outcome :=
  (s.remember line).route (Invocation.ofLine line)

/-- The completions of a line among the names of the session. -/
def completions (s : Session) (line : Text) : List Text :=
  CommandShell.completions line s.registry.names

end Session

end CommandShell
