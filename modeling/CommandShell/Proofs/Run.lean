import CommandShell.Routing
import CommandShell.Proofs.Change

/-!
Runs of the router, step by step.

The equations of this file open one call (`routeWith_call`), one answer of a body
(`perform_reply`, `perform_run`) and one macro (`runMacroWith_ok`); nothing later unfolds the
router. `Session.Kept` says what a property must satisfy at single steps, and then every run
keeps it (`Kept.routeWithin`). The names of the running macros are the same after a run as
before it (`running_routeWithin`).
-/

namespace CommandShell

namespace Run

/-- The run of a call whose body performed as `m`. -/
def ofCall (c : Command) (call : Invocation) (measured : Bool) (m : Run Ending) : Run Outcome where
  outcome := (settle call.command m.outcome).1
  session := m.session
  events := .callStart c call :: m.events ++ (settle call.command m.outcome).2
    ++ [.callEnd call.command measured]

/-- The run of a macro whose lines went as `m`. -/
def ofMacro (name : Text) (lines : List Text) (m : Run Ending) : Run Ending where
  outcome := m.outcome
  session := { m.session with macros := m.session.macros.leave name }
  events := m.events ++ ranEvents name lines m.outcome

/-- A run with the events of what came before it. -/
def after {α : Type} (es : List Event) (m : Run α) : Run α := { m with events := es ++ m.events }

end Run

/-- The outputs of a macro with one more, unless that is empty. -/
def gather (outputs : List Text) (output : Text) : List Text :=
  if output.isEmpty then outputs else outputs ++ [output]

/-! ## One call -/

/-- The command that an invocation calls. -/
def Session.called? (s : Session) (i : Invocation) : Option Command :=
  if i.command = [] then none else s.registry.commands.get? (s.registry.resolve i).command

theorem Session.called?_eq_some_iff {s : Session} {i : Invocation} {c : Command} :
    s.called? i = some c ↔
      i.command ≠ [] ∧ s.registry.commands.get? (s.registry.resolve i).command = some c :=
  Option.ite_none_left_eq_some

section Equations

variable {run : MacroRunner} {route : Router} {i : Invocation} {s : Session}

theorem routeWith_nothing (h : i.command = []) :
    routeWith run i s = ⟨.finished (.done []), s, []⟩ := by
  unfold routeWith
  rw [if_pos h]

theorem routeWith_unknown (h : i.command ≠ [])
    (hc : s.registry.commands.get? (s.registry.resolve i).command = none) :
    routeWith run i s =
      ⟨.finished (.failed (notFoundError i.command)), s, [.notFound i.command]⟩ := by
  unfold routeWith
  rw [if_neg h]
  simp only [hc]

theorem routeWith_call (h : i.command ≠ []) {c : Command}
    (hc : s.registry.commands.get? (s.registry.resolve i).command = some c) :
    routeWith run i s =
      .ofCall c (s.registry.resolve i) s.clock.measures
        (perform run c.body (s.registry.resolve i) s) := by
  unfold routeWith
  rw [if_neg h]
  simp only [hc]
  rfl

/-- The three ways a call goes: there is nothing to call, nothing is registered, or a body
performs. -/
theorem routeWith_cases (i : Invocation) (s : Session) :
    i.command = [] ∨
      (i.command ≠ [] ∧ s.registry.commands.get? (s.registry.resolve i).command = none) ∨
      (i.command ≠ [] ∧
        ∃ c, s.registry.commands.get? (s.registry.resolve i).command = some c) := by
  by_cases h : i.command = []
  · exact .inl h
  · cases hc : s.registry.commands.get? (s.registry.resolve i).command with
    | none => exact .inr (.inl ⟨h, rfl⟩)
    | some c => exact .inr (.inr ⟨h, c, rfl⟩)

theorem perform_reply {b : Body} {s' : Session} {es : List Event} {r : Reply}
    (h : b.respond i s = ⟨s', es, .reply r⟩) : perform run b i s = ⟨.reply r, s', es⟩ := by
  unfold perform
  rw [h]

theorem perform_run {b : Body} {name : Text} (h : b.respond i s = ⟨s, [], .runMacro name⟩) :
    perform run b i s = run name s := by
  unfold perform
  rw [h]
  rfl

/-- A body performs by replying, or the macro that it asks for runs in the session as it is. -/
theorem perform_cases (run : MacroRunner) (b : Body) (i : Invocation) (s : Session) :
    (∃ r, perform run b i s = ⟨.reply r, s, []⟩) ∨
      (∃ s' es text, Change i s b s' ∧ perform run b i s = ⟨.reply (.say text), s', es⟩) ∨
      ∃ name ∈ i.args, b.respond i s = ⟨s, [], .runMacro name⟩ ∧
        perform run b i s = run name s := by
  have ha := b.answers i s
  cases hr : b.respond i s with
  | mk s' es next =>
    rw [hr] at ha
    cases ha with
    | reply r => exact .inl ⟨r, perform_reply hr⟩
    | change hc => exact .inr (.inl ⟨s', es, _, hc, perform_reply hr⟩)
    | @run name hn => exact .inr (.inr ⟨name, hn, rfl, perform_run hr⟩)

end Equations

/-! ## One macro -/

/-- A call that passes gives an output. -/
def Outcome.Passes (o : Outcome) : Prop := ∃ output, o = .finished (.done output)

/-- A body or a macro that passes gives a value. -/
def Ending.Passes (e : Ending) : Prop := ∃ v, e = .reply (.value v)

/-- How a macro ends with a line that does not pass. -/
def Outcome.stopping (name line : Text) : Outcome → Ending
  | .finished (.done output) => .reply (.say output)
  | .finished (.failed error) => .reply (.failure (MacroFault.lineFailed name line error).failure)
  | .unshown fault => .reply (.failure fault.failure)
  | .cancelled => .reply .cancelled
  | .tooDeep => .tooDeep

theorem Outcome.not_passes_stopping {o : Outcome} (h : ¬ o.Passes) (name line : Text) :
    ¬ (o.stopping name line).Passes := by
  rintro ⟨v, hv⟩
  rcases o with (output | error) | _ | _ | _
  · exact h ⟨output, rfl⟩
  · cases hv
  · cases hv
  · cases hv
  · cases hv

theorem Outcome.stopping_eq_tooDeep_iff {o : Outcome} {name line : Text} :
    o.stopping name line = .tooDeep ↔ o = .tooDeep := by
  rcases o with (output | error) | _ | _ | _ <;> simp [stopping]

theorem Outcome.stopping_eq_cancelled_iff {o : Outcome} {name line : Text} :
    o.stopping name line = .reply .cancelled ↔ o = .cancelled := by
  rcases o with (output | error) | _ | _ | _ <;> simp [stopping, Reply.say]

theorem Ending.passes_of_settle {name : Text} {e : Ending}
    (h : (CommandShell.settle name e).1.Passes) : e.Passes := by
  obtain ⟨output, h⟩ := h
  cases e with
  | tooDeep => cases h
  | reply r =>
    cases r with
    | value v => exact ⟨v, rfl⟩
    | failure f =>
      cases hf : f.report <;> simp [settle, Outcome.ofShown, hf] at h
    | cancelled => cases h

/-- The session in which the lines of a macro are routed. -/
def Session.enter (s : Session) (name : Text) : Session :=
  { s with macros := s.macros.enter name }

/-- The session after a macro has ended. -/
def Session.leave (s : Session) (name : Text) : Session :=
  { s with macros := s.macros.leave name }

section Equations

variable {route : Router} {name : Text} {s : Session}

theorem runMacroWith_error {fault : MacroFault} (h : s.macros.linesToRun name = .error fault) :
    runMacroWith route name s = ⟨.reply (.failure fault.failure), s, []⟩ := by
  unfold runMacroWith
  rw [h]

theorem runMacroWith_ok {lines : List Text} (h : s.macros.linesToRun name = .ok lines) :
    runMacroWith route name s =
      .ofMacro name lines (routeLines route name [] lines (s.enter name)) := by
  unfold runMacroWith
  rw [h]
  rfl

theorem linesToRun_eq_ok_iff {b : MacroBook} {name : Text} {lines : List Text} :
    b.linesToRun name = .ok lines ↔ b.get? name = some lines ∧ name ∉ b.running := by
  unfold MacroBook.linesToRun
  split
  · rename_i h
    simp [h]
  · rename_i ls h
    rw [h]
    split
    · rename_i hr
      simp [hr]
    · rename_i hr
      simp [hr]

/-- The macro goes on after a line with an output. -/
theorem routeLines_cons_done {outputs : List Text} {line : Text} {lines : List Text}
    {output : Text} (h : (route (.ofLine line) s).outcome = .finished (.done output)) :
    routeLines route name outputs (line :: lines) s =
      .after (route (.ofLine line) s).events
        (routeLines route name (gather outputs output) lines (route (.ofLine line) s).session) := by
  rw [routeLines]
  simp only [h]
  rfl

/-- The macro ends with any other line. -/
theorem routeLines_cons_stopped {outputs : List Text} {line : Text} {lines : List Text}
    (h : ¬ (route (.ofLine line) s).outcome.Passes) :
    routeLines route name outputs (line :: lines) s =
      ⟨(route (.ofLine line) s).outcome.stopping name line, (route (.ofLine line) s).session,
        (route (.ofLine line) s).events⟩ := by
  rw [routeLines]
  cases ho : (route (.ofLine line) s).outcome with
  | finished r =>
    cases r with
    | done output => exact absurd ⟨output, ho⟩ h
    | failed error => rfl
  | unshown fault => rfl
  | cancelled => rfl
  | tooDeep => rfl

/-- All lines of a macro pass, or one of them does not and ends the macro. `P` is what holds of the
sessions between the lines. -/
theorem routeLines_cases {P : Session → Prop} {outputs lines : List Text}
    (hroute : ∀ line s, P s → P (route (.ofLine line) s).session) (hs : P s) :
    (∃ text, (routeLines route name outputs lines s).outcome = .reply (.say text)) ∨
      ∃ line t, P t ∧ (routeLines route name outputs lines s).outcome =
        (route (.ofLine line) t).outcome.stopping name line ∧
          ¬ (route (.ofLine line) t).outcome.Passes := by
  induction lines generalizing outputs s with
  | nil => exact .inl ⟨_, rfl⟩
  | cons line lines ih =>
    rcases Classical.em (route (.ofLine line) s).outcome.Passes with ⟨output, ho⟩ | ho
    · rw [routeLines_cons_done ho]
      exact ih (hroute line s hs)
    · rw [routeLines_cons_stopped ho]
      exact .inr ⟨line, s, hs, rfl, ho⟩

end Equations

/-! ## What every run keeps -/

/-- A property of sessions that single steps keep: the changes that bodies make for admitted
invocations, and the start and the end of a macro. The lines of a macro must be admitted. -/
structure Session.Kept (Admitted : Invocation → Prop) (P : Session → Prop) : Prop where
  change : ∀ {i s b s'}, Admitted i → P s → i.command ≠ [] →
    Change (s.registry.resolve i) s b s' → P s'
  lines : ∀ {s name lines}, P s → s.macros.get? name = some lines →
    ∀ line ∈ lines, Admitted (.ofLine line)
  enter : ∀ {s name lines}, P s → s.macros.linesToRun name = .ok lines → P (s.enter name)
  leave : ∀ {s}, P s → ∀ name, P (s.leave name)

namespace Session.Kept

variable {Admitted : Invocation → Prop} {P : Session → Prop} (h : Kept Admitted P)

include h

theorem routeWith {run : MacroRunner} (hrun : ∀ name s, P s → P (run name s).session)
    {i : Invocation} (hi : Admitted i) {s : Session} (hs : P s) :
    P (routeWith run i s).session := by
  rcases routeWith_cases i s with hn | ⟨hn, hc⟩ | ⟨hn, c, hc⟩
  · rwa [routeWith_nothing hn]
  · rwa [routeWith_unknown hn hc]
  · rw [routeWith_call hn hc]
    show P (perform run c.body (s.registry.resolve i) s).session
    rcases perform_cases run c.body (s.registry.resolve i) s with
      ⟨r, hp⟩ | ⟨s', es, text, hch, hp⟩ | ⟨name, -, -, hp⟩
    · rwa [hp]
    · rw [hp]
      exact h.change hi hs hn hch
    · rw [hp]
      exact hrun name s hs

omit h in
theorem routeLines {route : Router}
    (hroute : ∀ i, Admitted i → ∀ s, P s → P (route i s).session) (name : Text)
    {lines : List Text} (hl : ∀ line ∈ lines, Admitted (.ofLine line)) (outputs : List Text)
    {s : Session} (hs : P s) : P (routeLines route name outputs lines s).session := by
  induction lines generalizing outputs s with
  | nil => exact hs
  | cons line lines ih =>
    have hline := hroute _ (hl line List.mem_cons_self) s hs
    rcases Classical.em (route (.ofLine line) s).outcome.Passes with ⟨output, ho⟩ | ho
    · rw [routeLines_cons_done ho]
      exact ih (fun l hm => hl l (List.mem_cons_of_mem line hm)) _ hline
    · rwa [routeLines_cons_stopped ho]

theorem runMacroWith {route : Router}
    (hroute : ∀ i, Admitted i → ∀ s, P s → P (route i s).session) (name : Text) {s : Session}
    (hs : P s) : P (runMacroWith route name s).session := by
  cases hl : s.macros.linesToRun name with
  | error fault => rwa [runMacroWith_error hl]
  | ok lines =>
    rw [runMacroWith_ok hl]
    refine h.leave ?_ name
    exact Kept.routeLines hroute name (h.lines hs (linesToRun_eq_ok_iff.1 hl).1) [] (h.enter hs hl)

/-- What single steps keep, every run keeps. -/
theorem routeWithin (depth : Nat) {i : Invocation} (hi : Admitted i) {s : Session} (hs : P s) :
    P (routeWithin depth i s).session := by
  induction depth generalizing i s with
  | zero => exact h.routeWith (fun _ _ hs => hs) hi hs
  | succ depth ih =>
    exact h.routeWith (fun name s hs => h.runMacroWith (fun i hi s hs => ih hi hs) name hs) hi hs

theorem route {i : Invocation} (hi : Admitted i) {s : Session} (hs : P s) :
    P (s.route i).session :=
  h.routeWithin _ hi hs

end Session.Kept

/-! ## The running macros -/

theorem running_leave_of_eq_enter {s t : Session} {name : Text}
    (h : t.macros.running = (s.enter name).macros.running) :
    (t.leave name).macros.running = s.macros.running := by
  show t.macros.running.erase name = s.macros.running
  rw [h]
  exact MacroBook.running_leave_enter s.macros name

theorem running_perform {run : MacroRunner}
    (hrun : ∀ name s, (run name s).session.macros.running = s.macros.running) (b : Body)
    (i : Invocation) (s : Session) :
    (perform run b i s).session.macros.running = s.macros.running := by
  rcases perform_cases run b i s with
    ⟨r, hp⟩ | ⟨s', es, text, hch, hp⟩ | ⟨name, -, -, hp⟩
  · rw [hp]
  · rw [hp]
    exact hch.running_eq
  · rw [hp, hrun]

theorem running_routeWith {run : MacroRunner}
    (hrun : ∀ name s, (run name s).session.macros.running = s.macros.running)
    (i : Invocation) (s : Session) :
    (routeWith run i s).session.macros.running = s.macros.running := by
  rcases routeWith_cases i s with hn | ⟨hn, hc⟩ | ⟨hn, c, hc⟩
  · rw [routeWith_nothing hn]
  · rw [routeWith_unknown hn hc]
  · rw [routeWith_call hn hc]
    exact running_perform hrun c.body (s.registry.resolve i) s

theorem running_routeLines {route : Router}
    (hroute : ∀ i s, (route i s).session.macros.running = s.macros.running) (name : Text)
    (outputs lines : List Text) (s : Session) :
    (routeLines route name outputs lines s).session.macros.running = s.macros.running := by
  induction lines generalizing outputs s with
  | nil => rfl
  | cons line lines ih =>
    have hline := hroute (.ofLine line) s
    rcases Classical.em (route (.ofLine line) s).outcome.Passes with ⟨output, ho⟩ | ho
    · rw [routeLines_cons_done ho]
      exact (ih _ _).trans hline
    · rwa [routeLines_cons_stopped ho]

theorem running_runMacroWith {route : Router}
    (hroute : ∀ i s, (route i s).session.macros.running = s.macros.running) (name : Text)
    (s : Session) :
    (runMacroWith route name s).session.macros.running = s.macros.running := by
  cases hl : s.macros.linesToRun name with
  | error fault => rw [runMacroWith_error hl]
  | ok lines =>
    rw [runMacroWith_ok hl]
    exact running_leave_of_eq_enter (running_routeLines hroute name [] lines (s.enter name))

/-- After a run the same macros are running as before it. -/
theorem running_routeWithin (depth : Nat) (i : Invocation) (s : Session) :
    (routeWithin depth i s).session.macros.running = s.macros.running := by
  induction depth generalizing i s with
  | zero => exact running_routeWith (fun _ _ => rfl) i s
  | succ depth ih => exact running_routeWith (running_runMacroWith ih) i s

end CommandShell
