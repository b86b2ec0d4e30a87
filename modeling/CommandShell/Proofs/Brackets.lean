import CommandShell.Proofs.Replies
import CommandShell.Proofs.Guard

/-!
The log of calls is well bracketed.

A call logs its start, then what its body logs, then its failure if the body failed, then its end
(`Session.route_events`). What a body logs are the brackets of the calls that a macro makes, so the
whole log is bracketed (`bracketed_route`), where every bracket is that of a call made on the way
(`Activity.Calls`); and every call made on the way, at whatever depth, has its log in one piece in
the log of the whole (`Inside.events_isInfix`). The way in which a call ends makes no difference to
its bracket but for the event of a failure. `log_wellBracketed` puts this together.
-/

namespace CommandShell

/-- The run of a body, with the macro that it asks for. -/
def Session.runBody (s : Session) (b : Body) (call : Invocation) : Run Ending :=
  perform (runMacroWith Session.router) b call s

/-- The events between what a body logs and the end of its call: one if the body failed. -/
def Ending.failures (name : Text) : Ending → List Event
  | .reply (.failure f) => [.callFailed name f]
  | _ => []

/-- The log of a call whose body ran as `m`. -/
def Run.bracket (c : Command) (call : Invocation) (measured : Bool) (m : Run Ending) : List Event :=
  .callStart c call :: m.events ++ m.outcome.failures call.command
    ++ [.callEnd call.command measured]

/-- The event is the start, the failure or the end of a call. -/
def Event.isBracket : Event → Bool
  | .callStart .. | .callFailed .. | .callEnd .. => true
  | _ => false

/-- A log in which brackets stand next to one another and inside one another. `Ran` says of which
calls, and of which runs of their bodies, they may be. -/
inductive Bracketed (Ran : Command → Invocation → Run Ending → Prop) : List Event → Prop
  | nil : Bracketed Ran []
  | other {e : Event} {es : List Event} (h : e.isBracket = false) (hrest : Bracketed Ran es) :
      Bracketed Ran (e :: es)
  | call {c : Command} {call : Invocation} {m : Run Ending} {measured : Bool} {es : List Event}
      (ran : Ran c call m) (hbody : Bracketed Ran m.events) (hrest : Bracketed Ran es) :
      Bracketed Ran (m.bracket c call measured ++ es)

namespace Bracketed

variable {Ran Ran' : Command → Invocation → Run Ending → Prop} {es fs : List Event}

theorem append (h : Bracketed Ran es) (h' : Bracketed Ran fs) : Bracketed Ran (es ++ fs) := by
  induction h with
  | nil => exact h'
  | other h _ ih => exact .other h ih
  | call ran hbody _ _ ih =>
    rw [List.append_assoc]
    exact .call ran hbody ih

theorem mono (h : Bracketed Ran es) (hran : ∀ c call m, Ran c call m → Ran' c call m) :
    Bracketed Ran' es := by
  induction h with
  | nil => exact .nil
  | other h _ ih => exact .other h ih
  | call ran _ _ ihbody ihrest => exact .call (hran _ _ _ ran) ihbody ihrest

theorem of_silent (h : ∀ e ∈ es, e.isBracket = false) : Bracketed Ran es := by
  induction es with
  | nil => exact .nil
  | cons e es ih =>
    exact .other (h e List.mem_cons_self) (ih fun e' he => h e' (List.mem_cons_of_mem e he))

end Bracketed

theorem isBracket_of_isCall {e : Event} (h : e.isCall = false) : e.isBracket = false := by
  unfold Event.isBracket
  split
  · cases h
  · cases h
  · cases h
  · rfl

theorem isBracket_of_mem_ranEvents {name : Text} {lines : List Text} {ending : Ending} {e : Event}
    (h : e ∈ ranEvents name lines ending) : e.isBracket = false := by
  unfold ranEvents at h
  split at h
  · rw [List.mem_singleton.1 h]
    rfl
  · cases h

/-! ## Calls on the way -/

namespace Activity

/-- The events of an activity. -/
def events : Activity → List Event
  | .route i s => (s.route i).events
  | .runMacro name s => (s.runMacro name).events
  | .runOutside b name s => (b.runOutside Session.router name s).events

/-- Somewhere inside the activity the command `c` is called with `call`, and its body runs as
`m`. -/
def Calls (root : Activity) (c : Command) (call : Invocation) (m : Run Ending) : Prop :=
  ∃ names i s, root.Inside names (.route i s) ∧ s.called? i = some c ∧
    s.registry.resolve i = call ∧ s.runBody c.body call = m

theorem Inside.trans {root a b : Activity} {names names' : List Text} (h : root.Inside names a)
    (h' : a.Inside names' b) : root.Inside (names' ++ names) b := by
  induction h' with
  | here => exact h
  | asks _ typed found answer asked ih => exact .asks ih typed found answer asked
  | line _ started ran passed ih => exact .line ih started ran passed
  | lineOutside _ started ran passed ih => exact .lineOutside ih started ran passed

theorem Inside.calls {root a : Activity} {names : List Text} (h : root.Inside names a) {c : Command}
    {call : Invocation} {m : Run Ending} (hc : a.Calls c call m) : root.Calls c call m := by
  obtain ⟨names', i, s, hin, hcalled, hresolve, hrun⟩ := hc
  exact ⟨names' ++ names, i, s, h.trans hin, hcalled, hresolve, hrun⟩

end Activity

/-! ## The log of a call -/

theorem settle_snd (name : Text) (e : Ending) : (settle name e).2 = e.failures name := by
  rcases e with (v | f | _) | _ <;> rfl

namespace Session

/-- A call logs its start, what its body logs, its failure if there is one, and its end. -/
theorem route_events {s : Session} {i : Invocation} {c : Command} (h : s.called? i = some c) :
    (s.route i).events =
      (s.runBody c.body (s.registry.resolve i)).bracket c (s.registry.resolve i)
        s.clock.measures := by
  obtain ⟨hn, hc⟩ := called?_eq_some_iff.1 h
  rw [route_unfolds, routeWith_call hn hc]
  unfold Run.ofCall Run.bracket
  rw [settle_snd]
  rfl

/-- Without a command there is no bracket. -/
theorem isBracket_of_not_called {s : Session} {i : Invocation} (h : s.called? i = none) :
    ∀ e ∈ (s.route i).events, e.isBracket = false := by
  intro e he
  rw [route_unfolds] at he
  rcases routeWith_cases i s with hn | ⟨hn, hc⟩ | ⟨hn, c, hc⟩
  · rw [routeWith_nothing hn] at he
    cases he
  · rw [routeWith_unknown hn hc] at he
    rw [List.mem_singleton.1 he]
    rfl
  · rw [called?_eq_some_iff.2 ⟨hn, hc⟩] at h
    cases h

end Session

/-! ## The log of lines -/

section Lines

variable {route : Router} {name : Text}

theorem routeLines_cons_passed {outputs : List Text} {s : Session} {line : Text}
    {lines : List Text} {v : Value}
    (h : (routeLines route name outputs (line :: lines) s).outcome = .reply (.value v)) :
    ∃ output, (route (.ofLine line) s).outcome = .finished (.done output) := by
  by_contra hstopped
  rw [routeLines_cons_stopped hstopped] at h
  exact Outcome.not_passes_stopping hstopped name line ⟨v, h⟩

/-- The log of a line is in one piece in the log of all lines. -/
theorem routeLines_events_isInfix {outputs : List Text} {s : Session} {before : List Text}
    (line : Text) (after : List Text) {v : Value}
    (h : (routeLines route name outputs before s).outcome = .reply (.value v)) :
    (route (.ofLine line) (routeLines route name outputs before s).session).events <:+:
      (routeLines route name outputs (before ++ line :: after) s).events := by
  induction before generalizing outputs s with
  | nil =>
    show (route (.ofLine line) s).events <:+:
      (routeLines route name outputs (line :: after) s).events
    rcases Classical.em (route (.ofLine line) s).outcome.Passes with ⟨output, ho⟩ | ho
    · rw [routeLines_cons_done ho]
      exact (List.prefix_append _ _).isInfix
    · rw [routeLines_cons_stopped ho]
  | cons first before ih =>
    obtain ⟨output, ho⟩ := routeLines_cons_passed h
    rw [routeLines_cons_done ho] at h
    rw [List.cons_append, routeLines_cons_done ho, routeLines_cons_done ho]
    exact (ih h).trans (List.suffix_append _ _).isInfix

/-- Lines whose logs are bracketed have a bracketed log together. -/
theorem bracketed_routeLines {Ran : Command → Invocation → Run Ending → Prop}
    {lines outputs : List Text} {s : Session}
    (h : ∀ before line after v, lines = before ++ line :: after →
      (routeLines route name outputs before s).outcome = .reply (.value v) →
        Bracketed Ran
          (route (.ofLine line) (routeLines route name outputs before s).session).events) :
    Bracketed Ran (routeLines route name outputs lines s).events := by
  induction lines generalizing outputs s with
  | nil => exact .nil
  | cons line lines ih =>
    have hline : Bracketed Ran (route (.ofLine line) s).events := h [] line lines _ rfl rfl
    rcases Classical.em (route (.ofLine line) s).outcome.Passes with ⟨output, ho⟩ | ho
    · rw [routeLines_cons_done ho]
      refine hline.append (ih ?_)
      intro before l after v hl hv
      have hnext := h (line :: before) l after v (by rw [hl]; rfl)
      rw [routeLines_cons_done ho] at hnext
      exact hnext hv
    · rw [routeLines_cons_stopped ho]
      exact hline

end Lines

/-! ## The whole log -/

namespace Activity

/-- What goes on inside an activity has its log in one piece in the log of the activity. -/
theorem Inside.events_isInfix {root a : Activity} {names : List Text} (h : root.Inside names a) :
    a.events <:+: root.events := by
  induction h with
  | here => exact List.infix_rfl
  | @asks names i s c r name _ typed found answer asked ih =>
    refine List.IsInfix.trans ?_ ih
    have hbody : s.runBody c.body (s.registry.resolve i) = r.session.runMacro name := by
      have ha := c.body.answers (s.registry.resolve i) s
      rw [answer] at ha
      cases ha with
      | reply | change => cases asked
      | run =>
        cases asked
        exact perform_run answer
    show (r.session.runMacro name).events <:+: (s.route i).events
    rw [Session.route_events (Session.called?_eq_some_iff.2 ⟨typed, found⟩), hbody]
    exact ⟨[.callStart c (s.registry.resolve i)], _, (List.append_assoc _ _ _).symm⟩
  | @line names name s before after line m v _ started ran passed ih =>
    subst ran
    refine List.IsInfix.trans ?_ ih
    show (Session.router (.ofLine line) _).events <:+: (s.runMacro name).events
    have hstarted : s.runMacro name = .ofMacro name (before ++ line :: after)
        (routeLines Session.router name [] (before ++ line :: after) (s.enter name)) :=
      runMacroWith_ok started
    rw [hstarted]
    exact (routeLines_events_isInfix line after passed).trans (List.prefix_append _ _).isInfix
  | @lineOutside names b name s before after line m v _ started ran passed ih =>
    subst ran
    refine List.IsInfix.trans ?_ ih
    show (Session.router (.ofLine line) _).events <:+:
      (b.runOutside Session.router name s).events
    unfold MacroBook.runOutside
    rw [started]
    exact (routeLines_events_isInfix line after passed).trans (List.prefix_append _ _).isInfix

end Activity

/-- The log of a call is bracketed, and all brackets are of calls on the way. -/
theorem bracketed_route (i : Invocation) (s : Session) :
    Bracketed (Activity.route i s).Calls (s.route i).events := by
  -- The induction is on the calls that a call makes inside its macros.
  suffices h : ∀ a : Call, Acc (fun b a => ∃ name, Activates a name b) a →
      Bracketed (Activity.route a.invocation a.session).Calls
        (a.session.route a.invocation).events from h ⟨i, s⟩ (acc_activates s i)
  intro a hacc
  induction hacc with
  | intro a _ ih =>
    obtain ⟨i, s⟩ := a
    dsimp only
    cases hcalled : s.called? i with
    | none => exact .of_silent (Session.isBracket_of_not_called hcalled)
    | some c =>
      obtain ⟨hn, hc⟩ := Session.called?_eq_some_iff.1 hcalled
      have hbody : Bracketed (Activity.route i s).Calls
          (s.runBody c.body (s.registry.resolve i)).events := by
        unfold Session.runBody
        rcases c.body.perform_silent_or_run (runMacroWith Session.router) (s.registry.resolve i) s
          with ⟨r, s', es, hsilent, -, hp⟩ | ⟨name, hr, hp⟩
        · rw [hp]
          exact .of_silent fun e he => isBracket_of_isCall (hsilent e he)
        · rw [hp]
          cases hl : s.macros.linesToRun name with
          | error fault =>
            rw [runMacroWith_error hl]
            exact .nil
          | ok lines =>
            rw [runMacroWith_ok hl]
            refine .append (bracketed_routeLines ?_)
              (.of_silent fun _ he => isBracket_of_mem_ranEvents he)
            rintro before line after v rfl hv
            have hline := ih _ ⟨name, .line hn hc hr rfl hl rfl hv⟩
            have hinside : (Activity.route i s).Inside [name] (.route (.ofLine line)
                (routeLines Session.router name [] before (s.enter name)).session) :=
              .line (.asks .here hn hc hr rfl) hl rfl hv
            exact hline.mono fun _ _ _ hcall => hinside.calls hcall
      rw [Session.route_events hcalled, ← List.append_nil (Run.bracket _ _ _ _)]
      exact .call ⟨[], i, s, .here, hcalled, rfl, rfl⟩ hbody .nil

/-- What it means that the log of a routed invocation is well bracketed. -/
structure Session.LogBracketed (s : Session) (i : Invocation) : Prop where
  /-- Starts and ends match, a failure stands just before its end, and every bracket is that of a
  call on the way, around just what the body of this call logs. -/
  bracketed : Bracketed (Activity.route i s).Calls (s.route i).events
  /-- Every call on the way has its log in one piece. -/
  nested : ∀ names j t, (Activity.route i s).Inside names (.route j t) →
    (t.route j).events <:+: (s.route i).events
  /-- The log of a call is one bracket. -/
  called : ∀ names j t c, (Activity.route i s).Inside names (.route j t) → t.called? j = some c →
    (t.route j).events = (t.runBody c.body (t.registry.resolve j)).bracket c (t.registry.resolve j)
      t.clock.measures
  /-- Where there is nothing to call there is no bracket. -/
  silent : ∀ names j t, (Activity.route i s).Inside names (.route j t) → t.called? j = none →
    ∀ e ∈ (t.route j).events, e.isBracket = false

/-- The log of every invocation, and so of every line, is well bracketed, whatever its calls do and
however they end. -/
theorem log_wellBracketed (s : Session) :
    (∀ i, s.LogBracketed i) ∧
      ∀ line, (s.execute line).events = ((s.remember line).route (.ofLine line)).events ∧
        (s.remember line).LogBracketed (.ofLine line) := by
  have hall (s : Session) (i : Invocation) : s.LogBracketed i :=
    { bracketed := bracketed_route i s
      nested := fun _ _ _ h => h.events_isInfix
      called := fun _ _ _ _ _ h => Session.route_events h
      silent := fun _ _ _ _ h => Session.isBracket_of_not_called h }
  exact ⟨hall s, fun line => ⟨rfl, hall _ _⟩⟩

end CommandShell
