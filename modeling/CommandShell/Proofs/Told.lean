import CommandShell.Proofs.Agreement
import CommandShell.Proofs.Replies

/-!
Parts of a session that can be read off the log.

The log tells of every call that starts. A view of the session is told by the log if the answers of
bodies change it as the starts of their calls say, and nothing else changes it (`Session.Told`).
Then the view after a run is the view before it, with the events of the run told one after another
(`Told.routeWithin`). The history is such a view, since only clearing it shows between the lines
that are typed (`told_history`), and so is the wish that the shell should end (`told_exiting`).
-/

namespace CommandShell

/-- A view of sessions that follows the starts of calls. The running macros do not show in it. -/
structure Session.Told {β : Type} (view : Session → β) (tell : β → Event → β) : Prop where
  call : ∀ (c : Command) i s, view (c.body.respond i s).session = tell (view s) (.callStart c i)
  other : ∀ x e, e.isStart = false → tell x e = x
  enter : ∀ s name, view (s.enter name) = view s
  leave : ∀ s name, view (s.leave name) = view s

theorem isStart_of_isCall {e : Event} (h : e.isCall = false) : e.isStart = false := by
  unfold Event.isStart
  split
  · cases h
  · rfl

theorem isStart_of_mem_settle {name : Text} {ending : Ending} {e : Event}
    (h : e ∈ (settle name ending).2) : e.isStart = false := by
  rcases ending with (v | f | _) | _
  · cases h
  · rw [List.mem_singleton.1 h]
    rfl
  · cases h
  · cases h

theorem isStart_of_mem_ranEvents {name : Text} {lines : List Text} {ending : Ending} {e : Event}
    (h : e ∈ ranEvents name lines ending) : e.isStart = false := by
  rcases ending with (v | f | _) | _
  · rw [List.mem_singleton.1 h]
    rfl
  · cases h
  · cases h
  · cases h

namespace Session.Told

variable {β : Type} {view : Session → β} {tell : β → Event → β} (h : Told view tell)

include h

/-- Events that start no call tell of nothing. -/
theorem foldl_eq {es : List Event} (hes : ∀ e ∈ es, e.isStart = false) (x : β) :
    es.foldl tell x = x := by
  induction es with
  | nil => rfl
  | cons e es ih =>
    rw [List.foldl_cons, h.other x e (hes e List.mem_cons_self)]
    exact ih fun e' he => hes e' (List.mem_cons_of_mem e he)

theorem perform {run : MacroRunner}
    (hrun : ∀ name s, view (run name s).session = (run name s).events.foldl tell (view s))
    (c : Command) (i : Invocation) (s : Session) :
    view (perform run c.body i s).session =
      (perform run c.body i s).events.foldl tell (tell (view s) (.callStart c i)) := by
  have hcall := h.call c i s
  rcases c.body.perform_silent_or_run run i s with
    ⟨r, s', es, hsilent, hr, hp⟩ | ⟨name, hr, hp⟩
  · rw [hr] at hcall
    rw [hp, h.foldl_eq fun e he => isStart_of_isCall (hsilent e he)]
    exact hcall
  · rw [hr] at hcall
    rw [hp, ← hcall]
    exact hrun name s

theorem routeWith {run : MacroRunner}
    (hrun : ∀ name s, view (run name s).session = (run name s).events.foldl tell (view s))
    (i : Invocation) (s : Session) :
    view (routeWith run i s).session = (routeWith run i s).events.foldl tell (view s) := by
  rcases routeWith_cases i s with hn | ⟨hn, hc⟩ | ⟨hn, c, hc⟩
  · rw [routeWith_nothing hn]
    rfl
  · rw [routeWith_unknown hn hc]
    exact (h.other (view s) (.notFound i.command) rfl).symm
  · rw [routeWith_call hn hc]
    have hbody := h.perform hrun c (s.registry.resolve i) s
    unfold Run.ofCall
    rw [List.cons_append, List.cons_append, List.foldl_cons, List.foldl_append, List.foldl_append,
      ← hbody, h.foldl_eq fun _ he => isStart_of_mem_settle he]
    exact (h.other _ _ rfl).symm

omit h in
theorem routeLines {route : Router}
    (hroute : ∀ i s, view (route i s).session = (route i s).events.foldl tell (view s))
    (name : Text) (outputs lines : List Text) (s : Session) :
    view (routeLines route name outputs lines s).session =
      (routeLines route name outputs lines s).events.foldl tell (view s) := by
  induction lines generalizing outputs s with
  | nil => rfl
  | cons line lines ih =>
    have hline := hroute (.ofLine line) s
    rcases Classical.em (route (.ofLine line) s).outcome.Passes with ⟨output, ho⟩ | ho
    · rw [routeLines_cons_done ho]
      unfold Run.after
      rw [List.foldl_append, ← hline]
      exact ih _ _
    · rw [routeLines_cons_stopped ho]
      exact hline

theorem runMacroWith {route : Router}
    (hroute : ∀ i s, view (route i s).session = (route i s).events.foldl tell (view s))
    (name : Text) (s : Session) :
    view (runMacroWith route name s).session =
      (runMacroWith route name s).events.foldl tell (view s) := by
  cases hl : s.macros.linesToRun name with
  | error fault =>
    rw [runMacroWith_error hl]
    rfl
  | ok lines =>
    rw [runMacroWith_ok hl]
    have hlines := Told.routeLines hroute name [] lines (s.enter name)
    unfold Run.ofMacro
    rw [List.foldl_append, h.foldl_eq fun _ he => isStart_of_mem_ranEvents he, ← h.enter s name,
      ← hlines]
    exact h.leave _ name

/-- The view after a run is told by the events of the run. -/
theorem routeWithin (depth : Nat) (i : Invocation) (s : Session) :
    view (routeWithin depth i s).session =
      (routeWithin depth i s).events.foldl tell (view s) := by
  induction depth generalizing i s with
  | zero => exact h.routeWith (fun _ _ => rfl) i s
  | succ depth ih => exact h.routeWith (h.runMacroWith ih) i s

theorem route (i : Invocation) (s : Session) :
    view (s.route i).session = (s.route i).events.foldl tell (view s) :=
  h.routeWithin _ i s

end Session.Told

/-! ## The history -/

/-- The event starts a call that clears the history. -/
def Event.isClearing : Event → Bool
  | .callStart c call => c.body.isHistory && call.hasFlag "c"
  | _ => false

theorem Body.eq_history {b : Body} (h : b.isHistory = true) : b = .history := by
  unfold Body.isHistory at h
  split at h
  · rfl
  · cases h

theorem Change.history_eq {i : Invocation} {s s' : Session} {b : Body} (h : Change i s b s')
    (hb : b.isHistory = false) : s'.history = s.history := by
  cases h with
  | forget => cases hb
  | leave | unbind | define | delete => rfl
  | bind _ hbind =>
    obtain ⟨-, hv⟩ := Session.bindAlias_value hbind
    rw [hv]
  | switch h =>
    obtain ⟨r, ps, hv, -⟩ := Session.switchPlugin_value h
    rw [hv]

namespace Session

theorem told_history : Told (·.history) fun lines e => if e.isClearing then [] else lines where
  call c i s := by
    show (c.body.respond i s).session.history =
      if c.body.isHistory && i.hasFlag "c" then [] else s.history
    have ha := c.body.answers i s
    cases hb : c.body.isHistory with
    | false =>
      generalize c.body.respond i s = r at ha
      cases ha with
      | reply | run => rfl
      | change hc => exact hc.history_eq hb
    | true =>
      rw [Body.eq_history hb, Body.respond, History.respond, Bool.true_and]
      split
      · rfl
      · split <;> rfl
  other lines e h := by
    unfold Event.isClearing
    split
    · cases h
    · rfl
  enter _ _ := rfl
  leave _ _ := rfl

end Session

/-! ## The wish to end -/

/-- The body asks the shell to end. -/
def Body.leaves : Body → Bool
  | .exit leaves => leaves
  | _ => false

/-- The event starts a call that asks the shell to end. -/
def Event.isLeaving : Event → Bool
  | .callStart c _ => c.body.leaves
  | _ => false

theorem Body.eq_exit {b : Body} (h : b.leaves = true) : b = .exit true := by
  unfold Body.leaves at h
  split at h
  · rw [h]
  · cases h

theorem Change.exiting_eq {i : Invocation} {s s' : Session} {b : Body} (h : Change i s b s') :
    s'.exiting = (s.exiting || b.leaves) := by
  cases h with
  | leave => rfl
  | forget | unbind | define | delete => exact (Bool.or_false _).symm
  | bind _ hbind =>
    obtain ⟨-, hv⟩ := Session.bindAlias_value hbind
    rw [hv]
    exact (Bool.or_false _).symm
  | switch h =>
    obtain ⟨r, ps, hv, -⟩ := Session.switchPlugin_value h
    rw [hv]
    exact (Bool.or_false _).symm

namespace Session

theorem told_exiting : Told (·.exiting) fun x e => x || e.isLeaving where
  call c i s := by
    show (c.body.respond i s).session.exiting = (s.exiting || c.body.leaves)
    cases hb : c.body.leaves with
    | false =>
      have ha := c.body.answers i s
      generalize c.body.respond i s = r at ha
      cases ha with
      | reply | run => exact (Bool.or_false _).symm
      | change hc => rw [hc.exiting_eq, hb]
    | true =>
      rw [Body.eq_exit hb]
      rfl
  other x e h := by
    unfold Event.isLeaving
    split
    · cases h
    · exact Bool.or_false x
  enter _ _ := rfl
  leave _ _ := rfl

end Session

end CommandShell
