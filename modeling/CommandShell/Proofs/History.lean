import CommandShell.Proofs.Reachable
import CommandShell.Proofs.Told

/-!
What the history holds.

A line that is executed is kept, unless it is blank, before it is routed. Calls touch the history
only by clearing it, whatever macros they stand in and however they end (`history_route`), so after
a line the history is empty if the log tells of a clearing call, and else the old one with the line
(`history_execute`).

What is done to a session from outside is spelled by a list of actions (`Action`,
`reachable_iff_exists_actions`). Each action leaves a history that ends what was kept before it and
the line that it types (`history_run_suffix`); so a run of actions leaves the end of the lines that
were typed, and `history_law` puts this together.
-/

namespace CommandShell

/-! ## One line -/

theorem foldl_clearing (es : List Event) (lines : List Text) :
    es.foldl (fun lines e => if e.isClearing then [] else lines) lines =
      if es.any Event.isClearing then [] else lines := by
  induction es generalizing lines with
  | nil => rfl
  | cons e es ih =>
    rw [List.foldl_cons, ih, List.any_cons]
    cases e.isClearing with
    | false => rfl
    | true => exact ite_self []

namespace Session

theorem history_route (s : Session) (i : Invocation) :
    (s.route i).session.history =
      if (s.route i).events.any Event.isClearing then [] else s.history := by
  rw [← foldl_clearing]
  exact told_history.route i s

theorem history_remember (s : Session) (line : Text) :
    (s.remember line).history = if Text.allBlank line then s.history else s.history ++ [line] := by
  unfold remember
  split <;> rfl

/-- After a line the history is empty if it was cleared on the way, and else the line has been kept
unless it is blank. -/
theorem history_execute (s : Session) (line : Text) :
    (s.execute line).session.history =
      if (s.execute line).events.any Event.isClearing then []
      else if Text.allBlank line then s.history else s.history ++ [line] := by
  rw [← history_remember]
  exact (s.remember line).history_route (.ofLine line)

end Session

/-! ## Actions -/

/-- What can be done to a session from outside. -/
inductive Action where
  | execute (line : Text)
  | route (i : Invocation)
  | runMacro (name : Text)
  | runOutside (b : MacroBook) (name : Text)
  | register (c : Command)
  | bindAlias (name target : Text)
  | removeAlias (name : Text)
  | addPlugin (p : Plugin) (info : PluginInfo)
  | switchPlugin (name : Text) (enabled : Bool)
  | defineMacro (name : Text) (lines : List Text)
  | deleteMacro (name : Text)
  | clearHistory
  | setClock (clock : Clock)

namespace Action

/-- The session after an action. One that is refused leaves the session as it is. -/
def run (s : Session) : Action → Session
  | .execute line => (s.execute line).session
  | .route i => (s.route i).session
  | .runMacro name => (s.runMacro name).session
  | .runOutside b name => (b.runOutside Session.router name s).session
  | .register c => (s.register c).value
  | .bindAlias name target => ((s.bindAlias name target).map (·.value)).toOption.getD s
  | .removeAlias name => (s.removeAlias name).value
  | .addPlugin p info => (s.addPlugin p info).1.value
  | .switchPlugin name enabled => ((s.switchPlugin name enabled).map (·.value)).getD s
  | .defineMacro name lines => { s with macros := (s.macros.define name lines).value }
  | .deleteMacro name => { s with macros := s.macros.delete name }
  | .clearHistory => { s with history := [] }
  | .setClock clock => { s with clock }

/-- The line that an action types, unless it is blank. -/
def typed? : Action → Option Text
  | .execute line => if Text.allBlank line then none else some line
  | _ => none

theorem eq_of_typed? {a : Action} {line : Text} (h : a.typed? = some line) :
    a = .execute line ∧ ¬ Text.allBlank line = true := by
  cases a with
  | execute typed =>
    obtain ⟨hline, htyped⟩ := Option.ite_none_left_eq_some.1 h
    cases htyped
    exact ⟨rfl, hline⟩
  | _ => cases h

section Refused

variable {s : Session} {name target : Text} {enabled : Bool}

theorem run_bindAlias_error {fault : AliasFault} (h : s.bindAlias name target = .error fault) :
    (bindAlias name target).run s = s := by
  rw [run, h]
  rfl

theorem run_bindAlias_ok {bound : Logged Session} (h : s.bindAlias name target = .ok bound) :
    (bindAlias name target).run s = bound.value := by
  rw [run, h]
  rfl

theorem run_switchPlugin_none (h : s.switchPlugin name enabled = none) :
    (switchPlugin name enabled).run s = s := by
  rw [run, h]
  rfl

theorem run_switchPlugin_some {switched : Logged Session}
    (h : s.switchPlugin name enabled = some switched) :
    (switchPlugin name enabled).run s = switched.value := by
  rw [run, h]
  rfl

end Refused

/-- An action is a step, or it is refused. -/
theorem run_eq_or_step (a : Action) (s : Session) : a.run s = s ∨ s.Step (a.run s) := by
  cases a with
  | execute line => exact .inr (.execute line)
  | route i => exact .inr (.route i)
  | runMacro name => exact .inr (.runMacro name)
  | runOutside b name => exact .inr (.runOutside b name)
  | register c => exact .inr (.register c)
  | bindAlias name target =>
    cases hb : s.bindAlias name target with
    | error fault => exact .inl (run_bindAlias_error hb)
    | ok bound =>
      rw [run_bindAlias_ok hb]
      exact .inr (.bindAlias hb)
  | removeAlias name => exact .inr (.removeAlias name)
  | addPlugin p info => exact .inr (.addPlugin p info)
  | switchPlugin name enabled =>
    cases hp : s.switchPlugin name enabled with
    | none => exact .inl (run_switchPlugin_none hp)
    | some switched =>
      rw [run_switchPlugin_some hp]
      exact .inr (.switchPlugin hp)
  | defineMacro name lines => exact .inr (.defineMacro name lines)
  | deleteMacro name => exact .inr (.deleteMacro name)
  | clearHistory => exact .inr .clearHistory
  | setClock clock => exact .inr (.setClock clock)

end Action

namespace Session

/-- Every step is an action. -/
theorem Step.exists_action {s t : Session} (h : s.Step t) : ∃ a : Action, a.run s = t := by
  cases h with
  | execute line => exact ⟨.execute line, rfl⟩
  | route i => exact ⟨.route i, rfl⟩
  | runMacro name => exact ⟨.runMacro name, rfl⟩
  | runOutside b name => exact ⟨.runOutside b name, rfl⟩
  | register c => exact ⟨.register c, rfl⟩
  | @bindAlias name target bound hb => exact ⟨.bindAlias name target, Action.run_bindAlias_ok hb⟩
  | removeAlias name => exact ⟨.removeAlias name, rfl⟩
  | addPlugin p info => exact ⟨.addPlugin p info, rfl⟩
  | @switchPlugin name enabled switched hp =>
    exact ⟨.switchPlugin name enabled, Action.run_switchPlugin_some hp⟩
  | defineMacro name lines => exact ⟨.defineMacro name lines, rfl⟩
  | deleteMacro name => exact ⟨.deleteMacro name, rfl⟩
  | clearHistory => exact ⟨.clearHistory, rfl⟩
  | setClock clock => exact ⟨.setClock clock, rfl⟩

/-- The session after some actions. -/
def runAll (s : Session) (actions : List Action) : Session := actions.foldl Action.run s

theorem runAll_concat (s : Session) (actions : List Action) (a : Action) :
    s.runAll (actions ++ [a]) = a.run (s.runAll actions) := List.foldl_concat _ _ _ _

theorem Reachable.runAll {s : Session} (h : s.Reachable) (actions : List Action) :
    (s.runAll actions).Reachable := by
  induction actions generalizing s with
  | nil => exact h
  | cons a actions ih =>
    refine ih (s := a.run s) ?_
    rcases a.run_eq_or_step s with hs | hs
    · rwa [hs]
    · exact h.step hs

/-- The sessions that are reached are those that actions lead to. -/
theorem reachable_iff_exists_actions {s : Session} :
    s.Reachable ↔ ∃ clock actions, (bare clock).runAll actions = s := by
  constructor
  · intro h
    induction h with
    | bare clock => exact ⟨clock, [], rfl⟩
    | step _ hst ih =>
      obtain ⟨clock, actions, rfl⟩ := ih
      obtain ⟨a, rfl⟩ := hst.exists_action
      exact ⟨clock, actions ++ [a], runAll_concat _ _ _⟩
  · rintro ⟨clock, actions, rfl⟩
    exact (Reachable.bare clock).runAll actions

/-! ## Runs of actions -/

theorem suffix_of_foldl_clearing {lines : List Text} {s : Session} {es : List Event}
    (h : lines = es.foldl (fun lines e => if e.isClearing then [] else lines) s.history) :
    lines <:+ s.history := by
  rw [foldl_clearing] at h
  rw [h]
  split
  · exact List.nil_suffix
  · exact List.suffix_rfl

/-- The macros of a book outside the session may clear the history too. -/
theorem history_runOutside_suffix (b : MacroBook) (name : Text) (s : Session) :
    (b.runOutside router name s).session.history <:+ s.history := by
  unfold MacroBook.runOutside
  cases b.linesToRun name with
  | error fault => exact List.suffix_rfl
  | ok lines =>
    exact suffix_of_foldl_clearing (Told.routeLines told_history.route name [] lines s)

end Session

open Session in
/-- Only typing a line adds to the history. -/
theorem Action.history_run_suffix_of_not_typed {a : Action} (ht : a.typed? = none) (s : Session) :
    (a.run s).history <:+ s.history := by
  cases a with
  | execute line =>
    have hblank : Text.allBlank line = true := by
      by_contra hline
      rw [typed?, if_neg hline] at ht
      cases ht
    show (s.execute line).session.history <:+ s.history
    rw [history_execute, if_pos hblank]
    split
    · exact List.nil_suffix
    · exact List.suffix_rfl
  | route i => exact suffix_of_foldl_clearing (told_history.route i s)
  | runMacro name =>
    exact suffix_of_foldl_clearing (told_history.runMacroWith told_history.route name s)
  | runOutside b name => exact history_runOutside_suffix b name s
  | bindAlias name target =>
    cases hb : s.bindAlias name target with
    | error fault => rw [run_bindAlias_error hb]
    | ok bound =>
      obtain ⟨-, hv⟩ := bindAlias_value hb
      rw [run_bindAlias_ok hb, hv]
  | addPlugin p info =>
    obtain ⟨registry, plugins, hv⟩ := s.addPlugin_value p info
    show (s.addPlugin p info).1.value.history <:+ s.history
    rw [hv]
  | switchPlugin name enabled =>
    cases hp : s.switchPlugin name enabled with
    | none => rw [run_switchPlugin_none hp]
    | some switched =>
      obtain ⟨registry, plugins, hv, -⟩ := switchPlugin_value hp
      rw [run_switchPlugin_some hp, hv]
  | clearHistory => exact List.nil_suffix
  | register | removeAlias | defineMacro | deleteMacro | setClock => exact List.suffix_rfl

/-- An action keeps the end of the history, and after it the line that it types. -/
theorem Action.history_run_suffix (a : Action) (s : Session) :
    (a.run s).history <:+ s.history ++ a.typed?.toList := by
  cases ht : a.typed? with
  | none =>
    show _ <:+ s.history ++ []
    rw [List.append_nil]
    exact history_run_suffix_of_not_typed ht s
  | some line =>
    obtain ⟨rfl, hline⟩ := eq_of_typed? ht
    show (s.execute line).session.history <:+ s.history ++ [line]
    rw [Session.history_execute, if_neg hline]
    split
    · exact List.nil_suffix
    · exact List.suffix_rfl

namespace Session

/-- After some actions the history is the end of what was kept before and the lines that were
typed. -/
theorem history_runAll_suffix (s : Session) (actions : List Action) :
    (s.runAll actions).history <:+ s.history ++ actions.filterMap Action.typed? := by
  induction actions generalizing s with
  | nil =>
    show s.history <:+ s.history ++ []
    rw [List.append_nil]
  | cons a actions ih =>
    have hfirst := a.history_run_suffix s
    have hrest : (s.runAll (a :: actions)).history <:+
        (a.run s).history ++ actions.filterMap Action.typed? := ih (a.run s)
    obtain ⟨dropped, hdropped⟩ := hfirst
    refine hrest.trans ⟨dropped, ?_⟩
    rw [← List.append_assoc, hdropped, List.append_assoc]
    congr 1
    rw [List.filterMap_cons]
    cases a.typed? <;> rfl

/-- A shell starts without a history, and is not to end. -/
theorem ofSettings_fresh (settings : Settings) (clock : Clock) :
    (ofSettings settings clock).value.history = [] ∧
      (ofSettings settings clock).value.exiting = false := by
  refine ofSettings_induct (P := fun s => s.history = [] ∧ s.exiting = false) settings clock
    ⟨rfl, rfl⟩ (fun _ _ _ hs => hs) ?_ ?_
  · intro entry _ s info hs
    obtain ⟨registry, plugins, hv⟩ := s.addPlugin_value entry.2.2 info
    rw [hv]
    exact hs
  · intro s name target bound hb hs
    obtain ⟨-, hv⟩ := bindAlias_value hb
    rw [hv]
    exact hs

end Session

theorem Action.mem_of_mem_filterMap_typed? {actions : List Action} {line : Text}
    (h : line ∈ actions.filterMap Action.typed?) : Action.execute line ∈ actions := by
  obtain ⟨a, ha, ht⟩ := List.mem_filterMap.1 h
  obtain ⟨rfl, -⟩ := eq_of_typed? ht
  exact ha

/-- Whatever a line does and however it ends, afterwards the history is empty if it was cleared on
the way, and else the line has been kept as it is, unless it is blank. So after any actions the
history is the end of the lines that were kept before and those that were typed; in a shell these
are just the typed ones, and no line is in its history that was not typed. -/
theorem history_law :
    (∀ (s : Session) (line : Text), (s.execute line).session.history =
      if (s.execute line).events.any Event.isClearing then []
      else if Text.allBlank line then s.history else s.history ++ [line]) ∧
    (∀ (s : Session) (actions : List Action),
      (s.runAll actions).history <:+ s.history ++ actions.filterMap Action.typed?) ∧
    ∀ (settings : Settings) (clock : Clock) (actions : List Action),
      ((Session.ofSettings settings clock).value.runAll actions).history <:+
          actions.filterMap Action.typed? ∧
        ∀ line ∈ ((Session.ofSettings settings clock).value.runAll actions).history,
          Action.execute line ∈ actions := by
  refine ⟨Session.history_execute, Session.history_runAll_suffix, fun settings clock actions => ?_⟩
  have hsuffix := (Session.ofSettings settings clock).value.history_runAll_suffix actions
  rw [(Session.ofSettings_fresh settings clock).1, List.nil_append] at hsuffix
  exact ⟨hsuffix, fun line hline => Action.mem_of_mem_filterMap_typed? (hsuffix.mem hline)⟩

end CommandShell
