import CommandShell.Proofs.Agreement

/-!
A macro that succeeds does what its lines do.

`Session.executeAll` types lines one after another. The lines of a macro are routed while the
macro is running, typed lines are not; and typed lines are kept in the history. So the sessions in
which a line is routed and typed agree, and less is running where it is typed
(`routeLines_matches_executeAll`). A macro that comes to its end therefore leaves what its lines
leave, the history apart, and gathers their outputs (`runMacro_matches_executeAll`).
-/

namespace CommandShell

/-- The sessions are equal but for their histories. -/
def Session.EqButHistory (s t : Session) : Prop := { s with history := t.history } = t

namespace Session.EqButHistory

variable {s t u : Session}

theorem refl (s : Session) : s.EqButHistory s := rfl

theorem symm (h : s.EqButHistory t) : t.EqButHistory s := by
  unfold EqButHistory at h ⊢
  rw [← h]

theorem trans (h : s.EqButHistory t) (h' : t.EqButHistory u) : s.EqButHistory u := by
  unfold EqButHistory at h h' ⊢
  rw [← h', ← h]

end Session.EqButHistory

theorem Session.Agrees.eqButHistory {s t : Session} (h : s.Agrees t)
    (hr : t.macros.running = s.macros.running) : s.EqButHistory t := by
  obtain ⟨history, running, rfl⟩ := h
  have hrunning : running = s.macros.running := hr
  subst hrunning
  rfl

theorem Session.running_remember (s : Session) (line : Text) :
    (s.remember line).macros = s.macros := by
  unfold remember
  split <;> rfl

theorem Session.registry_remember (s : Session) (line : Text) :
    (s.remember line).registry = s.registry := by
  unfold remember
  split <;> rfl

/-- Executes lines one after another: their outcomes, the session that is left, and all events. -/
def Session.executeAll (s : Session) : List Text → Run (List Outcome)
  | [] => ⟨[], s, []⟩
  | line :: lines =>
    let run := s.execute line
    let rest := run.session.executeAll lines
    ⟨run.outcome :: rest.outcome, rest.session, run.events ++ rest.events⟩

/-- Outputs as outcomes. -/
def outcomesOf (outputs : List Text) : List Outcome := outputs.map fun o => .finished (.done o)

/-- The outputs that are not empty. -/
def nonEmpty (outputs : List Text) : List Text := outputs.filter (!·.isEmpty)

theorem gather_append_nonEmpty (outputs : List Text) (output : Text) (more : List Text) :
    gather outputs output ++ nonEmpty more = outputs ++ nonEmpty (output :: more) := by
  unfold gather nonEmpty
  cases h : output.isEmpty
  · rw [List.filter_cons_of_pos (by rw [h]; rfl)]
    simp
  · rw [List.filter_cons_of_neg (by rw [h]; simp)]
    simp

/-- The lines of a macro, routed in `s` to the end of the macro, and the same lines, typed in a
session that agrees with `s` and in which nothing is running. -/
theorem routeLines_matches_executeAll (name : Text) (lines outputs : List Text) {s t : Session}
    (hst : s.Agrees t) (idle : t.macros.running = []) {v : Value}
    (hv : (routeLines Session.router name outputs lines s).outcome = .reply (.value v)) :
    ∃ more, (t.executeAll lines).outcome = outcomesOf more ∧
      (routeLines Session.router name outputs lines s).session.Agrees
        (t.executeAll lines).session ∧
      (t.executeAll lines).session.macros.running = [] ∧
      (t.executeAll lines).events = (routeLines Session.router name outputs lines s).events ∧
      (Quiet (t.executeAll lines).events →
        v = .text (Text.joinLines (outputs ++ nonEmpty more))) := by
  induction lines generalizing outputs s t with
  | nil =>
    refine ⟨[], rfl, hst, idle, rfl, fun _ => ?_⟩
    cases hv
    simp [nonEmpty]
  | cons line lines ih =>
    rcases Classical.em (Session.router (.ofLine line) s).outcome.Passes with ⟨output, ho⟩ | ho
    · rw [routeLines_cons_done ho] at hv ⊢
      have hkept : (t.remember line).macros.running = [] := by
        rw [t.running_remember line, idle]
      -- The line passes while the macro runs, so it passes when nothing runs.
      have hfreer : s.Freer (t.remember line)
          (Session.router (.ofLine line) s).outcome.Passes := by
        refine ⟨hst.trans (t.agrees_remember line), .inr ⟨?_, output, ho⟩⟩
        rw [hkept]
        exact List.nil_subset _
      have hline := matched_router (.ofLine line) s _ hfreer
      obtain ⟨typed, htyped, hout⟩ := hline.outcome.exists_done ho
      obtain ⟨more, hmore, hagrees, hidle, hevents, htext⟩ :=
        ih (gather outputs output) (t := (t.execute line).session) hline.session
          ((running_router _ _).trans hkept) hv
      have hall : (t.execute line).events = (Session.router (.ofLine line) s).events :=
        hline.events
      refine ⟨typed :: more, ?_, hagrees, hidle, ?_, fun hq => ?_⟩
      · rw [Session.executeAll, hmore]
        exact congrArg (· :: outcomesOf more) htyped
      · rw [Session.executeAll]
        exact congrArg₂ (· ++ ·) hall hevents
      · have hquiet := quiet_append.1 (show Quiet ((t.execute line).events ++ _) from hq)
        rw [hall] at hquiet
        rw [htext hquiet.2, gather_append_nonEmpty, hout hquiet.1]
    · rw [routeLines_cons_stopped ho] at hv
      exact absurd ⟨v, hv⟩ (Outcome.not_passes_stopping ho name line)

/-- Running a macro to its end and typing its lines, as they are when it starts, leave the same
session but for the history. No line fails, the log tells of the same events, and unless the history
is listed the macro says what the lines say. -/
theorem runMacro_matches_executeAll {s : Session} (idle : s.macros.running = []) {name : Text}
    {lines : List Text} (hl : s.macros.get? name = some lines) {output : Text}
    (hr : (s.runMacro name).outcome = .reply (.say output)) :
    ∃ outputs, (s.executeAll lines).outcome = outcomesOf outputs ∧
      (s.executeAll lines).session.EqButHistory (s.runMacro name).session ∧
      (s.runMacro name).events = (s.executeAll lines).events ++ [.macroRan name lines.length] ∧
      (Quiet (s.runMacro name).events → output = Text.joinLines (nonEmpty outputs)) := by
  have hok : s.macros.linesToRun name = .ok lines :=
    linesToRun_eq_ok_iff.2 ⟨hl, by rw [idle]; exact List.not_mem_nil⟩
  have hrun : s.runMacro name =
      .ofMacro name lines (routeLines Session.router name [] lines (s.enter name)) :=
    runMacroWith_ok hok
  rw [hrun] at hr ⊢
  have hv : (routeLines Session.router name [] lines (s.enter name)).outcome =
      .reply (.say output) := hr
  obtain ⟨outputs, houtputs, hagrees, hidle, hevents, htext⟩ :=
    routeLines_matches_executeAll name lines [] (s.agrees_enter name).symm idle hv
  have hleft : (routeLines Session.router name [] lines (s.enter name)).session.Agrees
      (Run.ofMacro name lines (routeLines Session.router name [] lines (s.enter name))).session :=
    Session.agrees_leave _ name
  refine ⟨outputs, houtputs, (hagrees.symm.trans hleft).eqButHistory ?_, ?_, fun hq => ?_⟩
  · rw [hidle]
    exact (running_leave_of_eq_enter (running_routeLines running_router name [] lines _)).trans idle
  · show _ ++ ranEvents name lines _ = _
    rw [hv, hevents]
    rfl
  · have htext := htext (by rw [hevents]; exact (quiet_append.1 hq).1)
    rw [List.nil_append] at htext
    exact Value.text.inj htext

/-- A session in which the macro `greet` says a word and runs the macro `bye`. -/
def Session.greeter : Session where
  registry :=
    { commands := Table.ofList
        [("echo", { name := "echo", body := .echo }),
          ("run", { name := "run", body := .runMacro })] }
  macros :=
    { macros := Table.ofList [("greet", ["echo hello", "run bye"]), ("bye", ["echo good night"])] }
  clock := ⟨⟨2026, 10, 19, 12, 34, 56⟩, 0⟩

theorem runMacro_matches_executeAll_greet :
    Session.greeter.macros.running = [] ∧
      Session.greeter.macros.get? "greet" = some (["echo hello", "run bye"] : List Text) ∧
      (Session.greeter.runMacro "greet").outcome = .reply (.say "hello\ngood night") ∧
      ∃ outputs,
        (Session.greeter.executeAll ["echo hello", "run bye"]).outcome = outcomesOf outputs ∧
        (Session.greeter.executeAll ["echo hello", "run bye"]).session.EqButHistory
          (Session.greeter.runMacro "greet").session ∧
        (Session.greeter.runMacro "greet").events =
          (Session.greeter.executeAll ["echo hello", "run bye"]).events
            ++ [.macroRan "greet" (["echo hello", "run bye"] : List Text).length] ∧
        (Quiet (Session.greeter.runMacro "greet").events →
          ("hello\ngood night" : Text) = Text.joinLines (nonEmpty outputs)) :=
  have hr : (Session.greeter.runMacro "greet").outcome = .reply (.say "hello\ngood night") := rfl
  ⟨rfl, rfl, hr, runMacro_matches_executeAll rfl rfl hr⟩

end CommandShell
