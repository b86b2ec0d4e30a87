import CommandShell.Proofs.Termination

/-!
Runs in sessions that agree.

The history and the running macros decide little of what a call does: only the history listing
shows the history, and running macros only refuse to start again. Two sessions that agree in
everything else are masked forms of each other (`Session.masked`). A body other than the one about
the history commutes with masking (`Body.respond_masked`), and from this every run in one session
is matched by the run in the other: they leave sessions that agree, they end alike, and their
outcomes are equal unless the history was listed (`matched_router`). Where fewer macros are
running in the second session, this holds as long as the first run succeeds.
-/

namespace CommandShell

/-! ## Sessions that agree -/

/-- The session with another history and other running macros. -/
def Session.masked (s : Session) (history running : List Text) : Session :=
  { s with history, macros := { s.macros with running } }

/-- The sessions are equal but for their histories and their running macros. -/
def Session.Agrees (s t : Session) : Prop := ∃ history running, t = s.masked history running

namespace Session

variable {s t u : Session} {history running : List Text}

section Masked

variable (s : Session) (history running : List Text)

@[simp] theorem masked_registry : (s.masked history running).registry = s.registry := rfl

@[simp] theorem masked_clock : (s.masked history running).clock = s.clock := rfl

@[simp] theorem masked_macros_get? (name : Text) :
    (s.masked history running).macros.get? name = s.macros.get? name := rfl

@[simp] theorem masked_macros_names :
    (s.masked history running).macros.names = s.macros.names := rfl

@[simp] theorem masked_plugins : (s.masked history running).plugins = s.plugins := rfl

@[simp] theorem masked_pluginList : (s.masked history running).pluginList = s.pluginList := rfl

@[simp] theorem masked_pluginInfo (name : Text) :
    (s.masked history running).pluginInfo name = s.pluginInfo name := rfl

end Masked

theorem Agrees.refl (s : Session) : s.Agrees s := ⟨s.history, s.macros.running, rfl⟩

theorem agrees_masked (s : Session) (history running : List Text) :
    s.Agrees (s.masked history running) := ⟨history, running, rfl⟩

theorem Agrees.symm (h : s.Agrees t) : t.Agrees s := by
  obtain ⟨history, running, rfl⟩ := h
  exact ⟨s.history, s.macros.running, rfl⟩

theorem Agrees.trans (h : s.Agrees t) (h' : t.Agrees u) : s.Agrees u := by
  obtain ⟨history, running, rfl⟩ := h
  obtain ⟨history', running', rfl⟩ := h'
  exact ⟨history', running', rfl⟩

theorem agrees_enter (s : Session) (name : Text) : s.Agrees (s.enter name) :=
  ⟨s.history, name :: s.macros.running, rfl⟩

theorem agrees_leave (s : Session) (name : Text) : s.Agrees (s.leave name) :=
  ⟨s.history, s.macros.running.erase name, rfl⟩

theorem agrees_remember (s : Session) (line : Text) : s.Agrees (s.remember line) := by
  unfold remember
  split
  · exact Agrees.refl s
  · exact ⟨s.history ++ [line], s.macros.running, rfl⟩

theorem bindAlias_masked (s : Session) (history running : List Text) (name target : Text) :
    (s.masked history running).bindAlias name target =
      (s.bindAlias name target).map (·.map (·.masked history running)) := by
  unfold bindAlias
  rw [masked_registry]
  cases s.registry.bindAlias name target with
  | error fault => rfl
  | ok bound => rfl

theorem registerAll_masked (s : Session) (history running : List Text) (cs : List Command) :
    (s.masked history running).registerAll cs =
      (s.registerAll cs).map (·.masked history running) := by
  unfold registerAll
  induction cs generalizing s with
  | nil => rfl
  | cons c cs ih =>
    have hrest := ih (s.register c).value
    unfold Logged.each Logged.andThen
    dsimp only
    rw [show ((s.masked history running).register c).value =
      (s.register c).value.masked history running from rfl, hrest]
    rfl

theorem switchPlugin_masked (s : Session) (history running : List Text) (name : Text)
    (enabled : Bool) :
    (s.masked history running).switchPlugin name enabled =
      (s.switchPlugin name enabled).map (·.map (·.masked history running)) := by
  unfold switchPlugin
  rw [masked_plugins]
  cases s.plugins.get? name with
  | none => rfl
  | some p =>
    have hp := registerAll_masked { s with plugins := s.plugins.set p.name { p with enabled } }
      history running (LoadedPlugin.active { p with enabled })
    exact congrArg (fun put : Logged Session =>
      some (put.andThen fun s => ⟨s, [.pluginSwitched name enabled]⟩)) hp

end Session

/-! ## Bodies -/

/-- The body is the one that lists and clears the history. -/
def Body.isHistory : Body → Bool
  | .history => true
  | _ => false

/-- The answer with the session masked. -/
def Response.masked (r : Response) (history running : List Text) : Response :=
  { r with session := r.session.masked history running }

namespace Body

variable {i : Invocation} {s : Session} {history running : List Text}

theorem respond_alias_masked : Alias.respond i (s.masked history running) =
    (Alias.respond i s).masked history running := by
  unfold Alias.respond
  split
  · rw [Session.masked_registry]
    cases s.registry.aliasList with
    | nil => rfl
    | cons entry entries => rfl
  · dsimp only
    split
    · rfl
    · rw [Session.bindAlias_masked]
      cases s.bindAlias _ _ with
      | error fault => rfl
      | ok bound => rfl

theorem respond_unalias_masked : Alias.respondRemove i (s.masked history running) =
    (Alias.respondRemove i s).masked history running := by
  unfold Alias.respondRemove
  cases i.args with
  | nil => rfl
  | cons name args =>
    dsimp only
    rw [Session.masked_registry]
    split <;> rfl

theorem respond_macros_masked : Macros.respond i (s.masked history running) =
    (Macros.respond i s).masked history running := by
  unfold Macros.respond
  split
  · rfl
  · split
    · rfl
    · unfold Macros.list
      rw [Session.masked_macros_names]
      cases s.macros.names with
      | nil => rfl
      | cons name names => rfl
    · rfl
    · rfl
    · rfl
    · rfl
    · unfold Macros.delete
      rw [Session.masked_macros_get?]
      split <;> rfl
    · unfold Macros.display
      rw [Session.masked_macros_get?]
      cases s.macros.get? _ with
      | none => rfl
      | some lines => rfl

theorem respond_plugins_masked : Plugins.respond i (s.masked history running) =
    (Plugins.respond i s).masked history running := by
  have hswitch (name : Text) (enabled : Bool) :
      Plugins.switch (s.masked history running) name enabled =
        (Plugins.switch s name enabled).masked history running := by
    unfold Plugins.switch
    rw [Session.switchPlugin_masked]
    cases s.switchPlugin name enabled with
    | none => rfl
    | some switched => rfl
  unfold Plugins.respond
  split
  · rfl
  · split
    · rfl
    · unfold Plugins.list
      rw [Session.masked_pluginList]
      cases s.pluginList with
      | nil => rfl
      | cons info infos => rfl
    · rfl
    · unfold Plugins.describe
      rw [Session.masked_pluginInfo]
      cases s.pluginInfo _ with
      | error fault => rfl
      | ok p => rfl
    · exact hswitch _ true
    · exact hswitch _ false

/-- A body other than the one about the history answers a masked session as it answers the session
itself. -/
theorem respond_masked {b : Body} (h : b.isHistory = false) (i : Invocation) (s : Session)
    (history running : List Text) :
    b.respond i (s.masked history running) = (b.respond i s).masked history running := by
  match b with
  | .help =>
    rw [respond, respond, Help.respond, Help.respond]
    split <;> rfl
  | .clear => rfl
  | .exit leaves => rfl
  | .history => cases h
  | .alias => exact respond_alias_masked
  | .unalias => exact respond_unalias_masked
  | .whoami user => rfl
  | .uptime started =>
    rw [respond, respond]
    rw [Session.masked_clock]
    cases s.clock.uptimeText started with
    | ok text => rfl
    | error fault => rfl
  | .date => rfl
  | .time => rfl
  | .echo => rfl
  | .macroBook => exact respond_macros_masked
  | .runMacro =>
    rw [respond, respond, Macros.respondRun, Macros.respondRun]
    split <;> rfl
  | .plugin => exact respond_plugins_masked
  | .weather => rfl
  | .crypto => rfl
  | .placeholder name owner => rfl
  | .external answer => rfl

end Body

/-! ## Ending alike -/

/-- The event starts a listing of the history. -/
def Event.isListing : Event → Bool
  | .callStart c call => c.body.isHistory && !call.hasFlag "c"
  | _ => false

/-- The history is not listed. -/
def Quiet (es : List Event) : Prop := ∀ e ∈ es, e.isListing = false

instance (es : List Event) : Decidable (Quiet es) :=
  inferInstanceAs (Decidable (∀ e ∈ es, e.isListing = false))

theorem quiet_append {es fs : List Event} : Quiet (es ++ fs) ↔ Quiet es ∧ Quiet fs :=
  List.forall_mem_append

/-- A call is quiet if it does not list the history and its body is quiet. -/
theorem quiet_ofCall {c : Command} {call : Invocation} {measured : Bool} {m : Run Ending}
    (h : Quiet (Run.ofCall c call measured m).events) :
    (c.body.isHistory = true → call.hasFlag "c" = true) ∧ Quiet m.events := by
  constructor
  · intro hb
    have hstart := h (.callStart c call) List.mem_cons_self
    simpa [Event.isListing, hb] using hstart
  · intro e he
    refine h e (List.mem_append_left _ (List.mem_append_left _ ?_))
    exact List.mem_cons_of_mem _ he

/-- Equal, or two outputs, which are equal too under the condition `q`. -/
inductive Outcome.Alike (q : Prop) : Outcome → Outcome → Prop
  | refl (o : Outcome) : Alike q o o
  | done {a b : Text} (h : q → a = b) : Alike q (.finished (.done a)) (.finished (.done b))

/-- Equal, or two texts that are said, which are equal too under the condition `q`. -/
inductive Ending.Alike (q : Prop) : Ending → Ending → Prop
  | refl (e : Ending) : Alike q e e
  | say {a b : Text} (h : q → a = b) : Alike q (.reply (.say a)) (.reply (.say b))

namespace Outcome.Alike

variable {q : Prop} {o o' : Outcome}

theorem mono (h : Alike q o o') {q' : Prop} (hq : q' → q) : Alike q' o o' := by
  cases h with
  | refl => exact .refl _
  | done h => exact .done fun hq' => h (hq hq')

theorem eq (h : Alike q o o') (hq : q) : o = o' := by
  cases h with
  | refl => rfl
  | done h => rw [h hq]

theorem exists_done (h : Alike q o o') {a : Text} (ho : o = .finished (.done a)) :
    ∃ b, o' = .finished (.done b) ∧ (q → a = b) := by
  cases h with
  | refl => exact ⟨a, ho, fun _ => rfl⟩
  | @done a' b h =>
    cases ho
    exact ⟨b, rfl, h⟩

theorem eq_of_not_passes (h : Alike q o o') (ho : ¬ o.Passes) : o = o' := by
  cases h with
  | refl => rfl
  | done => exact absurd ⟨_, rfl⟩ ho

end Outcome.Alike

theorem Ending.Alike.mono {q q' : Prop} {e e' : Ending} (h : e.Alike q e') (hq : q' → q) :
    e.Alike q' e' := by
  cases h with
  | refl => exact .refl _
  | say h => exact .say fun hq' => h (hq hq')

theorem Ending.Alike.eq {q : Prop} {e e' : Ending} (h : e.Alike q e') (hq : q) : e = e' := by
  cases h with
  | refl => rfl
  | say h => rw [h hq]

/-- What routing makes of two endings that are alike. -/
theorem Ending.Alike.settle {q : Prop} {e e' : Ending} (h : e.Alike q e') (name : Text) :
    (CommandShell.settle name e).1.Alike q (CommandShell.settle name e').1 ∧
      (CommandShell.settle name e').2 = (CommandShell.settle name e).2 := by
  cases h with
  | refl => exact ⟨.refl _, rfl⟩
  | say h => exact ⟨.done h, rfl⟩

theorem Ending.Alike.ranEvents {q : Prop} {e e' : Ending} (h : e.Alike q e') (name : Text)
    (lines : List Text) :
    CommandShell.ranEvents name lines e' = CommandShell.ranEvents name lines e := by
  cases h with
  | refl => rfl
  | say => rfl

/-! ## Runs in sessions that agree -/

/-- The sessions agree, and what is running in the second is running in the first. If it is not the
same, then `passes` holds, which says that the first run was not stopped by what is running. -/
structure Session.Freer (s t : Session) (passes : Prop) : Prop where
  agrees : s.Agrees t
  running : t.macros.running = s.macros.running ∨ t.macros.running ⊆ s.macros.running ∧ passes

/-- The second run ends as the first does, which `alike` tells, in a session that agrees, and
with the same events. -/
structure Run.Matches {α : Type} (alike : α → α → Prop) (m m' : Run α) : Prop where
  outcome : alike m.outcome m'.outcome
  session : m.session.Agrees m'.session
  events : m'.events = m.events

/-- Every run of `run` is matched by the runs in freer sessions. -/
def MacroRunner.Matched (run : MacroRunner) : Prop :=
  ∀ name s t, s.Freer t (run name s).outcome.Passes →
    Run.Matches (Ending.Alike (Quiet (run name s).events)) (run name s) (run name t)

/-- Every run of `route` is matched by the runs in freer sessions. -/
def Router.Matched (route : Router) : Prop :=
  ∀ i s t, s.Freer t (route i s).outcome.Passes →
    Run.Matches (Outcome.Alike (Quiet (route i s).events)) (route i s) (route i t)

theorem Session.Freer.imp {s t : Session} {p q : Prop} (h : s.Freer t p) (hpq : p → q) :
    s.Freer t q := ⟨h.agrees, h.running.imp id fun ⟨hr, hp⟩ => ⟨hr, hpq hp⟩⟩

/-- Where the first run did not pass, the same is running in both sessions. -/
theorem Session.Freer.running_eq {s t : Session} {p : Prop} (h : s.Freer t p) (hp : ¬ p) :
    t.macros.running = s.macros.running :=
  h.running.resolve_right fun ⟨_, h⟩ => hp h

theorem History.respond_alike {i : Invocation} {s t : Session} (h : s.Agrees t) :
    ∃ x y, History.respond i s = ⟨(History.respond i s).session, [], .reply (.say x)⟩ ∧
      History.respond i t = ⟨(History.respond i t).session, [], .reply (.say y)⟩ ∧
      (History.respond i s).session.Agrees (History.respond i t).session ∧
      (i.hasFlag "c" = true → x = y) := by
  obtain ⟨history, running, rfl⟩ := h
  unfold respond
  by_cases hc : i.hasFlag "c" = true
  · rw [if_pos hc, if_pos hc]
    exact ⟨_, _, rfl, rfl, ⟨[], running, rfl⟩, fun _ => rfl⟩
  · rw [if_neg hc, if_neg hc]
    split <;> split <;>
      exact ⟨_, _, rfl, rfl, s.agrees_masked history running, fun h => absurd h hc⟩

namespace MacroRunner.Matched

variable {run : MacroRunner} (h : run.Matched) {i : Invocation} {s t : Session}

include h

theorem perform {b : Body} {q : Prop}
    (hst : s.Freer t (perform run b i s).outcome.Passes)
    (hlist : q → b.isHistory = true → i.hasFlag "c" = true)
    (hq : q → Quiet (perform run b i s).events) :
    Run.Matches (Ending.Alike q) (CommandShell.perform run b i s)
      (CommandShell.perform run b i t) := by
  by_cases hb : b.isHistory = true
  · match b with
    | .history =>
      obtain ⟨x, y, hx, hy, hagrees, hxy⟩ := History.respond_alike hst.agrees (i := i)
      rw [perform_reply (b := .history) hx, perform_reply (b := .history) hy]
      exact ⟨.say fun hq => hxy (hlist hq rfl), hagrees, rfl⟩
  · have ha := b.answers i s
    have hm := Body.respond_masked (b := b) (by simpa using hb) i s
    obtain ⟨history, running, rfl⟩ := hst.agrees
    specialize hm history running
    cases hr : b.respond i s with
    | mk s' es next =>
      rw [hr] at ha hm
      cases ha with
      | reply r =>
        rw [perform_reply hr, perform_reply hm]
        exact ⟨.refl _, s.agrees_masked history running, rfl⟩
      | change hc =>
        rw [perform_reply hr, perform_reply hm]
        exact ⟨.refl _, s'.agrees_masked history running, rfl⟩
      | run hn =>
        rw [perform_run hr] at hst hq ⊢
        rw [perform_run hm]
        have hm := h _ s _ hst
        exact ⟨hm.outcome.mono hq, hm.session, hm.events⟩

/-- One call in sessions that agree. -/
theorem routeWith : Router.Matched (routeWith run) := by
  intro i s t hst
  have hreg : t.registry = s.registry ∧ t.clock = s.clock := by
    obtain ⟨history, running, rfl⟩ := hst.agrees
    exact ⟨rfl, rfl⟩
  rcases routeWith_cases i s with hn | ⟨hn, hc⟩ | ⟨hn, c, hc⟩
  · rw [routeWith_nothing hn, routeWith_nothing hn]
    exact ⟨.refl _, hst.agrees, rfl⟩
  · rw [routeWith_unknown hn hc, routeWith_unknown hn (by rw [hreg.1, hc])]
    exact ⟨.refl _, hst.agrees, rfl⟩
  · rw [routeWith_call hn hc] at hst ⊢
    rw [routeWith_call hn (by rw [hreg.1, hc]), hreg.1, hreg.2]
    have hp := h.perform (q := Quiet (Run.ofCall c (s.registry.resolve i) s.clock.measures
        (CommandShell.perform run c.body (s.registry.resolve i) s)).events)
      (hst.imp Ending.passes_of_settle) (fun hq => (quiet_ofCall hq).1)
      fun hq => (quiet_ofCall hq).2
    obtain ⟨halike, hfailed⟩ := hp.outcome.settle (s.registry.resolve i).command
    refine ⟨halike, hp.session, ?_⟩
    unfold Run.ofCall
    rw [hp.events, hfailed]

end MacroRunner.Matched

namespace Router.Matched

variable {route : Router} (h : route.Matched)
  (hroute : ∀ i s, (route i s).session.macros.running = s.macros.running)

include h hroute

/-- The lines of a macro in sessions that agree, with outputs gathered before. -/
theorem routeLines {q : Prop} (name : Text) (lines : List Text) {outputs outputs' : List Text}
    (ho : q → outputs = outputs') {s t : Session}
    (hst : s.Freer t (routeLines route name outputs lines s).outcome.Passes)
    (hq : q → Quiet (routeLines route name outputs lines s).events) :
    Run.Matches (Ending.Alike q) (CommandShell.routeLines route name outputs lines s)
      (CommandShell.routeLines route name outputs' lines t) := by
  induction lines generalizing outputs outputs' s t with
  | nil => exact ⟨.say fun hq => by rw [ho hq], hst.agrees, rfl⟩
  | cons line lines ih =>
    have hline := h (.ofLine line) s t
    rcases Classical.em (route (.ofLine line) s).outcome.Passes with ⟨output, hs⟩ | hs
    · rw [routeLines_cons_done hs] at hst hq ⊢
      have hm := hline (hst.imp fun _ => ⟨output, hs⟩)
      obtain ⟨output', ht, hout⟩ := hm.outcome.exists_done hs
      rw [routeLines_cons_done ht]
      have hgathered : q → gather outputs output = gather outputs' output' :=
        fun hq' => by rw [ho hq', hout (quiet_append.1 (hq hq')).1]
      have hrest := ih hgathered ⟨hm.session, by rw [hroute, hroute]; exact hst.running⟩
        fun hq' => (quiet_append.1 (hq hq')).2
      refine ⟨hrest.outcome, hrest.session, ?_⟩
      unfold Run.after
      rw [hm.events, hrest.events]
    · -- Then the macro does not pass either, so the same is running in both sessions.
      rw [routeLines_cons_stopped hs] at hst ⊢
      have hm := hline (hst.imp fun hp => absurd hp (Outcome.not_passes_stopping hs name line))
      have heq := hm.outcome.eq_of_not_passes hs
      rw [routeLines_cons_stopped (by rwa [← heq]), ← heq]
      exact ⟨.refl _, hm.session, hm.events⟩

/-- One macro in sessions that agree. -/
theorem runMacroWith : MacroRunner.Matched (runMacroWith route) := by
  intro name s t hst
  cases hl : s.macros.linesToRun name with
  | error fault =>
    rw [runMacroWith_error hl] at hst ⊢
    have hrunning := hst.running_eq fun ⟨_, hv⟩ => by cases hv
    have ht : t.macros.linesToRun name = .error fault := by
      obtain ⟨history, running, rfl⟩ := hst.agrees
      have hsame : running = s.macros.running := hrunning
      rw [← hl, hsame]
      rfl
    rw [runMacroWith_error ht]
    exact ⟨.refl _, hst.agrees, rfl⟩
  | ok lines =>
    obtain ⟨hget, hfree⟩ := linesToRun_eq_ok_iff.1 hl
    have ht : t.macros.linesToRun name = .ok lines := by
      refine linesToRun_eq_ok_iff.2 ⟨?_, fun hm => hfree ?_⟩
      · obtain ⟨history, running, rfl⟩ := hst.agrees
        exact hget
      · rcases hst.running with hr | ⟨hr, -⟩
        · rwa [hr] at hm
        · exact hr hm
    rw [runMacroWith_ok hl] at hst ⊢
    rw [runMacroWith_ok ht]
    have henter : (s.enter name).Freer (t.enter name)
        (CommandShell.routeLines route name [] lines (s.enter name)).outcome.Passes := by
      refine ⟨((s.agrees_enter name).symm.trans hst.agrees).trans (t.agrees_enter name), ?_⟩
      rcases hst.running with hr | ⟨hr, hp⟩
      · exact .inl (congrArg (name :: ·) hr)
      · exact .inr ⟨List.cons_subset_cons name hr, hp⟩
    have hm := h.routeLines hroute name lines (fun _ => rfl) henter
      fun hq : Quiet (Run.ofMacro name lines
        (CommandShell.routeLines route name [] lines (s.enter name))).events =>
          (quiet_append.1 hq).1
    refine ⟨hm.outcome, ?_, ?_⟩
    · exact ((Session.agrees_leave _ name).symm.trans hm.session).trans
        (Session.agrees_leave _ name)
    · unfold Run.ofMacro
      rw [hm.events, hm.outcome.ranEvents]

end Router.Matched

/-- Routing with a bound is matched in freer sessions, with the same bound. -/
theorem matched_routeWithin (depth : Nat) : Router.Matched (routeWithin depth) := by
  induction depth with
  | zero =>
    have hnone : MacroRunner.Matched fun _ s => ⟨.tooDeep, s, []⟩ :=
      fun _ _ _ hst => ⟨.refl _, hst.agrees, rfl⟩
    exact hnone.routeWith
  | succ depth ih => exact (ih.runMacroWith (running_routeWithin depth)).routeWith

/-- Routing is matched in freer sessions. -/
theorem matched_router : Router.Matched Session.router := by
  intro i s t hst
  have hbound : t.depthBound i = s.depthBound i := by
    obtain ⟨history, running, rfl⟩ := hst.agrees
    rfl
  have hm := matched_routeWithin (s.depthBound i) i s t hst
  unfold Session.router Session.route
  rw [hbound]
  exact hm

end CommandShell
