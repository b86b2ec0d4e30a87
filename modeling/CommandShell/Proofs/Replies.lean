import CommandShell.Proofs.Adding
import CommandShell.Proofs.Termination

/-!
What the bodies of commands reply.

A body of the shell's own tells of no call, and there is a text for what it replies
(`Body.respond_tame`). A macro can say how it ends as well, whatever its lines come to
(`told_runMacroWith`). So only a body from outside gives back what cannot be shown, and only where
an invocation calls it directly is there no result then (`route_eq_unshown_iff`). Nor is anything
but a body from outside ever cancelled: in a session none of whose bodies is, no call is
(`routeWithin_ne_cancelled`).
-/

namespace CommandShell

/-! ## What bodies do not do -/

/-- The event tells of a call: its start, its failure or its end, or that there is nothing to
call. -/
def Event.isCall : Event → Bool
  | .callStart .. | .callFailed .. | .callEnd .. | .notFound _ => true
  | _ => false

/-- The event is the start of a call. -/
def Event.isStart : Event → Bool
  | .callStart .. => true
  | _ => false

/-- What is shown of a reply, unless it is a cancellation. -/
def Reply.shown? : Reply → Option Shown
  | .value v => some v.output
  | .failure f => some f.report
  | .cancelled => none

/-- An answer that tells of no call. If it is a reply, there is a text to be shown. -/
structure Response.Tame (r : Response) : Prop where
  events : ∀ e ∈ r.events, e.isCall = false
  next : ∀ reply, r.next = .reply reply → ∃ text, reply.shown? = some (.ok text)

namespace Response

theorem tame_say (s : Session) (text : Text) : (say s text).Tame where
  events _ h := absurd h List.not_mem_nil
  next reply h := by
    obtain rfl : Reply.say text = reply := Next.reply.inj h
    exact ⟨text, rfl⟩

theorem tame_fail (s : Session) {f : Failure} {error : Text} (hf : f.report = .ok error) :
    (fail s f).Tame where
  events _ h := absurd h List.not_mem_nil
  next reply h := by
    obtain rfl : Reply.failure f = reply := Next.reply.inj h
    exact ⟨error, congrArg some hf⟩

theorem tame_done {s : Logged Session} (h : ∀ e ∈ s.events, e.isCall = false) (text : Text) :
    (done s text).Tame where
  events := h
  next := (tame_say s.value text).next

theorem tame_runMacro (s : Session) (name : Text) : Tame ⟨s, [], .runMacro name⟩ where
  events _ h := absurd h List.not_mem_nil
  next _ h := by cases h

end Response

/-- What all steps tell of, the whole tells of. -/
theorem Logged.each_events {σ α : Type} {P : Event → Prop} {step : σ → α → Logged σ}
    (h : ∀ s a, ∀ e ∈ (step s a).events, P e) (s : σ) (as : List α) :
    ∀ e ∈ (each step s as).events, P e := by
  induction as generalizing s with
  | nil => exact fun _ h => absurd h List.not_mem_nil
  | cons a as ih =>
    intro e he
    rcases List.mem_append.1 he with he | he
    · exact h s a e he
    · exact ih _ e he

theorem Session.switchPlugin_events {s : Session} {name : Text} {enabled : Bool}
    {switched : Logged Session} (h : s.switchPlugin name enabled = some switched) :
    ∀ e ∈ switched.events, e.isCall = false := by
  unfold switchPlugin at h
  obtain ⟨p, -, rfl⟩ := Option.map_eq_some_iff.1 h
  intro e he
  rcases List.mem_append.1 he with he | he
  · refine Logged.each_events (P := fun e => e.isCall = false) (fun s c e he => ?_) _ _ e he
    rw [List.mem_singleton.1 he]
    rfl
  · rw [List.mem_singleton.1 he]
    rfl

namespace Body

variable {i : Invocation} {s : Session}

theorem tame_alias : (Alias.respond i s).Tame := by
  unfold Alias.respond
  split
  · split <;> exact Response.tame_say _ _
  · dsimp only
    split
    · exact Response.tame_say _ _
    · split
      · rename_i fault _
        exact Response.tame_fail _ fault.report_failure
      · rename_i bound hb
        refine Response.tame_done (fun e he => ?_) _
        obtain ⟨r, hr, rfl⟩ := Session.bindAlias_eq_ok hb
        obtain ⟨-, rfl⟩ := Registry.bindAlias_eq_ok hr
        rw [List.mem_singleton.1 he]
        rfl

theorem tame_unalias : (Alias.respondRemove i s).Tame := by
  unfold Alias.respondRemove
  split
  · exact Response.tame_say _ _
  · rename_i name args _
    split
    · rename_i hc
      have hevents : (s.removeAlias name).events = [.aliasRemoved name] := if_pos hc
      refine Response.tame_done (fun e he => ?_) _
      rw [hevents] at he
      rw [List.mem_singleton.1 he]
      rfl
    · exact Response.tame_say _ _

theorem tame_macroBook : (Macros.respond i s).Tame := by
  unfold Macros.respond
  split
  · exact Response.tame_say _ _
  · split
    · exact Response.tame_say _ _
    · unfold Macros.list
      split <;> exact Response.tame_say _ _
    · refine Response.tame_done (fun e he => ?_) _
      rw [List.mem_singleton.1 he]
      rfl
    · exact Response.tame_say _ _
    · exact Response.tame_say _ _
    · exact Response.tame_runMacro _ _
    · unfold Macros.delete
      split <;> exact Response.tame_say _ _
    · unfold Macros.display
      split <;> exact Response.tame_say _ _

theorem tame_switch (name : Text) (enabled : Bool) : (Plugins.switch s name enabled).Tame := by
  unfold Plugins.switch
  split
  · exact Response.tame_say _ _
  · rename_i h
    exact Response.tame_done (Session.switchPlugin_events h) _

theorem tame_plugin : (Plugins.respond i s).Tame := by
  unfold Plugins.respond
  split
  · exact Response.tame_say _ _
  · split
    · exact Response.tame_say _ _
    · unfold Plugins.list
      split <;> exact Response.tame_say _ _
    · exact Response.tame_say _ _
    · unfold Plugins.describe
      split
      · rename_i fault _
        exact Response.tame_fail _ fault.report_failure
      · exact Response.tame_say _ _
    · exact tame_switch _ true
    · exact tame_switch _ false

/-- What a body from outside answers. -/
def outside? : Body → Option (Invocation → Reply)
  | .external answer => some answer
  | _ => none

theorem eq_external {b : Body} {answer : Invocation → Reply} (h : b.outside? = some answer) :
    b = .external answer := by
  unfold outside? at h
  split at h
  · rw [Option.some.inj h]
  · cases h

/-- Every body is tame, but for those from outside. -/
theorem respond_tame {b : Body} (hb : b.outside? = none) (i : Invocation) (s : Session) :
    (b.respond i s).Tame := by
  match b with
  | .help =>
    rw [respond, Help.respond]
    split <;> exact Response.tame_say _ _
  | .clear => exact Response.tame_say _ _
  | .exit leaves => exact Response.tame_say _ _
  | .history =>
    rw [respond, History.respond]
    split
    · exact Response.tame_say _ _
    · split <;> exact Response.tame_say _ _
  | .alias => exact tame_alias
  | .unalias => exact tame_unalias
  | .whoami user => exact Response.tame_say _ _
  | .uptime started =>
    rw [respond]
    split
    · exact Response.tame_say _ _
    · rename_i fault _
      exact Response.tame_fail _ fault.report_failure
  | .date => exact Response.tame_say _ _
  | .time => exact Response.tame_say _ _
  | .echo => exact Response.tame_say _ _
  | .macroBook => exact tame_macroBook
  | .runMacro =>
    rw [respond, Macros.respondRun]
    split
    · exact Response.tame_say _ _
    · exact Response.tame_runMacro _ _
  | .plugin => exact tame_plugin
  | .weather => exact Response.tame_say _ _
  | .crypto => exact Response.tame_say _ _
  | .placeholder name owner => exact Response.tame_say _ _
  | .external answer => cases hb

/-- A body performs by replying, with no event of a call, or as the macro that it asks for. -/
theorem perform_silent_or_run (run : MacroRunner) (b : Body) (i : Invocation) (s : Session) :
    (∃ r s' es, (∀ e ∈ es, e.isCall = false) ∧ b.respond i s = ⟨s', es, .reply r⟩ ∧
        perform run b i s = ⟨.reply r, s', es⟩) ∨
      ∃ name, b.respond i s = ⟨s, [], .runMacro name⟩ ∧ perform run b i s = run name s := by
  have hevents : ∀ e ∈ (b.respond i s).events, e.isCall = false := by
    cases hb : b.outside? with
    | none => exact (respond_tame hb i s).events
    | some answer =>
      rw [eq_external hb]
      exact fun _ h => absurd h List.not_mem_nil
  have ha := b.answers i s
  cases hr : b.respond i s with
  | mk s' es next =>
    rw [hr] at ha hevents
    cases ha with
    | reply r => exact .inl ⟨r, s, [], hevents, rfl, perform_reply hr⟩
    | change h => exact .inl ⟨_, s', es, hevents, rfl, perform_reply hr⟩
    | @run name h => exact .inr ⟨name, rfl, perform_run hr⟩

end Body
/-! ## What cannot be shown -/

theorem settle_fst_eq_unshown_iff (name : Text) (e : Ending) (fault : DisplayFault) :
    (settle name e).1 = .unshown fault ↔
      ∃ reply, e = .reply reply ∧ reply.shown? = some (.error fault) := by
  rcases e with (v | f | _) | _ <;> simp [settle, Reply.shown?]

/-- A reply that there is a text for. -/
def Ending.Told (e : Ending) : Prop :=
  ∀ reply, e = .reply reply → ∀ fault, reply.shown? ≠ some (.error fault)

theorem Ending.told_of_shown {reply : Reply} {text : Text} (h : reply.shown? = some (.ok text)) :
    Ending.Told (.reply reply) := by
  intro reply' hreply fault hfault
  obtain rfl := Ending.reply.inj hreply
  rw [h] at hfault
  cases hfault

theorem Ending.told_say (text : Text) : Ending.Told (.reply (.say text)) :=
  have hshown : (Reply.say text).shown? = some (.ok text) := rfl
  told_of_shown hshown

theorem Outcome.told_stopping (o : Outcome) (name line : Text) : (o.stopping name line).Told := by
  rcases o with (output | error) | fault | _ | _
  · exact Ending.told_say output
  · exact Ending.told_of_shown (congrArg some (MacroFault.report_failure _))
  · exact Ending.told_of_shown (congrArg some fault.report_failure)
  · intro reply hreply fault hfault
    obtain rfl := Ending.reply.inj hreply
    cases hfault
  · intro reply hreply
    cases hreply

/-- Whatever its lines come to, a macro can say how it ends. -/
theorem told_runMacroWith (route : Router) (name : Text) (s : Session) :
    (runMacroWith route name s).outcome.Told := by
  cases hl : s.macros.linesToRun name with
  | error fault =>
    rw [runMacroWith_error hl]
    exact Ending.told_of_shown (congrArg some fault.report_failure)
  | ok lines =>
    rw [runMacroWith_ok hl]
    show (routeLines route name [] lines (s.enter name)).outcome.Told
    rcases routeLines_cases (P := fun _ => True) (fun _ _ _ => trivial) trivial with
      ⟨text, ho⟩ | ⟨line, t, -, ho, -⟩
    · rw [ho]
      exact Ending.told_say text
    · rw [ho]
      exact Outcome.told_stopping _ name line

/-- What the body from outside replies that an invocation calls, if it calls one. -/
def Session.outsideReply? (s : Session) (i : Invocation) : Option Reply :=
  (s.called? i).bind fun c => c.body.outside?.map fun answer => answer (s.registry.resolve i)

/-- A call comes to nothing that can be shown just when it calls a body from outside that replies
so. -/
theorem route_eq_unshown_iff (s : Session) (i : Invocation) (fault : DisplayFault) :
    (s.route i).outcome = .unshown fault ↔
      ∃ reply, s.outsideReply? i = some reply ∧ reply.shown? = some (.error fault) := by
  rw [route_unfolds]
  unfold Session.outsideReply?
  rcases routeWith_cases i s with hn | ⟨hn, hc⟩ | ⟨hn, c, hc⟩
  · rw [routeWith_nothing hn, Session.called?, if_pos hn]
    exact iff_of_false Outcome.noConfusion fun ⟨_, h, _⟩ => by cases h
  · rw [routeWith_unknown hn hc, Session.called?, if_neg hn, hc]
    exact iff_of_false Outcome.noConfusion fun ⟨_, h, _⟩ => by cases h
  · rw [routeWith_call hn hc, Session.called?_eq_some_iff.2 ⟨hn, hc⟩, Option.bind_some]
    refine (settle_fst_eq_unshown_iff _ _ _).trans ?_
    cases hb : c.body.outside? with
    | some answer =>
      rw [Body.eq_external hb, perform_reply (r := answer (s.registry.resolve i)) rfl]
      simp
    | none =>
      refine iff_of_false (fun ⟨reply, hreply, hfault⟩ => ?_) fun ⟨_, h, _⟩ => by cases h
      rcases c.body.perform_silent_or_run (runMacroWith Session.router) (s.registry.resolve i) s
        with ⟨r, s', es, -, hr, hp⟩ | ⟨name, -, hp⟩
      · rw [hp] at hreply
        have htame := Body.respond_tame hb (s.registry.resolve i) s
        rw [hr] at htame
        obtain ⟨text, htext⟩ := htame.next r rfl
        exact Ending.told_of_shown htext reply hreply fault hfault
      · rw [hp] at hreply
        exact told_runMacroWith _ name s reply hreply fault hfault

/-- A number of too many digits cannot be shown, be it given back or carried by a failure. -/
example :
    let number : Value := .whole (Nat.pow 10 5000)
    ∀ reply ∈ [Reply.value number, .failure (.ofDetails "CommandError" [number])],
      (((Session.bare ⟨⟨2026, 10, 19, 12, 34, 56⟩, 0⟩).register
        { name := "big", body := .external fun _ => reply }).value.execute "big").outcome =
          .unshown .tooManyDigits := by
  decide +kernel

/-! ## Bodies that are not cancelled -/

/-- All commands of a session, and all of its plugins, have bodies of one sort. -/
structure Session.AllBodies (P : Body → Prop) (s : Session) : Prop where
  registered : ∀ name c, s.registry.commands.get? name = some c → P c.body
  loaded : ∀ name p, s.plugins.get? name = some p → ∀ c ∈ p.commands, P c.body

/-- A body from outside that is never cancelled. The others never are. -/
def Body.Calm (b : Body) : Prop := ∀ answer, b.outside? = some answer → ∀ i, answer i ≠ .cancelled

theorem Body.Calm.next_respond {b : Body} (h : b.Calm) (i : Invocation) (s : Session) :
    (b.respond i s).next ≠ .reply .cancelled := by
  intro hr
  cases hb : b.outside? with
  | none =>
    obtain ⟨text, htext⟩ := (respond_tame hb i s).next _ hr
    cases htext
  | some answer =>
    rw [eq_external hb] at hr
    exact h answer hb i (Next.reply.inj hr)

/-- No command of the session, and none of its plugins, is ever cancelled. -/
abbrev Session.Calm (s : Session) : Prop := s.AllBodies Body.Calm

section AllBodies

/-! The stand-in for a command of a disabled plugin has a body of the sort too. -/

variable {P : Body → Prop} (hP : ∀ command plugin, P (.placeholder command plugin))

include hP

theorem LoadedPlugin.body_command {p : LoadedPlugin} (h : ∀ c ∈ p.commands, P c.body)
    {name : Text} {c : Command} (hc : p.command? name = some c) : P c.body := by
  obtain ⟨d, hd, rfl⟩ := Option.map_eq_some_iff.1 hc
  unfold Command.shown
  split
  · exact h d (List.mem_reverse.1 (List.mem_of_find?_eq_some hd))
  · exact hP d.name p.name

namespace Session

theorem AllBodies.putPlugin {s : Session} (h : s.AllBodies P) {p : LoadedPlugin}
    (hp : ∀ c ∈ p.commands, P c.body) : (s.putPlugin p).value.AllBodies P where
  registered name c hc := by
    rw [get?_putPlugin, Option.or_eq_some_iff] at hc
    rcases hc with hc | ⟨-, hc⟩
    · exact p.body_command hP hp hc
    · exact h.registered name c hc
  loaded name q hq := by
    rw [putPlugin_plugins, Table.get?_set] at hq
    split at hq
    · cases hq
      exact hp
    · exact h.loaded name q hq

theorem kept_allBodies : Kept (fun _ => True) (AllBodies P) where
  change := by
    intro i s b s' _ hs _ hc
    cases hc with
    | leave | forget | unbind | define | delete => exact ⟨hs.registered, hs.loaded⟩
    | bind _ hb =>
      obtain ⟨-, hv⟩ := bindAlias_value hb
      rw [hv]
      exact ⟨hs.registered, hs.loaded⟩
    | switch h =>
      unfold switchPlugin at h
      obtain ⟨p, hp, rfl⟩ := Option.map_eq_some_iff.1 h
      exact hs.putPlugin hP (hs.loaded _ p hp)
  lines _ _ _ _ := trivial
  enter hs _ := ⟨hs.registered, hs.loaded⟩
  leave hs _ := ⟨hs.registered, hs.loaded⟩

omit hP in
theorem AllBodies.remember {s : Session} (h : s.AllBodies P) (line : Text) :
    (s.remember line).AllBodies P := by
  unfold Session.remember
  split
  · exact h
  · exact ⟨h.registered, h.loaded⟩

end Session

end AllBodies

theorem Body.calm_placeholder (command plugin : Text) :
    Body.Calm (.placeholder command plugin) :=
  fun _ h => by cases h

theorem settle_fst_eq_cancelled_iff (name : Text) (e : Ending) :
    (settle name e).1 = .cancelled ↔ e = .reply .cancelled := by
  rcases e with (v | f | _) | _ <;> simp [settle]

theorem routeWith_ne_cancelled {run : MacroRunner} {s : Session} (hs : s.Calm)
    (h : ∀ name, (run name s).outcome ≠ .reply .cancelled) (i : Invocation) :
    (routeWith run i s).outcome ≠ .cancelled := by
  rcases routeWith_cases i s with hn | ⟨hn, hc⟩ | ⟨hn, c, hc⟩
  · rw [routeWith_nothing hn]
    exact Outcome.noConfusion
  · rw [routeWith_unknown hn hc]
    exact Outcome.noConfusion
  · rw [routeWith_call hn hc]
    intro ht
    have hp := (settle_fst_eq_cancelled_iff _ _).1 ht
    rcases c.body.perform_silent_or_run run (s.registry.resolve i) s with
      ⟨r, s', es, -, hr, hperform⟩ | ⟨name, -, hperform⟩
    · rw [hperform] at hp
      refine (hs.registered _ c hc).next_respond (s.registry.resolve i) s ?_
      rw [hr]
      exact congrArg Next.reply (Ending.reply.inj hp)
    · rw [hperform] at hp
      exact h name hp

theorem routeWithin_ne_cancelled {s : Session} (hs : s.Calm) (depth : Nat) (i : Invocation) :
    (routeWithin depth i s).outcome ≠ .cancelled := by
  induction depth generalizing i s with
  | zero => exact routeWith_ne_cancelled hs (fun _ => Ending.noConfusion) i
  | succ depth ih =>
    refine routeWith_ne_cancelled hs (fun name => ?_) i
    cases hl : s.macros.linesToRun name with
    | error fault =>
      rw [runMacroWith_error hl]
      exact fun h => by cases h
    | ok lines =>
      rw [runMacroWith_ok hl]
      show (routeLines (routeWithin depth) name [] lines (s.enter name)).outcome ≠ _
      have hkept := Session.kept_allBodies Body.calm_placeholder
      rcases routeLines_cases (P := Session.Calm)
        (fun _ _ ht => hkept.routeWithin depth trivial ht) (hkept.enter hs hl) with
        ⟨text, ho⟩ | ⟨line, t, ht, ho, -⟩
      · rw [ho]
        exact fun h => by cases h
      · rw [ho]
        exact fun h => ih ht (.ofLine line) (Outcome.stopping_eq_cancelled_iff.1 h)

end CommandShell
