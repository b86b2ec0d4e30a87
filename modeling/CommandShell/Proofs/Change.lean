import CommandShell.Builtin
import CommandShell.Proofs.Expansion

/-!
What the body of a command can do.

A body replies without touching the session, or asks for a macro to be run, or makes one change
and says so (`Body.answers`). `Change` lists the changes, each with the body that makes it and
the part of the invocation that it comes from. All later facts about what a call keeps are read
off this list; no body is opened again for them.
-/

namespace CommandShell

/-- The changes to a session that a body makes for an invocation. -/
inductive Change (i : Invocation) (s : Session) : Body → Session → Prop
  | leave (leaves : Bool) : Change i s (.exit leaves) { s with exiting := s.exiting || leaves }
  | forget (h : i.hasFlag "c" = true) : Change i s .history { s with history := [] }
  | bind {name target : Text} {bound : Logged Session}
      (hr : Alias.readBinding (Token.splitFirst i.line).2 = (name, target))
      (hb : s.bindAlias name target = .ok bound) : Change i s .alias bound.value
  | unbind {name : Text} (h : name ∈ i.args) : Change i s .unalias (s.removeAlias name).value
  | define {name : Text} {lines : List Text} (h : ∃ word, i.args = word :: name :: lines) :
      Change i s .macroBook { s with macros := (s.macros.define name lines).value }
  | delete (name : Text) : Change i s .macroBook { s with macros := s.macros.delete name }
  | switch {name : Text} {enabled : Bool} {switched : Logged Session}
      (h : s.switchPlugin name enabled = some switched) : Change i s .plugin switched.value

/-! ## The parts of a session that a change leaves -/

namespace Session

theorem registerAll_value (s : Session) (cs : List Command) :
    ∃ r : Registry, (s.registerAll cs).value = { s with registry := r } ∧
      r.aliases = s.registry.aliases := by
  unfold registerAll
  rw [Logged.each_value]
  induction cs generalizing s with
  | nil => exact ⟨s.registry, rfl, rfl⟩
  | cons c cs ih =>
    obtain ⟨r, hr, ha⟩ := ih (s.register c).value
    exact ⟨r, hr, ha⟩

/-- Switching a plugin changes what is registered and what is known of plugins, but no alias. -/
theorem switchPlugin_value {s : Session} {name : Text} {enabled : Bool} {switched : Logged Session}
    (h : s.switchPlugin name enabled = some switched) :
    ∃ (r : Registry) (ps : Table LoadedPlugin),
      switched.value = { s with registry := r, plugins := ps } ∧
        r.aliases = s.registry.aliases := by
  unfold switchPlugin at h
  obtain ⟨p, -, rfl⟩ := Option.map_eq_some_iff.1 h
  obtain ⟨r, hr, ha⟩ := registerAll_value
    { s with plugins := s.plugins.set p.name { p with enabled } }
    (LoadedPlugin.active { p with enabled })
  exact ⟨r, _, hr, ha⟩

theorem bindAlias_eq_ok {s : Session} {name target : Text} {bound : Logged Session}
    (h : s.bindAlias name target = .ok bound) :
    ∃ r, s.registry.bindAlias name target = .ok r ∧ bound = s.withRegistry r := by
  unfold bindAlias at h
  cases hr : s.registry.bindAlias name target with
  | error fault =>
    rw [hr] at h
    cases h
  | ok r =>
    rw [hr] at h
    cases h
    exact ⟨r, rfl, rfl⟩

theorem bindAlias_value {s : Session} {name target : Text} {bound : Logged Session}
    (h : s.bindAlias name target = .ok bound) :
    Registry.aliasFault? name target = none ∧
      bound.value = { s with registry := (s.registry.setAlias name target).value } := by
  obtain ⟨r, hr, rfl⟩ := bindAlias_eq_ok h
  obtain ⟨hf, rfl⟩ := Registry.bindAlias_eq_ok hr
  exact ⟨hf, rfl⟩

end Session

namespace Change

variable {i : Invocation} {s s' : Session} {b : Body}

/-- No body starts or ends a macro by itself. -/
theorem running_eq (h : Change i s b s') : s'.macros.running = s.macros.running := by
  cases h with
  | leave | forget | unbind | define | delete => rfl
  | bind hr hb =>
    obtain ⟨-, hv⟩ := Session.bindAlias_value hb
    rw [hv]
  | switch h =>
    obtain ⟨r, ps, hv, -⟩ := Session.switchPlugin_value h
    rw [hv]

end Change

/-- The answers that a body may give. -/
inductive Body.Answers (i : Invocation) (s : Session) (b : Body) : Response → Prop
  | reply (r : Reply) : Answers i s b ⟨s, [], .reply r⟩
  | run {name : Text} (h : name ∈ i.args) : Answers i s b ⟨s, [], .runMacro name⟩
  | change {s' : Session} (h : Change i s b s') (events : List Event) (text : Text) :
      Answers i s b ⟨s', events, .reply (.say text)⟩

namespace Body

variable {i : Invocation} {s : Session}

theorem answers_history : Answers i s .history (History.respond i s) := by
  unfold History.respond
  split
  · rename_i h
    exact .change (.forget h) _ _
  · split <;> exact .reply _

theorem answers_alias : Answers i s .alias (Alias.respond i s) := by
  unfold Alias.respond
  split
  · split <;> exact .reply _
  · cases hr : Alias.readBinding (Token.splitFirst i.line).2 with
    | mk name target =>
      dsimp only
      split
      · exact .reply _
      · split
        · exact .reply _
        · rename_i bound hb
          exact .change (.bind hr hb) _ _

theorem answers_unalias : Answers i s .unalias (Alias.respondRemove i s) := by
  unfold Alias.respondRemove
  split
  · exact .reply _
  · rename_i name args ha
    split
    · exact .change (.unbind (by rw [ha]; exact List.mem_cons_self)) _ _
    · exact .reply _

theorem answers_macroBook : Answers i s .macroBook (Macros.respond i s) := by
  unfold Macros.respond
  split
  · exact .reply _
  · rename_i word args ha
    split
    · exact .reply _
    · unfold Macros.list
      split <;> exact .reply _
    · exact .change (.define ⟨word, ha⟩) _ _
    · exact .reply _
    · exact .reply _
    · exact .run (by rw [ha]; simp)
    · unfold Macros.delete
      split
      · exact .change (.delete _) _ _
      · exact .reply _
    · unfold Macros.display
      split <;> exact .reply _

theorem answers_runMacro : Answers i s .runMacro (Macros.respondRun i s) := by
  unfold Macros.respondRun
  split
  · exact .reply _
  · rename_i name args ha
    exact .run (by rw [ha]; exact List.mem_cons_self)

theorem answers_switch (name : Text) (enabled : Bool) :
    Answers i s .plugin (Plugins.switch s name enabled) := by
  unfold Plugins.switch
  split
  · exact .reply _
  · rename_i h
    exact .change (.switch h) _ _

theorem answers_plugin : Answers i s .plugin (Plugins.respond i s) := by
  unfold Plugins.respond
  split
  · exact .reply _
  · split
    · exact .reply _
    · unfold Plugins.list
      split <;> exact .reply _
    · exact .reply _
    · unfold Plugins.describe
      split <;> exact .reply _
    · exact answers_switch _ true
    · exact answers_switch _ false

/-- What a body can do: reply, ask for a macro, or make one change and say so. -/
theorem answers (b : Body) (i : Invocation) (s : Session) : Answers i s b (b.respond i s) := by
  match b with
  | .help =>
    rw [respond, Help.respond]
    split <;> exact .reply _
  | .clear => exact .reply _
  | .exit leaves => exact .change (.leave leaves) _ _
  | .history => exact answers_history
  | .alias => exact answers_alias
  | .unalias => exact answers_unalias
  | .whoami user => exact .reply _
  | .uptime started =>
    rw [respond]
    split <;> exact .reply _
  | .date => exact .reply _
  | .time => exact .reply _
  | .echo => exact .reply _
  | .macroBook => exact answers_macroBook
  | .runMacro => exact answers_runMacro
  | .plugin => exact answers_plugin
  | .weather => exact .reply _
  | .crypto => exact .reply _
  | .placeholder name owner => exact .reply _
  | .external answer => exact .reply _

end Body

end CommandShell
