import CommandShell.Proofs.AliasCall
import CommandShell.Proofs.Adding

/-!
What a single command may change.

A call that runs no macro changes at most one component of the session, which can be told from
the body of its command and its arguments (`Body.component?`): the binding of one alias, the lines
of one macro, the state of one plugin with what is registered under the names of its commands, the
history, or whether the shell is to end. `Session.SameBut` says for each of these what stays as it
is, and `Body.acts` opens every body once to see to it. A call that does not come to an output
changes nothing at all. `execute_confined` states both for lines.
-/

namespace CommandShell

/-- The tables differ at most in what they hold under one name. -/
def Table.SameBut {α : Type} (k : Text) (t u : Table α) : Prop := u.erase k = t.erase k

namespace Table

variable {α : Type}

theorem sameBut_set (t : Table α) (k : Text) (v : α) : t.SameBut k (t.set k v) := by
  have hentries (es : List (Text × α)) :
      (setIn k v es).filter (·.1 != k) = es.filter (·.1 != k) := by
    induction es with
    | nil => simp [setIn]
    | cons e es ih =>
      obtain ⟨j, w⟩ := e
      by_cases h : j = k
      · simp [setIn, h]
      · simp [setIn, h, ih]
  exact ext (hentries t.entries)

theorem sameBut_erase (t : Table α) (k : Text) : t.SameBut k (t.erase k) := by
  have hentries :
      (t.entries.filter (·.1 != k)).filter (·.1 != k) = t.entries.filter (·.1 != k) := by
    simp
  exact ext hentries

end Table

/-! ## Components -/

/-- A part of a session that a single command may change. -/
inductive Component where
  | alias (name : Text)
  | lines (name : Text)
  | plugin (name : Text)
  | history
  | exiting
deriving DecidableEq, Repr

/-- All of `t` but for one component is as in `s`. A plugin goes together with what is registered
under the names of its commands, and only its state may differ. -/
def Session.SameBut (s : Session) (k : Component) (t : Session) : Prop :=
  match k with
  | .alias name => ∃ aliases, s.registry.aliases.SameBut name aliases ∧
      t = { s with registry := { s.registry with aliases } }
  | .lines name => ∃ macros, s.macros.macros.SameBut name macros ∧
      t = { s with macros := { s.macros with macros } }
  | .plugin name => ∃ p enabled commands, s.plugins.get? name = some p ∧
      (∀ n, (∀ c ∈ p.commands, c.name ≠ n) → commands.get? n = s.registry.commands.get? n) ∧
      t = { s with
        registry := { s.registry with commands }
        plugins := s.plugins.set name { p with enabled } }
  | .history => ∃ history, t = { s with history }
  | .exiting => ∃ exiting, t = { s with exiting }

namespace Body

/-- The name of the macro that a call of a body asks for. -/
def macroAsked? (b : Body) (call : Invocation) : Option Text :=
  match b with
  | .runMacro => call.args.head?
  | .macroBook =>
    match call.args with
    | word :: name :: _ => if word = Macros.Subcommand.run.name then some name else none
    | _ => none
  | _ => none

/-- The component that a call of a body may change, if it may change anything. -/
def component? (b : Body) (call : Invocation) : Option Component :=
  match b with
  | .exit _ => some .exiting
  | .history => if call.hasFlag "c" then some .history else none
  | .alias => some (.alias (Alias.readBinding (Token.splitFirst call.line).2).1)
  | .unalias => call.args.head?.map .alias
  | .macroBook =>
    match call.args with
    | word :: name :: _ =>
      if word = Macros.Subcommand.create.name ∨ word = Macros.Subcommand.delete.name then
        some (.lines name)
      else none
    | _ => none
  | .plugin =>
    match call.args with
    | word :: name :: _ =>
      if word = Plugins.Subcommand.enable.name ∨ word = Plugins.Subcommand.disable.name then
        some (.plugin name)
      else none
    | _ => none
  | _ => none

end Body

namespace Session

/-- The name of the macro that an invocation asks for. -/
def macroAsked? (s : Session) (i : Invocation) : Option Text :=
  (s.called? i).bind fun c => c.body.macroAsked? (s.registry.resolve i)

/-- The component that an invocation may change. -/
def component? (s : Session) (i : Invocation) : Option Component :=
  (s.called? i).bind fun c => c.body.component? (s.registry.resolve i)

end Session

/-! ## Plugins and their names -/

theorem LoadedPlugin.command?_eq_none {p : LoadedPlugin} {n : Text}
    (h : ∀ c ∈ p.commands, c.name ≠ n) : p.command? n = none := by
  have hlast : lastNamed? p.commands n = none := by
    unfold lastNamed?
    rw [List.find?_eq_none]
    intro c hc
    simpa using h c (List.mem_reverse.1 hc)
  unfold LoadedPlugin.command?
  rw [hlast]
  rfl

namespace Session

/-- Every plugin is stored under its own name. -/
def PluginsNamed (s : Session) : Prop := ∀ name p, s.plugins.get? name = some p → p.name = name

theorem PluginsNamed.set {s t : Session} (h : s.PluginsNamed) {p : LoadedPlugin}
    (ht : t.plugins = s.plugins.set p.name p) : t.PluginsNamed := by
  intro name q hq
  rw [ht, Table.get?_set] at hq
  split at hq
  · rename_i hname
    rw [← Option.some.inj hq, hname]
  · exact h name q hq

theorem lasting_pluginsNamed : Lasting PluginsNamed where
  bare _ _ _ h := by cases h
  register h _ := h
  bindAlias h hb := by
    obtain ⟨-, hv⟩ := bindAlias_value hb
    rw [hv]
    exact h
  removeAlias h _ := h
  addPlugin := by
    intro s h p info
    by_cases htaken : (s.plugins.get? info.name).isSome = true
    · rw [addPlugin_taken htaken]
      exact h
    · have hload : (p.load info).value.name = info.name := by rw [p.load_info]
      have hnew := addPlugin_new_value (p := p) (Option.not_isSome_iff_eq_none.1 htaken)
      exact h.set (by rw [hnew.1, hload])
  switchPlugin := by
    intro s name enabled switched h hs
    unfold Session.switchPlugin at hs
    obtain ⟨p, -, rfl⟩ := Option.map_eq_some_iff.1 hs
    exact h.set (s.putPlugin_plugins { p with enabled })
  rest h _ _ _ _ := h

theorem putPlugin_value (s : Session) (p : LoadedPlugin) : ∃ commands,
    (s.putPlugin p).value = { s with
      registry := { s.registry with commands }
      plugins := s.plugins.set p.name p } := by
  unfold putPlugin
  rw [registerAll_eq]
  exact ⟨_, rfl⟩

/-- Switching a plugin touches its state and the names of its commands. -/
theorem sameBut_switchPlugin {s : Session} (hs : s.PluginsNamed) {name : Text} {enabled : Bool}
    {switched : Logged Session} (h : s.switchPlugin name enabled = some switched) :
    s.SameBut (.plugin name) switched.value := by
  unfold switchPlugin at h
  obtain ⟨p, hp, rfl⟩ := Option.map_eq_some_iff.1 h
  have hname : p.name = name := hs name p hp
  obtain ⟨commands, hvalue⟩ := s.putPlugin_value { p with enabled }
  refine ⟨p, enabled, commands, hp, fun n hn => ?_, by rw [← hname]; exact hvalue⟩
  have hnone : ({ p with enabled } : LoadedPlugin).command? n = none :=
    LoadedPlugin.command?_eq_none hn
  have hget := s.get?_putPlugin { p with enabled } n
  rwa [hvalue, hnone, Option.none_or] at hget

end Session

/-! ## Bodies -/

/-- The answers that a body may give: a reply, the wish to have a macro run, or a change of one
component with an output. -/
inductive Body.Acts (b : Body) (i : Invocation) (s : Session) : Response → Prop
  | reply (r : Reply) : Acts b i s ⟨s, [], .reply r⟩
  | run {name : Text} (h : b.macroAsked? i = some name) : Acts b i s ⟨s, [], .runMacro name⟩
  | change {s' : Session} {k : Component} (hk : b.component? i = some k) (h : s.SameBut k s')
      (events : List Event) (text : Text) : Acts b i s ⟨s', events, .reply (.say text)⟩

theorem Macros.Subcommand.name_of_ofName? {word : Text} {sub : Macros.Subcommand}
    (h : Macros.Subcommand.ofName? word = some sub) : sub.name = word := by
  simpa using List.find?_some h

theorem Plugins.Subcommand.name_of_ofName? {word : Text} {sub : Plugins.Subcommand}
    (h : Plugins.Subcommand.ofName? word = some sub) : sub.name = word := by
  simpa using List.find?_some h

namespace Body

variable {i : Invocation} {s : Session}

theorem acts_history : Acts .history i s (History.respond i s) := by
  unfold History.respond
  split
  · rename_i h
    have hk : component? .history i = some .history := if_pos h
    exact .change hk ⟨[], rfl⟩ _ _
  · split <;> exact .reply _

theorem acts_alias : Acts .alias i s (Alias.respond i s) := by
  unfold Alias.respond
  split
  · split <;> exact .reply _
  · cases hr : Alias.readBinding (Token.splitFirst i.line).2 with
    | mk name target =>
      have hk : component? .alias i = some (.alias name) := by
        show some (Component.alias (Alias.readBinding _).1) = _
        rw [hr]
      dsimp only
      split
      · exact .reply _
      · split
        · exact .reply _
        · rename_i bound hb
          obtain ⟨-, hv⟩ := Session.bindAlias_value hb
          exact .change hk ⟨_, Table.sameBut_set _ name target, hv⟩ _ _

theorem acts_unalias : Acts .unalias i s (Alias.respondRemove i s) := by
  unfold Alias.respondRemove
  split
  · exact .reply _
  · rename_i name args ha
    have hk : component? .unalias i = some (.alias name) := by
      show i.args.head?.map Component.alias = _
      rw [ha]
      rfl
    split
    · exact .change hk ⟨_, Table.sameBut_erase _ name, rfl⟩ _ _
    · exact .reply _

theorem acts_macroBook : Acts .macroBook i s (Macros.respond i s) := by
  -- The word that is read as a subcommand is its name, which is what `component?` looks at.
  have hk {word name : Text} {args : List Text} (ha : i.args = word :: name :: args)
      {sub : Macros.Subcommand} (hsub : sub = .create ∨ sub = .delete)
      (hword : Macros.Subcommand.ofName? word = some sub) :
      component? .macroBook i = some (.lines name) := by
    have hname := Macros.Subcommand.name_of_ofName? hword
    unfold component?
    rw [ha]
    refine if_pos ?_
    rw [← hname]
    exact hsub.imp (congrArg _) (congrArg _)
  unfold Macros.respond
  split
  · exact .reply _
  · rename_i word args ha
    split
    · exact .reply _
    · unfold Macros.list
      split <;> exact .reply _
    · rename_i name line lines hword
      exact .change (hk ha (.inl rfl) hword) ⟨_, Table.sameBut_set _ name _, rfl⟩ _ _
    · exact .reply _
    · exact .reply _
    · rename_i name args hword
      have hname := Macros.Subcommand.name_of_ofName? hword
      have hasked : macroAsked? .macroBook i = some name := by
        unfold macroAsked?
        rw [ha]
        exact if_pos hname.symm
      exact .run hasked
    · rename_i name args hword
      unfold Macros.delete
      split
      · exact .change (hk ha (.inr rfl) hword) ⟨_, Table.sameBut_erase _ name, rfl⟩ _ _
      · exact .reply _
    · unfold Macros.display
      split <;> exact .reply _

theorem acts_runMacro : Acts .runMacro i s (Macros.respondRun i s) := by
  unfold Macros.respondRun
  split
  · exact .reply _
  · rename_i name args ha
    have hasked : macroAsked? .runMacro i = some name := by
      unfold macroAsked?
      rw [ha]
      rfl
    exact .run hasked

theorem acts_plugin (hs : s.PluginsNamed) : Acts .plugin i s (Plugins.respond i s) := by
  have hswitch {word name : Text} {args : List Text} (ha : i.args = word :: name :: args)
      {sub : Plugins.Subcommand} (hsub : sub = .enable ∨ sub = .disable)
      (hword : Plugins.Subcommand.ofName? word = some sub) (enabled : Bool) :
      Acts .plugin i s (Plugins.switch s name enabled) := by
    have hname := Plugins.Subcommand.name_of_ofName? hword
    have hk : component? .plugin i = some (.plugin name) := by
      unfold component?
      rw [ha]
      refine if_pos ?_
      rw [← hname]
      exact hsub.imp (congrArg _) (congrArg _)
    unfold Plugins.switch
    split
    · exact .reply _
    · rename_i h
      exact .change hk (Session.sameBut_switchPlugin hs h) _ _
  unfold Plugins.respond
  split
  · exact .reply _
  · rename_i word args ha
    split
    · exact .reply _
    · unfold Plugins.list
      split <;> exact .reply _
    · exact .reply _
    · unfold Plugins.describe
      split <;> exact .reply _
    · rename_i name args hword
      exact hswitch ha (.inl rfl) hword true
    · rename_i name args hword
      exact hswitch ha (.inr rfl) hword false

/-- A body changes no more than the component that can be told from the call. -/
theorem acts (b : Body) (i : Invocation) {s : Session} (hs : s.PluginsNamed) :
    Acts b i s (b.respond i s) := by
  match b with
  | .help =>
    rw [respond, Help.respond]
    split <;> exact .reply _
  | .clear => exact .reply _
  | .exit leaves => exact .change (k := .exiting) rfl ⟨s.exiting || leaves, rfl⟩ _ _
  | .history => exact acts_history
  | .alias => exact acts_alias
  | .unalias => exact acts_unalias
  | .whoami user => exact .reply _
  | .uptime started =>
    rw [respond]
    split <;> exact .reply _
  | .date => exact .reply _
  | .time => exact .reply _
  | .echo => exact .reply _
  | .macroBook => exact acts_macroBook
  | .runMacro => exact acts_runMacro
  | .plugin => exact acts_plugin hs
  | .weather => exact .reply _
  | .crypto => exact .reply _
  | .placeholder name owner => exact .reply _
  | .external answer => exact .reply _

end Body

/-! ## Calls -/

/-- What it means that a run from `s` changes at most the component `k?`, and nothing at all unless
it comes to an output. -/
structure Run.Confined (m : Run Outcome) (s : Session) (k? : Option Component) : Prop where
  sameBut : m.session = s ∨ ∃ k, k? = some k ∧ s.SameBut k m.session
  atomic : (∀ output, m.outcome ≠ .finished (.done output)) → m.session = s

theorem Run.confined_of_session_eq {m : Run Outcome} {s : Session} {k? : Option Component}
    (h : m.session = s) : m.Confined s k? :=
  ⟨.inl h, fun _ => h⟩

/-- One call of a body that asks for no macro. -/
theorem confined_ofCall {run : MacroRunner} {s : Session} (hs : s.PluginsNamed) (c : Command)
    {call : Invocation} (hm : c.body.macroAsked? call = none) (measured : Bool) :
    (Run.ofCall c call measured (perform run c.body call s)).Confined s
      (c.body.component? call) := by
  have ha := c.body.acts call hs
  cases hr : c.body.respond call s with
  | mk s' es next =>
    rw [hr] at ha
    cases ha with
    | reply r =>
      rw [perform_reply hr]
      exact Run.confined_of_session_eq rfl
    | run h =>
      rw [hm] at h
      cases h
    | change hk h =>
      rw [perform_reply hr]
      exact ⟨.inr ⟨_, hk, h⟩, fun hfailed => absurd rfl (hfailed _)⟩

theorem route_confined {s : Session} (hs : s.PluginsNamed) {i : Invocation}
    (hm : s.macroAsked? i = none) : (s.route i).Confined s (s.component? i) := by
  rw [route_unfolds]
  rcases routeWith_cases i s with hn | ⟨hn, hc⟩ | ⟨hn, c, hc⟩
  · rw [routeWith_nothing hn]
    exact Run.confined_of_session_eq rfl
  · rw [routeWith_unknown hn hc]
    exact Run.confined_of_session_eq rfl
  · have hcalled := Session.called?_eq_some_iff.2 ⟨hn, hc⟩
    unfold Session.macroAsked? at hm
    unfold Session.component?
    rw [hcalled] at hm ⊢
    rw [routeWith_call hn hc]
    exact confined_ofCall hs c hm _

/-- Executing a line that asks for no macro keeps the line and changes at most the component that
can be told from its call; without an output it changes nothing else than that the line is kept. -/
theorem execute_confined {s : Session} (hs : s.Reachable) {line : Text}
    (hm : s.macroAsked? (.ofLine line) = none) :
    (s.execute line).Confined (s.remember line) (s.component? (.ofLine line)) := by
  have hkept := s.registry_remember line
  have hcalled : (s.remember line).called? (.ofLine line) = s.called? (.ofLine line) := by
    unfold Session.called?
    rw [hkept]
  have hasked : (s.remember line).macroAsked? (.ofLine line) = none := by
    unfold Session.macroAsked? at hm ⊢
    rwa [hcalled, hkept]
  have hcomponent : (s.remember line).component? (.ofLine line) = s.component? (.ofLine line) := by
    unfold Session.component?
    rw [hcalled, hkept]
  have hnamed := Session.lasting_pluginsNamed.remember
    (Session.lasting_pluginsNamed.reachable hs) line
  rw [← hcomponent]
  exact route_confined hnamed hasked

/-- A session with one plugin. -/
def Session.hosting : Session :=
  (((bare ⟨⟨2026, 10, 19, 12, 34, 56⟩, 0⟩).register pluginCommand).value.addPlugin
    Demo.weatherPlugin { name := "weather", version := "1.0.0", enabled := true }).1.value

/-- The same session with `off` for disabling the plugin. -/
def Session.switching : Session :=
  (hosting.withRegistry (hosting.registry.setAlias "off" "plugin disable weather")).value

theorem Session.reachable_switching : switching.Reachable :=
  have hhosting : hosting.Reachable :=
    ((Reachable.bare _).step (.register pluginCommand)).step (.addPlugin _ _)
  have hbind : hosting.bindAlias "off" "plugin disable weather" =
      .ok ⟨switching, [.aliasBound "off" "plugin disable weather"]⟩ := rfl
  hhosting.step (.bindAlias hbind)

theorem execute_confined_off :
    Session.switching.Reachable ∧ Session.switching.macroAsked? (.ofLine "off") = none ∧
      Session.switching.component? (.ofLine "off") = some (.plugin "weather") ∧
      (Session.switching.execute "off").Confined (Session.switching.remember "off")
        (some (.plugin "weather")) ∧
      ((Session.switching.execute "off").session.plugins.get? "weather").map (·.enabled) =
        some false :=
  have hm : Session.switching.macroAsked? (.ofLine "off") = none := by decide +kernel
  have hk : Session.switching.component? (.ofLine "off") = some (.plugin "weather") := by
    decide +kernel
  have h := execute_confined Session.reachable_switching hm
  ⟨Session.reachable_switching, hm, hk, hk ▸ h, by decide +kernel⟩

end CommandShell
