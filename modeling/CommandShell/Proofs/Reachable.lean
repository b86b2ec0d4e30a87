import CommandShell.Setup
import CommandShell.Proofs.Termination

/-!
The sessions that a shell can come to.

`Session.Step` lists what is done to a session from outside: lines and invocations are routed, a
macro is run, and commands, aliases, plugins and macros are registered by hand. A property that is
kept when one command is registered and one alias is bound is kept when a plugin is added
(`Elementary.addPlugin`). A property that no operation spoils (`Stable`) is kept by every step, so
it holds of all sessions that are reached if it holds of the bare ones (`Lasting.reachable`).

Every session that is reached is proper (`Reachable.proper`): each of its aliases passed the check
that it is bound under, and no macro is running. The session that a shell starts with is among them
(`reachable_ofSettings`).
-/

namespace CommandShell

namespace Session

/-- Every alias has been checked, and just the macros `running` are running. -/
structure Proper (running : List Text) (s : Session) : Prop where
  built : s.registry.Built
  running_eq : s.macros.running = running

/-- What can be done to a session from outside. -/
inductive Step (s : Session) : Session → Prop
  | execute (line : Text) : Step s (s.execute line).session
  | route (i : Invocation) : Step s (s.route i).session
  | runMacro (name : Text) : Step s (s.runMacro name).session
  | runOutside (b : MacroBook) (name : Text) : Step s (b.runOutside router name s).session
  | register (c : Command) : Step s (s.register c).value
  | bindAlias {name target : Text} {bound : Logged Session}
      (h : s.bindAlias name target = .ok bound) : Step s bound.value
  | removeAlias (name : Text) : Step s (s.removeAlias name).value
  | addPlugin (p : Plugin) (info : PluginInfo) : Step s (s.addPlugin p info).1.value
  | switchPlugin {name : Text} {enabled : Bool} {switched : Logged Session}
      (h : s.switchPlugin name enabled = some switched) : Step s switched.value
  | defineMacro (name : Text) (lines : List Text) :
      Step s { s with macros := (s.macros.define name lines).value }
  | deleteMacro (name : Text) : Step s { s with macros := s.macros.delete name }
  | clearHistory : Step s { s with history := [] }
  | setClock (clock : Clock) : Step s { s with clock }

/-- The sessions that come about from a bare one, step by step. -/
inductive Reachable : Session → Prop
  | bare (clock : Clock) : Reachable (.bare clock)
  | step {s t : Session} (h : Reachable s) (hst : s.Step t) : Reachable t

/-! ## Operations on the registry -/

theorem registerAll_induct {P : Session → Prop} {cs : List Command}
    (register : ∀ c ∈ cs, ∀ s, P s → P (s.register c).value) {s : Session} (hs : P s) :
    P (s.registerAll cs).value := by
  unfold Session.registerAll
  rw [Logged.each_value]
  induction cs generalizing s with
  | nil => exact hs
  | cons c cs ih =>
    have hfirst := register c List.mem_cons_self s hs
    exact ih (fun d hd => register d (List.mem_cons_of_mem c hd)) hfirst

/-- An alias that is not bound is reported, and the session stays as it is. -/
theorem bindOrReport_induct {P : Session → Prop} {s : Session} {name target : Text}
    (bind : ∀ bound, s.bindAlias name target = .ok bound → P bound.value) (hs : P s)
    (report : Text → Event) :
    P (s.withRegistry (s.registry.bindOrReport report name target)).value := by
  unfold Registry.bindOrReport
  cases hb : s.registry.bindAlias name target with
  | error fault => exact hs
  | ok bound =>
    have hbind : s.bindAlias name target = .ok (s.withRegistry bound) := by
      unfold Session.bindAlias
      rw [hb]
      rfl
    exact bind _ hbind

/-- A property of sessions that is kept when a command is registered and when an alias is bound,
whatever is known of plugins. -/
structure Elementary (P : Session → Prop) : Prop where
  register : ∀ {s}, P s → ∀ c, P (s.register c).value
  bindAlias : ∀ {s name target bound}, P s → s.bindAlias name target = .ok bound → P bound.value
  plugins : ∀ {s}, P s → ∀ plugins, P { s with plugins }

namespace Elementary

variable {P : Session → Prop} (h : Elementary P) {s : Session}

include h

theorem putPlugin (hs : P s) (p : LoadedPlugin) : P (s.putPlugin p).value :=
  have hput := h.plugins hs (s.plugins.set p.name p)
  registerAll_induct (P := P) (fun c _ _ hs => h.register hs c) hput

theorem switchPlugin {name : Text} {enabled : Bool} {switched : Logged Session} (hs : P s)
    (hp : s.switchPlugin name enabled = some switched) : P switched.value := by
  unfold Session.switchPlugin at hp
  obtain ⟨p, -, rfl⟩ := Option.map_eq_some_iff.1 hp
  exact h.putPlugin hs _

theorem bindOffered (hs : P s) (plugin : Text) (offered : List (Text × Value)) :
    P (s.bindOffered plugin offered).1.value := by
  induction offered generalizing s with
  | nil => exact hs
  | cons offer offered ih =>
    obtain ⟨name, target⟩ := offer
    unfold Session.bindOffered
    dsimp only
    split
    · exact hs
    · rename_i bound hb
      -- Either the alias is bound or reported, or the session stays as it is.
      refine ih ?_
      split at hb
      · cases hb
        exact bindOrReport_induct (fun _ hb => h.bindAlias hs hb) hs _
      · split at hb
        · cases hb
          exact hs
        · cases hb

theorem addPlugin (hs : P s) (p : Plugin) (info : PluginInfo) : P (s.addPlugin p info).1.value := by
  unfold Session.addPlugin
  split
  · exact hs
  · exact h.bindOffered (h.putPlugin hs _) _ _

end Elementary

/-! ## Steps -/

/-- The macros of a book outside the session keep what single steps keep. -/
theorem Kept.runOutside {P : Session → Prop} (h : Kept (fun _ => True) P) (b : MacroBook)
    (name : Text) {s : Session} (hs : P s) : P (b.runOutside router name s).session := by
  unfold MacroBook.runOutside
  cases b.linesToRun name with
  | error fault => exact hs
  | ok lines =>
    have hroute (i : Invocation) (_ : True) (s : Session) (hs : P s) : P (router i s).session :=
      h.route trivial hs
    exact Kept.routeLines (P := P) hroute name (fun _ _ => trivial) [] hs

/-- A property of sessions that no operation spoils. It is about commands, aliases and plugins, so
the rest of a session may be anything. -/
structure Stable (P : Session → Prop) : Prop where
  register : ∀ {s}, P s → ∀ c, P (s.register c).value
  bindAlias : ∀ {s name target bound}, P s → s.bindAlias name target = .ok bound → P bound.value
  removeAlias : ∀ {s}, P s → ∀ name, P (s.removeAlias name).value
  addPlugin : ∀ {s}, P s → ∀ p info, P (s.addPlugin p info).1.value
  switchPlugin : ∀ {s name enabled switched}, P s → s.switchPlugin name enabled = some switched →
    P switched.value
  rest : ∀ {s}, P s → ∀ macros history exiting clock, P { s with macros, history, exiting, clock }

/-- A stable property that a bare session has. -/
structure Lasting (P : Session → Prop) : Prop extends Stable P where
  bare : ∀ clock, P (.bare clock)

/-- A property of the registry alone is stable if what feeds the registry keeps it. -/
theorem stable_of_registry {R : Registry → Prop}
    (register : ∀ {r}, R r → ∀ c, R (r.register c).value)
    (bindAlias : ∀ {r name target bound}, R r → r.bindAlias name target = .ok bound → R bound.value)
    (removeAlias : ∀ {r}, R r → ∀ name, R (r.removeAlias name).value) :
    Stable fun s => R s.registry :=
  have elementary : Elementary fun s => R s.registry :=
    { register := register
      bindAlias := fun hs hb => by
        obtain ⟨r, hr, rfl⟩ := bindAlias_eq_ok hb
        exact bindAlias hs hr
      plugins := fun hs _ => hs }
  { register := register
    bindAlias := elementary.bindAlias
    removeAlias := removeAlias
    addPlugin := elementary.addPlugin
    switchPlugin := elementary.switchPlugin
    rest := fun hs _ _ _ _ => hs }

namespace Stable

variable {P : Session → Prop} (h : Stable P)

include h

theorem kept : Kept (fun _ => True) P where
  change := by
    intro i s b s' _ hs _ hc
    cases hc with
    | leave | forget | define | delete => exact h.rest hs _ _ _ _
    | unbind => exact h.removeAlias hs _
    | bind _ hb => exact h.bindAlias hs hb
    | switch hp => exact h.switchPlugin hs hp
  lines _ _ _ _ := trivial
  enter hs _ := h.rest hs _ _ _ _
  leave hs _ := h.rest hs _ _ _ _

theorem route {s : Session} (hs : P s) (i : Invocation) : P (s.route i).session :=
  h.kept.route trivial hs

theorem remember {s : Session} (hs : P s) (line : Text) : P (s.remember line) := by
  unfold Session.remember
  split
  · exact hs
  · exact h.rest hs _ _ _ _

theorem execute {s : Session} (hs : P s) (line : Text) : P (s.execute line).session :=
  h.route (h.remember hs line) _

theorem step {s t : Session} (hst : s.Step t) (hs : P s) : P t := by
  cases hst with
  | execute line => exact h.execute hs line
  | route i => exact h.route hs i
  | runMacro name => exact h.kept.runMacroWith (fun i _ s hs => h.route hs i) name hs
  | runOutside b name => exact h.kept.runOutside b name hs
  | register c => exact h.register hs c
  | bindAlias hb => exact h.bindAlias hs hb
  | removeAlias name => exact h.removeAlias hs name
  | addPlugin p info => exact h.addPlugin hs p info
  | switchPlugin hp => exact h.switchPlugin hs hp
  | defineMacro | deleteMacro | clearHistory | setClock => exact h.rest hs _ _ _ _

end Stable

/-- What no operation spoils holds of every session that is reached. -/
theorem Lasting.reachable {P : Session → Prop} (h : Lasting P) {s : Session} (hs : s.Reachable) :
    P s := by
  induction hs with
  | bare clock => exact h.bare clock
  | step _ hst ih => exact h.step hst ih

/-- Nothing spoils what is built. -/
theorem stable_built : Stable fun s => s.registry.Built :=
  stable_of_registry (fun h c => h.register c) (fun h hb => h.bindAlias hb)
    fun h name => h.removeAlias name

theorem running_runOutside (b : MacroBook) (name : Text) (s : Session) :
    (b.runOutside router name s).session.macros.running = s.macros.running := by
  unfold MacroBook.runOutside
  cases b.linesToRun name with
  | error fault => rfl
  | ok lines => exact running_routeLines running_router name [] lines s

theorem Step.running_eq {s t : Session} (hst : s.Step t) : t.macros.running = s.macros.running := by
  have elementary : Elementary fun t => t.macros.running = s.macros.running :=
    { register := fun ht _ => ht
      bindAlias := fun ht hb => by
        obtain ⟨-, hv⟩ := bindAlias_value hb
        rwa [hv]
      plugins := fun ht _ => ht }
  cases hst with
  | execute line =>
    have hkept : (s.remember line).macros = s.macros := by
      unfold Session.remember
      split <;> rfl
    exact (running_router _ _).trans (congrArg MacroBook.running hkept)
  | route i => exact running_router i s
  | runMacro name => exact running_runMacroWith running_router name s
  | runOutside b name => exact running_runOutside b name s
  | bindAlias hb => exact elementary.bindAlias rfl hb
  | addPlugin p info => exact elementary.addPlugin rfl p info
  | switchPlugin hp => exact elementary.switchPlugin rfl hp
  | register | removeAlias | defineMacro | deleteMacro | clearHistory | setClock => rfl

/-- Between two steps no macro is running, and every alias has been checked. -/
theorem Reachable.proper {s : Session} (h : s.Reachable) : s.Proper [] := by
  induction h with
  | bare clock => exact ⟨.empty, rfl⟩
  | step _ hst ih => exact ⟨stable_built.step hst ih.built, hst.running_eq.trans ih.running_eq⟩

/-! ## The session at the start -/

section Start

variable {P : Session → Prop}

theorem addPlugins_induct {disabled : List Text} {plugins : List (Text × Text × Plugin)}
    (add : ∀ entry ∈ plugins, ∀ s info, P s → P (s.addPlugin entry.2.2 info).1.value) {s : Session}
    (hs : P s) : P (addPlugins disabled plugins s).1.value := by
  induction plugins generalizing s with
  | nil => exact hs
  | cons entry plugins ih =>
    have hfirst := add entry List.mem_cons_self
    obtain ⟨name, version, plugin⟩ := entry
    have hadded := hfirst s { name, version, enabled := name ∉ disabled } hs
    cases hp : s.addPlugin plugin { name, version, enabled := name ∉ disabled } with
    | mk added fault =>
      rw [hp] at hadded
      rw [addPlugins_cons, hp]
      cases fault with
      | none => exact ih (fun entry he => add entry (List.mem_cons_of_mem _ he)) hadded
      | some fault => exact hadded

theorem addAliases_induct
    (bind : ∀ s name target bound, s.bindAlias name target = .ok bound → P s → P bound.value)
    (aliases : Table Text) {s : Session} (hs : P s) : P (s.addAliases aliases).value := by
  unfold Session.addAliases Registry.bindAliases
  generalize aliases.entries = entries
  induction entries generalizing s with
  | nil => exact hs
  | cons entry entries ih =>
    have hfirst := bindOrReport_induct (fun bound hb => bind s entry.1 entry.2 bound hb hs) hs
      .settingsAliasRejected
    exact ih hfirst

/-- The session of a shell is set up by registering the built-in commands, adding the demonstration
plugins and binding aliases. -/
theorem ofSettings_induct (settings : Settings) (clock : Clock) (bare : P (.bare clock))
    (register : ∀ c ∈ builtinCommands settings.user true clock.seconds ++ [pluginCommand],
      ∀ s, P s → P (s.register c).value)
    (add : ∀ entry ∈ Demo.plugins, ∀ s info, P s → P (s.addPlugin entry.2.2 info).1.value)
    (bind : ∀ s name target bound, s.bindAlias name target = .ok bound → P s → P bound.value) :
    P (ofSettings settings clock).value :=
  have hbuiltin := registerAll_induct register bare
  have hplugins : P (addPlugins settings.disabledPlugins Demo.plugins _).1.value :=
    addPlugins_induct add hbuiltin
  addAliases_induct bind settings.aliases hplugins

end Start

/-- A shell starts with a session that is reached from a bare one. -/
theorem reachable_ofSettings (settings : Settings) (clock : Clock) :
    (ofSettings settings clock).value.Reachable :=
  ofSettings_induct settings clock (.bare clock) (fun c _ _ hs => hs.step (.register c))
    (fun entry _ _ info hs => hs.step (.addPlugin entry.2.2 info))
    fun _ _ _ _ hb hs => hs.step (.bindAlias hb)

end Session

end CommandShell
