import CommandShell.Setup
import CommandShell.Proofs.Run

/-!
What the adding and the switching of a plugin come to.

A plugin that is added or switched registers all its commands anew, those of a disabled plugin as
stand-ins (`get?_putPlugin`). Added under a new name it also binds its aliases, one after another.
A pair may end the binding, which is a fault then (`endsBinding`): what was done before it stays
(`addPlugin_new_eq`). Under a name that is taken nothing is done (`addPlugin_taken`).
-/

namespace CommandShell

/-! ## Many commands at once -/

/-- The last command of a name. -/
def lastNamed? (cs : List Command) (n : Text) : Option Command :=
  cs.reverse.find? fun c => c.name = n

theorem lookup_map_name (cs : List Command) (n : Text) :
    (cs.map fun c => (c.name, c)).lookup n = cs.find? fun c => c.name = n := by
  refine (Table.lookup_map Command.name id cs n).trans ?_
  rw [Option.map_id]
  exact congrArg (cs.find? ·) (funext fun c => beq_eq_decide c.name n)

/-- The command as a plugin shows it: itself, or its stand-in while the plugin is disabled. -/
def Command.shown (c : Command) (enabled : Bool) (plugin : Text) : Command :=
  if enabled then c else c.placeholder plugin

@[simp] theorem Command.shown_name (c : Command) (enabled : Bool) (plugin : Text) :
    (c.shown enabled plugin).name = c.name := by
  cases enabled <;> rfl

/-- What a plugin puts under a name: the last of its commands that has it. -/
def LoadedPlugin.command? (p : LoadedPlugin) (n : Text) : Option Command :=
  (lastNamed? p.commands n).map fun c => c.shown p.enabled p.name

theorem LoadedPlugin.lastNamed?_active (p : LoadedPlugin) (n : Text) :
    lastNamed? p.active n = p.command? n := by
  have hactive : p.active = p.commands.map fun c => c.shown p.enabled p.name := by
    unfold active Command.shown
    cases p.enabled
    · rfl
    · exact (List.map_id _).symm
  unfold command? lastNamed?
  rw [hactive, ← List.map_reverse, List.find?_map]
  congr 2
  funext c
  exact decide_eq_decide.2 (by rw [Command.shown_name])

namespace Session

/-- To register commands in turn is to set them in the table. -/
theorem registerAll_eq (s : Session) (cs : List Command) :
    (s.registerAll cs).value =
      { s with
        registry :=
          { s.registry with
            commands := s.registry.commands.setAll (cs.map fun c => (c.name, c)) } } := by
  unfold registerAll
  rw [Logged.each_value]
  induction cs generalizing s with
  | nil => rfl
  | cons c cs ih => exact ih (s.register c).value

theorem putPlugin_plugins (s : Session) (p : LoadedPlugin) :
    (s.putPlugin p).value.plugins = s.plugins.set p.name p := by
  unfold putPlugin
  rw [registerAll_eq]

theorem get?_putPlugin (s : Session) (p : LoadedPlugin) (n : Text) :
    (s.putPlugin p).value.registry.commands.get? n =
      (p.command? n).or (s.registry.commands.get? n) := by
  unfold putPlugin
  rw [registerAll_eq, ← p.lastNamed?_active, lastNamed?, ← lookup_map_name, List.map_reverse]
  exact Table.get?_setAll s.registry.commands _ n

/-- The aliases that a plugin brings touch nothing but aliases. -/
theorem bindOffered_value (s : Session) (plugin : Text) (offered : List (Text × Value)) :
    ∃ aliases, (s.bindOffered plugin offered).1.value =
      { s with registry := { s.registry with aliases } } := by
  induction offered generalizing s with
  | nil => exact ⟨s.registry.aliases, rfl⟩
  | cons offer offered ih =>
    obtain ⟨name, target⟩ := offer
    unfold bindOffered
    dsimp only
    split
    · exact ⟨s.registry.aliases, rfl⟩
    · rename_i bound hb
      have hbound : ∃ aliases, bound.value =
          { s with registry := { s.registry with aliases } } := by
        split at hb
        · cases hb
          unfold Registry.bindOrReport Registry.bindAlias
          cases Registry.aliasFault? name _ with
          | none => exact ⟨_, rfl⟩
          | some fault => exact ⟨s.registry.aliases, rfl⟩
        · split at hb
          · cases hb
            exact ⟨s.registry.aliases, rfl⟩
          · cases hb
      obtain ⟨aliases, haliases⟩ := hbound
      obtain ⟨rest, hrest⟩ := ih bound.value
      exact ⟨rest, by rw [hrest, haliases]⟩

end Session

/-! ## Adding and switching plugins -/

/-- The item is a command. -/
def Offered.isCommand : Offered → Bool
  | .command _ => true
  | .other _ => false

/-- The commands that a plugin brings under a name are the commands among the items that its hook
gives, in their order. Without a name, without a hook, or if the hook fails, there are none. -/
def Plugin.BringsCommands (p : Plugin) (name : Text) (cs : List Command) : Prop :=
  if name = [] then cs = []
  else
    match p.commands with
    | .absent | .broken => cs = []
    | .given items => cs.map .command = items.filter Offered.isCommand

theorem map_command_filterMap (items : List Offered) :
    (items.filterMap Offered.command?).map .command = items.filter Offered.isCommand := by
  induction items with
  | nil => rfl
  | cons item items ih =>
    cases item with
    | command c => exact congrArg (.command c :: ·) ih
    | other literal => exact ih

theorem Plugin.bringsCommands_load (p : Plugin) (info : PluginInfo) :
    p.BringsCommands info.name (p.load info).value.commands := by
  unfold BringsCommands Plugin.load
  by_cases hname : info.name = []
  · rw [if_pos hname, if_pos hname]
  · rw [if_neg hname, if_neg hname]
    show match p.commands with
      | .absent | .broken => (p.collectCommands info.name).value = []
      | .given items =>
        (p.collectCommands info.name).value.map .command = items.filter Offered.isCommand
    unfold collectCommands
    cases p.commands with
    | absent | broken => rfl
    | given items => exact map_command_filterMap items

/-- All targets among the aliases of a plugin are texts, as they should be. -/
def Plugin.OffersTexts (p : Plugin) : Prop :=
  ∀ pairs, p.aliases = .given pairs → ∀ pair ∈ pairs, ∃ t, pair.2 = .text t

theorem Plugin.load_info (p : Plugin) (info : PluginInfo) :
    (p.load info).value.toPluginInfo = info := by
  unfold load
  split <;> rfl

theorem Plugin.OffersTexts.load {p : Plugin} (h : p.OffersTexts) (info : PluginInfo) :
    ∀ pair ∈ (p.load info).value.aliases.entries, ∃ t, pair.2 = .text t := by
  intro pair hpair
  unfold Plugin.load at hpair
  split at hpair
  · cases hpair
  · change pair ∈ (p.collectAliases info.name).value.entries at hpair
    unfold collectAliases at hpair
    split at hpair
    · cases hpair
    · cases hpair
    · rename_i pairs hp
      exact h pairs hp pair ((Table.mem_of_mem_setAll hpair).resolve_left List.not_mem_nil)

/-- The pair ends the binding of aliases: its target is no text, and its name is none that is passed
over. -/
def endsBinding : Text × Value → Bool
  | (_, .text _) => false
  | (name, _) => !Registry.isBadName name

/-- The alias of a plugin that ends the binding of its aliases, if there is one. -/
def Plugin.misfit? (p : Plugin) (info : PluginInfo) : Option Text :=
  ((p.load info).value.aliases.entries.find? endsBinding).map Prod.fst

/-- The aliases of a plugin before that one. -/
def Plugin.fitting (p : Plugin) (info : PluginInfo) : List (Text × Value) :=
  (p.load info).value.aliases.entries.takeWhile (!endsBinding ·)

theorem Plugin.misfit?_eq_none {p : Plugin} (h : p.OffersTexts) (info : PluginInfo) :
    p.misfit? info = none := by
  unfold misfit?
  rw [Option.map_eq_none_iff, List.find?_eq_none]
  rintro ⟨name, target⟩ hpair
  obtain ⟨t, ht⟩ := h.load info _ hpair
  obtain rfl : target = .text t := ht
  exact Bool.false_ne_true

namespace Session

theorem bindOffered_cons_ends {name : Text} {target : Value}
    (h : endsBinding (name, target) = true) (s : Session) (plugin : Text)
    (offered : List (Text × Value)) :
    s.bindOffered plugin ((name, target) :: offered) = (⟨s, []⟩, some (.targetNotText name)) := by
  cases target with
  | text t => cases h
  | nothing | truth | whole | decimal | list | record =>
    have hname : ¬ Registry.isBadName name = true := by simpa [endsBinding] using h
    unfold bindOffered
    dsimp only
    rw [if_neg hname]

/-- The binding goes on after any other pair. -/
theorem bindOffered_cons_goesOn {name : Text} {target : Value}
    (h : endsBinding (name, target) = false) (s : Session) (plugin : Text) :
    ∃ bound : Logged Session, ∀ offered, s.bindOffered plugin ((name, target) :: offered) =
      let rest := bindOffered bound.value plugin offered
      (⟨rest.1.value, bound.events ++ rest.1.events⟩, rest.2) := by
  cases target with
  | text t => exact ⟨_, fun _ => rfl⟩
  | nothing | truth | whole | decimal | list | record =>
    have hname : Registry.isBadName name = true := by simpa [endsBinding] using h
    refine ⟨⟨s, [.pluginAliasRejected plugin name]⟩, fun offered => ?_⟩
    conv => lhs; unfold bindOffered
    dsimp only
    rw [if_pos hname]

/-- The fault is the first pair that ends the binding. -/
theorem bindOffered_fault_eq (s : Session) (plugin : Text) (offered : List (Text × Value)) :
    (s.bindOffered plugin offered).2 =
      (offered.find? endsBinding).map fun pair => .targetNotText pair.1 := by
  induction offered generalizing s with
  | nil => rfl
  | cons offer offered ih =>
    obtain ⟨name, target⟩ := offer
    cases h : endsBinding (name, target) with
    | true => rw [bindOffered_cons_ends h, List.find?_cons_of_pos h, Option.map_some]
    | false =>
      obtain ⟨bound, hbound⟩ := bindOffered_cons_goesOn h s plugin
      rw [hbound, List.find?_cons_of_neg (by simp [h])]
      exact ih bound.value

/-- All that is done is done for the pairs before it. -/
theorem bindOffered_takeWhile (s : Session) (plugin : Text) (offered : List (Text × Value)) :
    (s.bindOffered plugin (offered.takeWhile (!endsBinding ·))).1 =
      (s.bindOffered plugin offered).1 := by
  induction offered generalizing s with
  | nil => rfl
  | cons offer offered ih =>
    obtain ⟨name, target⟩ := offer
    cases h : endsBinding (name, target) with
    | true =>
      rw [bindOffered_cons_ends h, List.takeWhile_cons_of_neg (by simp [h])]
      rfl
    | false =>
      obtain ⟨bound, hbound⟩ := bindOffered_cons_goesOn h s plugin
      rw [List.takeWhile_cons_of_pos (by simp [h]), hbound, hbound]
      dsimp only
      rw [ih bound.value]

variable {s : Session} {p : Plugin} {info : PluginInfo}

/-- A name that is taken is refused. -/
theorem addPlugin_taken (h : (s.plugins.get? info.name).isSome = true) :
    s.addPlugin p info = (⟨s, []⟩, some (.loaded info.name)) := by
  unfold addPlugin
  rw [if_pos (show s.plugins.contains info.name = true from h)]

/-- Under a new name the commands of a plugin are registered, then its aliases are bound. -/
theorem addPlugin_new (h : s.plugins.get? info.name = none) :
    ((s.addPlugin p info).1.value, (s.addPlugin p info).2) =
      (((s.putPlugin (p.load info).value).value.bindOffered info.name
          (p.load info).value.aliases.entries).1.value,
        ((s.putPlugin (p.load info).value).value.bindOffered info.name
          (p.load info).value.aliases.entries).2) := by
  have hnew : ¬ s.plugins.contains info.name = true := by
    unfold Table.contains
    rw [h]
    exact Bool.false_ne_true
  unfold addPlugin
  rw [if_neg hnew]
  rfl

theorem addPlugin_new_value (h : s.plugins.get? info.name = none) :
    (s.addPlugin p info).1.value.plugins = s.plugins.set info.name (p.load info).value ∧
      ∀ n, (s.addPlugin p info).1.value.registry.commands.get? n =
        ((p.load info).value.command? n).or (s.registry.commands.get? n) := by
  obtain ⟨hvalue, -⟩ := Prod.mk.inj (addPlugin_new h (p := p))
  obtain ⟨aliases, haliases⟩ := (s.putPlugin (p.load info).value).value.bindOffered_value info.name
    (p.load info).value.aliases.entries
  have hname : (p.load info).value.name = info.name := by rw [p.load_info]
  rw [hvalue, haliases, ← hname]
  exact ⟨s.putPlugin_plugins _, fun n => s.get?_putPlugin _ n⟩

/-- Adding a plugin changes what is registered and what is known of plugins, and nothing else. -/
theorem addPlugin_value (s : Session) (p : Plugin) (info : PluginInfo) :
    ∃ registry plugins, (s.addPlugin p info).1.value = { s with registry, plugins } := by
  by_cases htaken : (s.plugins.get? info.name).isSome = true
  · rw [addPlugin_taken htaken]
    exact ⟨s.registry, s.plugins, rfl⟩
  · obtain ⟨hvalue, -⟩ := Prod.mk.inj
      (addPlugin_new (Option.not_isSome_iff_eq_none.1 htaken) (p := p))
    obtain ⟨aliases, haliases⟩ := (s.putPlugin (p.load info).value).value.bindOffered_value
      info.name (p.load info).value.aliases.entries
    rw [hvalue, haliases]
    unfold putPlugin
    rw [registerAll_eq]
    exact ⟨_, _, rfl⟩

/-- What an add under a new name comes to: the plugin comes in with its commands, and its aliases
are bound up to the one that ends the binding, which is the fault. -/
theorem addPlugin_new_eq (h : s.plugins.get? info.name = none) :
    (s.addPlugin p info).2 = (p.misfit? info).map .targetNotText ∧
      (s.addPlugin p info).1.value =
        ((s.putPlugin (p.load info).value).value.bindOffered info.name
          (p.fitting info)).1.value := by
  obtain ⟨hvalue, hfault⟩ := Prod.mk.inj (addPlugin_new h (p := p))
  rw [hvalue, hfault, bindOffered_fault_eq, Plugin.misfit?, Option.map_map, Plugin.fitting,
    bindOffered_takeWhile]
  exact ⟨rfl, rfl⟩

/-- A hook gives a command, something else and the command again, without a description. While the
plugin is disabled a stand-in for the last one can be called, and then that one itself. -/
example :
    let ping : Command :=
      { name := "ping", description := "Answer", body := .external fun _ => .say "pong" }
    let plugin : Plugin :=
      { commands := .given [.command ping, .other "5", .command { ping with description := [] }]
        aliases := .given [("p", .text "ping")] }
    let s := ((Session.bare ⟨⟨2026, 10, 19, 12, 34, 56⟩, 0⟩).addPlugin plugin
      { name := "net", version := "1", enabled := false }).1.value
    s.registry.commandList.map (·.description) = [" (disabled)"] ∧
      (s.execute "p").outcome = .finished (.done "ping: plugin 'net' is disabled") ∧
      (s.switchPlugin "net" true).map (fun switched => (switched.value.execute "p").outcome) =
        some (.finished (.done "pong")) := by
  decide +kernel

/-- A plugin whose aliases are in order is added without a fault. -/
theorem addPlugin_fault (h : s.plugins.get? info.name = none) (hp : p.OffersTexts) :
    (s.addPlugin p info).2 = none := by
  rw [(addPlugin_new_eq h).1, Plugin.misfit?_eq_none hp]
  rfl

theorem switchPlugin_eq (s : Session) (name : Text) (enabled : Bool) :
    (s.switchPlugin name enabled).map (·.value) =
      (s.plugins.get? name).map fun p => (s.putPlugin { p with enabled }).value := by
  unfold switchPlugin
  rw [Option.map_map]
  rfl

end Session

end CommandShell
