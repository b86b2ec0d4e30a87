import CommandShell.Proofs.Adding
import CommandShell.Proofs.WellFormed

/-!
Aliases that come with the settings and with plugins.

Both bind a whole table of aliases, pair by pair, and a pair that cannot be bound is passed over. So
the pairs that can be bound are put over the aliases that were there, as if the others had not been
listed (`Registry.bindAliases_eq`, `Session.bindOffered_eq`), and nothing else is touched. What this
means for single names is `Session.Layered`.
* `Session.adds_of_brings`: a plugin with a new name is added, whatever aliases it brings;
* `Session.addPlugins_fault`: so plugins with new names are added one after another;
* `Session.starts`: a shell starts, whatever aliases are in its settings;
* `aliases_layered` puts the two places where aliases come in side by side.
-/

namespace CommandShell

namespace Registry

/-! ## Pairs that can be bound -/

instance (name target : Text) : Decidable (FitAlias name target) :=
  decidable_of_iff _ aliasFault?_eq_none_iff

/-- The pairs that can be bound, in their order. -/
def fitPairs (pairs : List (Text × Text)) : List (Text × Text) :=
  pairs.filter fun e => FitAlias e.1 e.2

/-- The registry with the pairs that can be bound put over its aliases. -/
def overlaid (r : Registry) (pairs : List (Text × Text)) : Registry :=
  { r with aliases := r.aliases.setAll (fitPairs pairs) }

/-- What the log tells of a pair. -/
def bindEvent (report : Text → Event) (e : Text × Text) : Event :=
  if FitAlias e.1 e.2 then .aliasBound e.1 e.2 else report e.1

theorem overlaid_cons (r : Registry) (e : Text × Text) (es : List (Text × Text)) :
    r.overlaid (e :: es) = (r.overlaid [e]).overlaid es := by
  unfold overlaid fitPairs
  rw [← List.singleton_append, List.filter_append, Table.setAll_append]

/-- A pair that can be bound is bound, any other is reported. -/
theorem bindOrReport_eq (r : Registry) (report : Text → Event) (name target : Text) :
    r.bindOrReport report name target =
      ⟨r.overlaid [(name, target)], [bindEvent report (name, target)]⟩ := by
  unfold bindOrReport bindAlias overlaid fitPairs bindEvent
  by_cases hfit : FitAlias name target
  · rw [aliasFault?_eq_none_iff.2 hfit, List.filter_cons_of_pos (by simpa using hfit), if_pos hfit]
    rfl
  · obtain ⟨fault, hfault⟩ := Option.ne_none_iff_exists'.1 (mt aliasFault?_eq_none_iff.1 hfit)
    rw [hfault, List.filter_cons_of_neg (by simpa using hfit), if_neg hfit]
    rfl

/-- The pairs that can be bound are bound in turn, whatever stands between them. -/
theorem bindAliases_eq (r : Registry) (report : Text → Event) (pairs : List (Text × Text)) :
    r.bindAliases report pairs = ⟨r.overlaid pairs, pairs.map (bindEvent report)⟩ := by
  unfold bindAliases
  induction pairs generalizing r with
  | nil => rfl
  | cons e es ih =>
    rw [Logged.each]
    dsimp only
    rw [bindOrReport_eq, Logged.andThen, ih, overlaid_cons r e es]
    rfl

end Registry

/-! ## What plugins bring -/

/-- An alias as a plugin brings it. -/
def offeredPair (e : Text × Text) : Text × Value := (e.1, .text e.2)

/-- The aliases that a plugin brings, all of them texts. Without a hook, or if the hook fails, there
are none. -/
def Plugin.Brings (p : Plugin) (aliases : Table Text) : Prop :=
  match p.aliases with
  | .absent | .broken => aliases = Table.empty
  | .given pairs => pairs = aliases.entries.map offeredPair

theorem Plugin.Brings.load {p : Plugin} {aliases : Table Text} (h : p.Brings aliases)
    {info : PluginInfo} (hname : info.name ≠ []) :
    (p.load info).value.aliases.entries = aliases.entries.map offeredPair := by
  have hload : (p.load info).value.aliases = (p.collectAliases info.name).value := by
    unfold Plugin.load
    rw [if_neg hname]
    rfl
  rw [hload]
  unfold Plugin.Brings at h
  unfold collectAliases
  cases ha : p.aliases with
  | absent | broken =>
    rw [ha] at h
    subst h
    rfl
  | given pairs =>
    rw [ha] at h
    subst h
    have hdistinct : ((aliases.entries.map offeredPair).map Prod.fst).Nodup := by
      rw [List.map_map]
      exact aliases.distinct
    exact Table.entries_setAll (t := Table.empty) hdistinct

theorem Demo.offersTexts : ∀ entry ∈ Demo.plugins, entry.2.2.OffersTexts := by
  intro entry hentry pairs hpairs pair hpair
  rcases List.mem_cons.1 hentry with rfl | hentry
  · cases hpairs
  · obtain rfl := List.mem_singleton.1 hentry
    cases hpairs
    rcases List.mem_cons.1 hpair with rfl | hpair
    · exact ⟨_, rfl⟩
    · obtain rfl := List.mem_singleton.1 hpair
      exact ⟨_, rfl⟩

namespace Session

/-- The aliases of a plugin are bound in turn, whatever stands between them. -/
theorem bindOffered_eq (s : Session) (plugin : Text) (pairs : List (Text × Text)) :
    s.bindOffered plugin (pairs.map offeredPair) =
      (⟨{ s with registry := s.registry.overlaid pairs },
        pairs.map (Registry.bindEvent (.pluginAliasRejected plugin))⟩, none) := by
  induction pairs generalizing s with
  | nil => rfl
  | cons e es ih =>
    rw [List.map_cons, offeredPair, bindOffered]
    dsimp only
    rw [Registry.bindOrReport_eq, withRegistry, ih, Registry.overlaid_cons s.registry e es]
    rfl

end Session

/-! ## Aliases put over one another -/

namespace Table

variable {α : Type} {t : Table α} {es : List (Text × α)} {k : Text} {v : α}

theorem get?_setAll_of_not_mem (h : k ∉ es.map Prod.fst) : (t.setAll es).get? k = t.get? k := by
  induction es generalizing t with
  | nil => rfl
  | cons e es ih =>
    obtain ⟨hne, hes⟩ := not_or.1 fun hm => h (List.mem_cons.2 hm)
    rw [setAll_cons, ih hes, get?_set, if_neg hne]

theorem get?_setAll_of_mem (hes : (es.map Prod.fst).Nodup) (h : (k, v) ∈ es) :
    (t.setAll es).get? k = some v := by
  induction es generalizing t with
  | nil => cases h
  | cons e es ih =>
    obtain ⟨hnew, hrest⟩ := List.nodup_cons.1 hes
    rw [setAll_cons]
    rcases List.mem_cons.1 h with rfl | h
    · rw [get?_setAll_of_not_mem hnew, get?_set, if_pos rfl]
    · exact ih hrest h

theorem get?_of_mem (h : (k, v) ∈ t.entries) : t.get? k = some v := by
  conv => lhs; rw [← ofList_entries t]
  exact get?_setAll_of_mem t.distinct h

end Table

namespace Session

open Registry (FitAlias fitPairs)

/-- What it means that `t` has the aliases of `s` with those of a table over them, but for those
that cannot be bound. -/
structure Layered (s : Session) (aliases : Table Text) (t : Session) : Prop where
  /-- The pairs that can be bound are set in the order of the table. -/
  aliases_eq : t.registry.aliases = s.registry.aliases.setAll (fitPairs aliases.entries)
  /-- Each of them stands for its target, whatever stood there before. -/
  bound : ∀ name target, aliases.get? name = some target → FitAlias name target →
    t.registry.aliases.get? name = some target
  /-- Any other name stands for what it stood for before. -/
  kept : ∀ name, (∀ target, aliases.get? name = some target → ¬ FitAlias name target) →
    t.registry.aliases.get? name = s.registry.aliases.get? name

theorem layered_of_eq {s t : Session} {aliases : Table Text}
    (h : t.registry.aliases = s.registry.aliases.setAll (fitPairs aliases.entries)) :
    s.Layered aliases t := by
  -- A table has each name once, so no pair of it takes the place of another.
  have hsub : List.Sublist (fitPairs aliases.entries) aliases.entries := List.filter_sublist
  have hdistinct : ((fitPairs aliases.entries).map Prod.fst).Nodup :=
    aliases.distinct.sublist (hsub.map _)
  refine ⟨h, fun name target hname hfit => ?_, fun name hnone => ?_⟩
  · have hmem : (name, target) ∈ fitPairs aliases.entries :=
      List.mem_filter.2 ⟨mem_of_lookup hname, by simpa using hfit⟩
    rw [h, Table.get?_setAll_of_mem hdistinct hmem]
  · have hnot : name ∉ (fitPairs aliases.entries).map Prod.fst := by
      intro hm
      obtain ⟨⟨name, target⟩, hpair, rfl⟩ := List.mem_map.1 hm
      obtain ⟨hentry, hfit⟩ := List.mem_filter.1 hpair
      exact hnone target (Table.get?_of_mem hentry) (by simpa using hfit)
    rw [h, Table.get?_setAll_of_not_mem hnot]

/-! ## Plugins with aliases -/

section AddPlugin

variable {s : Session} {p : Plugin} {info : PluginInfo} {aliases : Table Text}

/-- A plugin that is added comes in with its commands, and with its aliases put over those that were
there. -/
theorem addPlugin_brings (hnew : s.plugins.get? info.name = none) (hname : info.name ≠ [])
    (hp : p.Brings aliases) :
    (s.addPlugin p info).1.value =
        { (s.putPlugin (p.load info).value).value with
          registry := (s.putPlugin (p.load info).value).value.registry.overlaid aliases.entries } ∧
      (s.addPlugin p info).2 = none := by
  obtain ⟨hvalue, hfault⟩ := Prod.mk.inj (addPlugin_new hnew (p := p))
  rw [hp.load hname, bindOffered_eq] at hvalue hfault
  exact ⟨hvalue, hfault⟩

theorem aliases_putPlugin (s : Session) (p : LoadedPlugin) :
    (s.putPlugin p).value.registry.aliases = s.registry.aliases := by
  unfold putPlugin
  rw [registerAll_eq]

/-- The commands of a plugin are registered; its aliases touch no command. -/
theorem commands_addPlugin (hnew : s.plugins.get? info.name = none) :
    (s.addPlugin p info).1.value.registry.commands =
      s.registry.commands.setAll ((p.load info).value.active.map fun c => (c.name, c)) := by
  obtain ⟨hvalue, -⟩ := Prod.mk.inj (addPlugin_new hnew (p := p))
  obtain ⟨bound, hbound⟩ := (s.putPlugin (p.load info).value).value.bindOffered_value info.name
    (p.load info).value.aliases.entries
  rw [hvalue, hbound]
  unfold putPlugin
  rw [registerAll_eq]

theorem active_load (p : Plugin) (info : PluginInfo) (offer : Offer (List (Text × Value))) :
    (Plugin.load { p with aliases := offer } info).value.active = (p.load info).value.active := by
  unfold Plugin.load
  split
  · rfl
  · rfl

/-- What it means that a plugin is added with some aliases. -/
structure Adds (s : Session) (p : Plugin) (info : PluginInfo) (aliases : Table Text) : Prop where
  added : (s.addPlugin p info).2 = none
  info_eq : (s.addPlugin p info).1.value.pluginInfo info.name = .ok info
  layered : s.Layered aliases (s.addPlugin p info).1.value
  /-- The commands are those that there would be whatever the plugin said of aliases. -/
  commands_eq : ∀ offer, (s.addPlugin { p with aliases := offer } info).1.value.registry.commands =
    (s.addPlugin p info).1.value.registry.commands

theorem adds_of_brings (hnew : s.plugins.get? info.name = none) (hname : info.name ≠ [])
    (hp : p.Brings aliases) : s.Adds p info aliases where
  added := (addPlugin_brings hnew hname hp).2
  info_eq := by
    unfold pluginInfo
    rw [(addPlugin_new_value hnew).1, Table.get?_set, if_pos rfl]
    exact congrArg Except.ok (p.load_info info)
  layered := by
    apply layered_of_eq
    rw [(addPlugin_brings hnew hname hp).1]
    exact congrArg (Table.setAll · _) (s.aliases_putPlugin _)
  commands_eq offer := by
    rw [commands_addPlugin hnew, commands_addPlugin hnew, active_load]

end AddPlugin

/-! ## The session at the start -/

/-- Plugins with new names, each of another one, are added one after another. -/
theorem addPlugins_fault {disabled : List Text} {plugins : List (Text × Text × Plugin)}
    {s : Session}
    (hnew : ∀ entry ∈ plugins, s.plugins.get? entry.1 = none)
    (hdistinct : (plugins.map Prod.fst).Nodup)
    (htexts : ∀ entry ∈ plugins, entry.2.2.OffersTexts) :
    (addPlugins disabled plugins s).2 = none := by
  induction plugins generalizing s with
  | nil => rfl
  | cons entry plugins ih =>
    obtain ⟨name, version, plugin⟩ := entry
    obtain ⟨hother, hrest⟩ := List.nodup_cons.1 hdistinct
    let info : PluginInfo := { name, version, enabled := name ∉ disabled }
    have hfirst : s.plugins.get? info.name = none := hnew _ List.mem_cons_self
    have hfault : (s.addPlugin plugin info).2 = none :=
      addPlugin_fault hfirst (htexts _ List.mem_cons_self)
    have hplugins := (addPlugin_new_value hfirst (p := plugin)).1
    have hadded : s.addPlugin plugin info = ((s.addPlugin plugin info).1, none) :=
      Prod.ext rfl hfault
    rw [addPlugins_cons, hadded]
    refine ih (fun entry hentry => ?_) hrest fun entry hentry =>
      htexts entry (List.mem_cons_of_mem _ hentry)
    -- The names to come are new still: each of them is another than the one just taken.
    have hne : entry.1 ≠ info.name := by
      intro he
      have hmem : entry.1 ∈ plugins.map Prod.fst := List.mem_map_of_mem hentry
      rw [he] at hmem
      exact hother hmem
    rw [hplugins, Table.get?_set, if_neg hne, hnew entry (List.mem_cons_of_mem _ hentry)]

theorem addDemoPlugins_fault {s : Session} (h : s.plugins = Table.empty) (disabled : List Text) :
    (s.addDemoPlugins disabled).2 = none := by
  refine addPlugins_fault (fun entry _ => ?_) (by decide) Demo.offersTexts
  rw [h, Table.get?_empty]

/-- What a shell starts from before the aliases of its settings are bound, and the fault that adding
the demonstration plugins ended with, if any. -/
def furnish (settings : Settings) (clock : Clock) : Logged Session × Option PluginFault :=
  ((bare clock).addBuiltins settings.user true true).value.addDemoPlugins settings.disabledPlugins

section Start

variable (settings : Settings) (clock : Clock)

theorem furnish_fault : (furnish settings clock).2 = none := by
  apply addDemoPlugins_fault
  unfold addBuiltins
  rw [registerAll_eq]
  rfl

theorem ofSettings_value :
    (ofSettings settings clock).value =
      { (furnish settings clock).1.value with
        registry :=
          (furnish settings clock).1.value.registry.overlaid settings.aliases.entries } := by
  have haliases : (ofSettings settings clock).value =
      ((furnish settings clock).1.value.addAliases settings.aliases).value := rfl
  rw [haliases]
  unfold addAliases
  rw [Registry.bindAliases_eq]
  rfl

/-- What it means that a shell starts with its settings. -/
structure Starts : Prop where
  /-- All of the demonstration plugins can be added. -/
  furnished : (furnish settings clock).2 = none
  layered :
    (furnish settings clock).1.value.Layered settings.aliases (ofSettings settings clock).value
  /-- The commands are those that there would be with any other aliases. -/
  commands_eq : ∀ aliases,
    (ofSettings { settings with aliases } clock).value.registry.commands =
      (ofSettings settings clock).value.registry.commands

theorem starts : Starts settings clock where
  furnished := furnish_fault settings clock
  layered := by
    apply layered_of_eq
    rw [ofSettings_value]
    rfl
  commands_eq aliases := by
    rw [ofSettings_value, ofSettings_value]
    rfl

end Start

end Session

/-- Aliases that cannot be bound cost no others: a shell starts whatever aliases are in its
settings, a plugin with a new name is added whatever aliases it brings, and the aliases that can be
bound are put over those that were there, with no command touched. -/
theorem aliases_layered :
    (∀ settings clock, Session.Starts settings clock) ∧
      ∀ (s : Session) (p : Plugin) (info : PluginInfo) (aliases : Table Text),
        s.plugins.get? info.name = none → info.name ≠ [] → p.Brings aliases →
        s.Adds p info aliases :=
  ⟨Session.starts, fun _ _ _ _ => Session.adds_of_brings⟩

/-- Aliases without a name, with a blank in the name and with a target that begins with nothing, and
between them one that takes the name of a plugin's alias and one that is new. -/
def mixedAliases : Table Text :=
  ⟨[("", "help"), ("a b", "help"), ("btc", "echo mine"), ("bad", "'' x"), ("ok", "help")],
    by decide⟩

/-- A plugin that brings just these. -/
def mixedPlugin : Plugin where
  aliases := .given (mixedAliases.entries.map offeredPair)

def mixedInfo : PluginInfo := { name := "mixed", version := "0.0.0", enabled := true }

/-- A session with the plugin of coin prices, which has an alias `btc` too. -/
def Session.pricing : Session :=
  ((bare ⟨⟨2026, 10, 19, 12, 34, 56⟩, 0⟩).addPlugin Demo.cryptoPlugin
    { name := "crypto", version := "1.0.0", enabled := true }).1.value

theorem aliases_layered_mixed :
    Session.Starts { aliases := mixedAliases } Session.pricing.clock ∧
      Session.pricing.plugins.get? mixedInfo.name = none ∧ mixedInfo.name ≠ [] ∧
      mixedPlugin.Brings mixedAliases ∧ Session.pricing.Adds mixedPlugin mixedInfo mixedAliases ∧
      (Session.pricing.addPlugin mixedPlugin mixedInfo).1.value.registry.aliases =
        (Table.ofList [("btc", "echo mine"), ("eth", "crypto eth"), ("ok", "help")] : Table Text) :=
  have hnew : Session.pricing.plugins.get? mixedInfo.name = none := rfl
  have hname : mixedInfo.name ≠ [] := by decide
  have hbrings : mixedPlugin.Brings mixedAliases := rfl
  ⟨aliases_layered.1 _ _, hnew, hname, hbrings, aliases_layered.2 _ _ _ _ hnew hname hbrings,
    by decide⟩

end CommandShell
