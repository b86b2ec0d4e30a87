import CommandShell.Routing
import CommandShell.Settings

/-!
Setting a session up: the built-in commands, the demonstration plugins, and the aliases of the
settings, in this order. An alias that is not fit is passed over and reported; nothing else can go
wrong.
-/

namespace CommandShell.Session

/-- A session without commands. -/
def bare (clock : Clock) : Session := { clock }

/-- Registers the built-in commands. `leaves` says whether the exit command asks the shell to end,
`hosted` whether there is a command about plugins. -/
def addBuiltins (s : Session) (user : Text) (leaves hosted : Bool) : Logged Session :=
  s.registerAll (builtinCommands user leaves s.clock.seconds
    ++ if hosted then [pluginCommand] else [])

/-- Loads plugins in turn, disabled if they are listed, up to the first that cannot be added. -/
def addPlugins (disabled : List Text) :
    List (Text × Text × Plugin) → Session → Logged Session × Option PluginFault
  | [], s => (⟨s, []⟩, none)
  | (name, version, plugin) :: plugins, s =>
    match s.addPlugin plugin { name, version, enabled := name ∉ disabled } with
    | (added, some fault) => (added, some fault)
    | (added, none) =>
      let (rest, fault) := addPlugins disabled plugins added.value
      (⟨rest.value, added.events ++ rest.events⟩, fault)

/-- The first plugin is added, and then the others unless it cannot be. -/
theorem addPlugins_cons (disabled : List Text) (name version : Text) (plugin : Plugin)
    (plugins : List (Text × Text × Plugin)) (s : Session) :
    addPlugins disabled ((name, version, plugin) :: plugins) s =
      match s.addPlugin plugin { name, version, enabled := name ∉ disabled } with
      | (added, some fault) => (added, some fault)
      | (added, none) =>
        let (rest, fault) := addPlugins disabled plugins added.value
        (⟨rest.value, added.events ++ rest.events⟩, fault) :=
  rfl

/-- Loads the demonstration plugins. -/
def addDemoPlugins (s : Session) (disabled : List Text) :
    Logged Session × Option PluginFault :=
  addPlugins disabled Demo.plugins s

/-- Binds the aliases of the settings. -/
def addAliases (s : Session) (aliases : Table Text) : Logged Session :=
  s.withRegistry (s.registry.bindAliases .settingsAliasRejected aliases.entries)

/-- The session that a shell starts with. -/
def ofSettings (settings : Settings) (clock : Clock) : Logged Session :=
  ((bare clock).addBuiltins settings.user true true).andThen fun s =>
  (s.addDemoPlugins settings.disabledPlugins).1.andThen fun s =>
  (s.addAliases settings.aliases).andThen fun s =>
  ⟨s, [.sessionReady s.registry.commands.size s.registry.aliases.size]⟩

end CommandShell.Session
