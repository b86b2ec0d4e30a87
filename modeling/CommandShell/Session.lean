import CommandShell.Clock
import CommandShell.MacroBook
import CommandShell.Plugin
import CommandShell.Registry

/-!
A session: everything that one shell keeps between two lines, and the operations on plugins, which
act on the registry and on the list of plugins together.

While a plugin is disabled its commands are registered as stand-ins. Each change registers all its
commands anew, so the last event that touched a name decides what the name stands for.
-/

namespace CommandShell

/-- The state of a shell. -/
structure Session where
  registry : Registry := {}
  plugins : Table LoadedPlugin := Table.empty
  macros : MacroBook := {}
  history : List Text := []
  exiting : Bool := false
  clock : Clock

namespace Session

/-- Acts on the registry alone. -/
def withRegistry (s : Session) (r : Logged Registry) : Logged Session :=
  r.map fun r => { s with registry := r }

def register (s : Session) (c : Command) : Logged Session :=
  s.withRegistry (s.registry.register c)

def registerAll (s : Session) (cs : List Command) : Logged Session := Logged.each register s cs

def bindAlias (s : Session) (name target : Text) : Except AliasFault (Logged Session) :=
  (s.registry.bindAlias name target).map s.withRegistry

def removeAlias (s : Session) (name : Text) : Logged Session :=
  s.withRegistry (s.registry.removeAlias name)

/-- Stores what is known of a plugin and registers its commands. -/
def putPlugin (s : Session) (p : LoadedPlugin) : Logged Session :=
  registerAll { s with plugins := s.plugins.set p.name p } p.active

/-- Binds the aliases that a plugin brings, in turn. One that is not fit is passed over and
reported, and a target that is no text ends the binding. -/
def bindOffered (s : Session) (plugin : Text) :
    List (Text × Value) → Logged Session × Option PluginFault
  | [] => (⟨s, []⟩, none)
  | (name, target) :: offered =>
    let step : Option (Logged Session) := match target with
      | .text t =>
        some (s.withRegistry (s.registry.bindOrReport (.pluginAliasRejected plugin) name t))
      | _ => if Registry.isBadName name then some ⟨s, [.pluginAliasRejected plugin name]⟩ else none
    match step with
    | none => (⟨s, []⟩, some (.targetNotText name))
    | some bound =>
      let (rest, fault) := bindOffered bound.value plugin offered
      (⟨rest.value, bound.events ++ rest.events⟩, fault)

/-- Loads a plugin under a new name. Its aliases come after its commands. The plugin stays loaded,
with all that was registered, if its aliases cannot be bound to the end. -/
def addPlugin (s : Session) (p : Plugin) (info : PluginInfo) :
    Logged Session × Option PluginFault :=
  if s.plugins.contains info.name then (⟨s, []⟩, some (.loaded info.name))
  else
    let loaded := p.load info
    let put := loaded.andThen s.putPlugin
    let (bound, fault) := put.value.bindOffered info.name loaded.value.aliases.entries
    let done := if fault.isSome then []
      else [.pluginLoaded info.name info.version info.enabled (loaded.value.commands.map (·.name))]
    (⟨bound.value, put.events ++ bound.events ++ done⟩, fault)

/-- Enables or disables a plugin, if there is one of that name. -/
def switchPlugin (s : Session) (name : Text) (enabled : Bool) : Option (Logged Session) :=
  (s.plugins.get? name).map fun p =>
    (s.putPlugin { p with enabled }).andThen fun s => ⟨s, [.pluginSwitched name enabled]⟩

/-- The public view of a plugin. -/
def pluginInfo (s : Session) (name : Text) : Except PluginFault PluginInfo :=
  match s.plugins.get? name with
  | some p => .ok p.toPluginInfo
  | none => .error (.unknown name)

/-- The plugins, in the order in which they were loaded. -/
def pluginList (s : Session) : List PluginInfo := s.plugins.values.map (·.toPluginInfo)

/-- Keeps a line that is not blank. -/
def remember (s : Session) (line : Text) : Session :=
  if Text.allBlank line then s else { s with history := s.history ++ [line] }

end Session

end CommandShell
