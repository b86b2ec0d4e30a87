import CommandShell.Event

/-!
Plugins: what one offers, and what is kept of it once it is loaded.

A plugin answers two hooks, one for commands and one for aliases. It may not have a hook at all,
or the hook may fail; either brings nothing. Items that are not commands are left out, and the
log tells of each.
-/

namespace CommandShell

/-- The answer of a hook. -/
inductive Offer (α : Type) where
  | absent
  | broken
  | given (answer : α)

/-- An item among the commands that a plugin offers. One that is no command is only shown in the
log. -/
inductive Offered where
  | command (c : Command)
  | other (literal : Text)

/-- What a plugin offers. A target of an alias should be a text, but nothing sees to that before the
alias is bound. -/
structure Plugin where
  commands : Offer (List Offered) := .absent
  aliases : Offer (List (Text × Value)) := .absent

/-- The public view of a loaded plugin. -/
structure PluginInfo where
  name : Text
  version : Text
  enabled : Bool
deriving DecidableEq, Repr

/-- A loaded plugin with what its hooks gave. -/
structure LoadedPlugin extends PluginInfo where
  commands : List Command
  aliases : Table Value

namespace Offered

def command? : Offered → Option Command
  | .command c => some c
  | .other _ => none

def report? (plugin : Text) : Offered → Option Event
  | .command _ => none
  | .other literal => some (.notACommand plugin literal)

end Offered

namespace Plugin

/-- The commands that a plugin brings. -/
def collectCommands (p : Plugin) (name : Text) : Logged (List Command) :=
  match p.commands with
  | .absent => ⟨[], []⟩
  | .broken => ⟨[], [.hookFailed name .commands]⟩
  | .given items =>
    ⟨items.filterMap Offered.command?, items.filterMap (Offered.report? name)⟩

/-- The aliases that a plugin brings. -/
def collectAliases (p : Plugin) (name : Text) : Logged (Table Value) :=
  match p.aliases with
  | .absent => ⟨Table.empty, []⟩
  | .broken => ⟨Table.empty, [.hookFailed name .aliases]⟩
  | .given pairs => ⟨Table.ofList pairs, []⟩

/-- Asks both hooks, commands first. A plugin without a name is not asked. -/
def load (p : Plugin) (info : PluginInfo) : Logged LoadedPlugin :=
  if info.name = [] then ⟨{ info with commands := [], aliases := Table.empty }, []⟩
  else (p.collectCommands info.name).andThen fun commands =>
    (p.collectAliases info.name).map fun aliases => { info with commands, aliases }

end Plugin

/-- The commands to register for a loaded plugin: its own, or stand-ins while it is disabled. -/
def LoadedPlugin.active (p : LoadedPlugin) : List Command :=
  if p.enabled then p.commands else p.commands.map fun c => c.placeholder p.name

end CommandShell
