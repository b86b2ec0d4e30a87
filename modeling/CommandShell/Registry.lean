import CommandShell.Event

/-!
The registry: commands under their names, and aliases.

The target of an alias is a command line. Resolving an alias reads its target once, puts the
arguments and flags of the target before those that were typed, and does not look the target up as
an alias again.
-/

namespace CommandShell

/-- The commands and aliases that lines are routed by. -/
structure Registry where
  commands : Table Command := Table.empty
  aliases : Table Text := Table.empty

namespace Registry

/-- Puts a command under its name, in place of any other. -/
def register (r : Registry) (c : Command) : Logged Registry where
  value := { r with commands := r.commands.set c.name c }
  events := [.registered c.name (r.commands.contains c.name)]

/-- A name that cannot be an alias: it is empty or holds white space. -/
def isBadName (name : Text) : Bool := name.isEmpty || Text.hasBlank name

/-- Why a name cannot be bound to a target: the name cannot be an alias, or the target has no
command name. -/
def aliasFault? (name target : Text) : Option AliasFault :=
  if isBadName name then some (.badName name)
  else if (Invocation.ofLine target).command = [] then some (.emptyTarget name)
  else none

/-- Binds an alias without looking at it. -/
def setAlias (r : Registry) (name target : Text) : Logged Registry where
  value := { r with aliases := r.aliases.set name target }
  events := [.aliasBound name target]

/-- Binds an alias, unless its name or its target is not fit for one. -/
def bindAlias (r : Registry) (name target : Text) : Except AliasFault (Logged Registry) :=
  match aliasFault? name target with
  | some fault => .error fault
  | none => .ok (r.setAlias name target)

/-- Binds an alias, or reports a name or a target that is not fit for one. -/
def bindOrReport (r : Registry) (report : Text → Event) (name target : Text) : Logged Registry :=
  match r.bindAlias name target with
  | .ok bound => bound
  | .error _ => ⟨r, [report name]⟩

/-- Binds the aliases of a list in turn. One that is not fit is passed over and reported. -/
def bindAliases (report : Text → Event) (r : Registry) (pairs : List (Text × Text)) :
    Logged Registry :=
  Logged.each (fun r (name, target) => r.bindOrReport report name target) r pairs

/-- Removes an alias, if it is there. -/
def removeAlias (r : Registry) (name : Text) : Logged Registry where
  value := { r with aliases := r.aliases.erase name }
  events := if r.aliases.contains name then [.aliasRemoved name] else []

/-- The command that a name stands for, through at most one alias. -/
def lookup? (r : Registry) (name : Text) : Option Command :=
  match r.aliases.get? name with
  | some target => r.commands.get? (Invocation.ofLine target).command
  | none => r.commands.get? name

/-- The commands, in the order of their names. -/
def commandList (r : Registry) : List Command :=
  (Text.sortedDistinct r.commands.keys).filterMap r.commands.get?

/-- The names of commands and aliases, in order. -/
def names (r : Registry) : List Text := Text.sortedDistinct (r.commands.keys ++ r.aliases.keys)

/-- The aliases with their targets, in the order of their names. -/
def aliasList (r : Registry) : List (Text × Text) :=
  (Text.sortedDistinct r.aliases.keys).filterMap fun name =>
    (r.aliases.get? name).map fun target => (name, target)

/-- The call that an invocation stands for: what is typed comes after what the target of an alias
brings along, and its flags win. -/
def resolve (r : Registry) (i : Invocation) : Invocation :=
  match r.aliases.get? i.command with
  | none => i
  | some target =>
    let t := Invocation.ofLine target
    { command := t.command
      args := t.args ++ i.args
      flags := t.flags.overlay i.flags
      raw := i.raw }

theorem resolve_of_not_alias {r : Registry} {i : Invocation}
    (h : r.aliases.get? i.command = none) : r.resolve i = i := by
  simp [resolve, h]

@[simp] theorem resolve_raw (r : Registry) (i : Invocation) : (r.resolve i).raw = i.raw := by
  unfold resolve
  split <;> rfl

@[simp] theorem register_aliases (r : Registry) (c : Command) :
    (r.register c).value.aliases = r.aliases := rfl

@[simp] theorem setAlias_commands (r : Registry) (name target : Text) :
    (r.setAlias name target).value.commands = r.commands := rfl

@[simp] theorem removeAlias_commands (r : Registry) (name : Text) :
    (r.removeAlias name).value.commands = r.commands := rfl

end Registry

end CommandShell
