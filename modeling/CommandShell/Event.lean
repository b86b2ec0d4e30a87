import CommandShell.Command
import CommandShell.Level

/-!
Events: what the shell writes to its log, and what is shown of each (`Event.entries`). An operation
that writes to the log hands its events back with its answer (`Logged`).
-/

namespace CommandShell

/-- The two things a plugin is asked for. -/
inductive Hook where
  | commands
  | aliases
deriving DecidableEq, Repr

def Hook.name : Hook → Text
  | .commands => "provide_commands"
  | .aliases => "provide_aliases"

/-- Something the log tells of. -/
inductive Event where
  | registered (name : Text) (replaced : Bool)
  | aliasBound (name target : Text)
  | aliasRemoved (name : Text)
  | notFound (name : Text)
  | callStart (command : Command) (call : Invocation)
  | callFailed (name : Text) (failure : Failure)
  | callEnd (name : Text) (measured : Bool)
  | macroDefined (name : Text) (lines : Nat)
  | macroRan (name : Text) (lines : Nat)
  | pluginLoaded (name version : Text) (enabled : Bool) (commands : List Text)
  | pluginSwitched (name : Text) (enabled : Bool)
  | hookFailed (plugin : Text) (hook : Hook)
  | notACommand (plugin literal : Text)
  | pluginAliasRejected (plugin name : Text)
  | settingsAliasRejected (name : Text)
  | sessionReady (commands aliases : Nat)

namespace Event

/-- A topic followed by named fields. -/
def message (topic : Text) (fields : List (Text × Text)) : Text :=
  (" " : Text).intercalate (topic :: fields.map fun f => f.1 ++ "=" ++ f.2)

/-- The flags of a call as a literal. -/
def flagsLiteral (flags : Table FlagValue) : Text :=
  Value.fieldsLiteral (flags.entries.map fun f => (f.1, f.2.literal))

/-- How long a call took. The clock stands still while a command runs, so it is no time, unless the
clock could not measure it. -/
def durationText (measured : Bool) : Text := (if measured then "0.000" else "nan") ++ "ms"

/-- The log entries of an event. A failed call has two, if the failure can be shown. -/
def entries : Event → List (Level × Text)
  | .registered name replaced =>
    [(.debug, message "command.register"
      [("name", name), ("replaced", Value.truthLiteral replaced)])]
  | .aliasBound name target =>
    [(.debug, message "alias.register" [("alias", name), ("target", target)])]
  | .aliasRemoved name => [(.debug, message "alias.unregister" [("alias", name)])]
  | .notFound name => [(.debug, message "command.not_found" [("name", name)])]
  | .callStart _ call =>
    [(.debug, message "command.call.start" [("name", call.command),
      ("args", Value.textsLiteral call.args), ("flags", flagsLiteral call.flags)])]
  | .callFailed name failure =>
    (.debug, message "command.call.error" [("name", name)]) ::
      match failure.literal with
      | .ok shown => [(.info, message "command.call.error" [("name", name), ("error", shown)])]
      | .error _ => []
  | .callEnd name measured =>
    [(.debug, message "command.call.end" [("name", name), ("duration", durationText measured)])]
  | .macroDefined name lines =>
    [(.debug, message "macro.define" [("name", name), ("lines", toString lines)])]
  | .macroRan name lines =>
    [(.debug, message "macro.run" [("name", name), ("lines", toString lines)])]
  | .pluginLoaded name version enabled commands =>
    [(.info, message "plugin.loaded" [("name", name), ("version", version),
      ("enabled", Value.truthLiteral enabled), ("commands", Value.textsLiteral commands)])]
  | .pluginSwitched name enabled =>
    [(.info, message "plugin.state" [("name", name), ("enabled", Value.truthLiteral enabled)])]
  | .hookFailed plugin hook =>
    [(.warning, message "plugin.hook_failed" [("plugin", plugin), ("hook", hook.name)])]
  | .notACommand plugin literal =>
    [(.warning, message "plugin.invalid_command" [("plugin", plugin), ("value", literal)])]
  | .pluginAliasRejected plugin name =>
    [(.warning, message "plugin.alias_rejected" [("plugin", plugin), ("alias", name)])]
  | .settingsAliasRejected name =>
    [(.warning, message "settings.alias_rejected" [("alias", name)])]
  | .sessionReady commands aliases =>
    [(.info, message "session.ready"
      [("commands", toString commands), ("aliases", toString aliases)])]

end Event

/-- A value with the events of the operation that made it, in order. -/
structure Logged (α : Type) where
  value : α
  events : List Event := []

namespace Logged

variable {α β σ : Type}

def map (f : α → β) (x : Logged α) : Logged β := ⟨f x.value, x.events⟩

/-- Goes on from a value; the events of the first part come first. -/
def andThen (x : Logged α) (f : α → Logged β) : Logged β :=
  let y := f x.value
  ⟨y.value, x.events ++ y.events⟩

/-- Applies a step for each item of a list in turn. -/
def each (step : σ → α → Logged σ) : σ → List α → Logged σ
  | s, [] => ⟨s, []⟩
  | s, a :: as => (step s a).andThen fun s => each step s as

@[simp] theorem map_value (f : α → β) (x : Logged α) : (x.map f).value = f x.value := rfl

@[simp] theorem map_events (f : α → β) (x : Logged α) : (x.map f).events = x.events := rfl

@[simp] theorem andThen_value (x : Logged α) (f : α → Logged β) :
    (x.andThen f).value = (f x.value).value := rfl

@[simp] theorem andThen_events (x : Logged α) (f : α → Logged β) :
    (x.andThen f).events = x.events ++ (f x.value).events := rfl

theorem each_value (step : σ → α → Logged σ) (s : σ) (as : List α) :
    (each step s as).value = as.foldl (fun s a => (step s a).value) s := by
  induction as generalizing s with
  | nil => rfl
  | cons a as ih => simp [each, ih]

end Logged

end CommandShell
