import CommandShell.Level
import CommandShell.Text.Blank
import CommandShell.Text.Case
import CommandShell.Value

/-!
Settings, and how they are put together from several sources.

A source gives plain data for some of the fields (`Source`). For each field the source of highest
rank that has it wins; only records are merged, name by name. What comes out is checked field by
field, and every fault is told (`Settings.check`).
-/

namespace CommandShell

/-- The settings of a shell. -/
structure Settings where
  promptText : Text := "$ "
  user : Text := "user@phone"
  welcome : Text := "TermiPhone v1.0 - type 'help' for available commands"
  aliases : Table Text := Table.ofList [("cls", "clear"), ("q", "exit"), ("h", "help")]
  disabledPlugins : List Text := []
  logLevel : Level := .warning

/-- The fields of the settings. -/
inductive Field where
  | promptText
  | user
  | welcome
  | aliases
  | disabledPlugins
  | logLevel
deriving DecidableEq, Repr

namespace Field

/-- The fields, in the order in which they are read and checked. -/
def all : List Field := [.promptText, .user, .welcome, .aliases, .disabledPlugins, .logLevel]

def name : Field → Text
  | .promptText => "prompt"
  | .user => "user"
  | .welcome => "welcome"
  | .aliases => "aliases"
  | .disabledPlugins => "disabled_plugins"
  | .logLevel => "log_level"

/-- The field is written in JSON where only texts can be written. -/
def isStructured : Field → Bool
  | .aliases | .disabledPlugins => true
  | _ => false

end Field

/-- An item of a field: a name in a record, told without its surrogates, or a place in a list. -/
inductive FieldItem where
  | name (t : Text)
  | index (n : Nat)
deriving DecidableEq, Repr

/-- What is wrong with a value. -/
inductive FieldFault where
  | notText
  | notRecord
  | notList
  | unknownLevel (written : Text)
deriving DecidableEq, Repr

/-- What is said of a value that is of the right kind and yet not fit. -/
def FieldFault.message? : FieldFault → Option Text
  | .notText | .notRecord | .notList => none
  | .unknownLevel written => some ("unknown log level: " ++ written)

/-- A fault with the place where it was found. -/
structure Problem where
  field : Field
  item : Option FieldItem := none
  fault : FieldFault
deriving DecidableEq, Repr

namespace Settings

/-- Data for some of the fields. -/
abbrev Source := Field → Option Value

/-- Puts one value over another: records are merged, all else is replaced. -/
def layerValue (high low : Value) : Value :=
  match high, low with
  | .record hs, .record ls => .record ((Table.ofList ls).setAll hs).entries
  | high, _ => high

/-- Puts one source over another. -/
def layer (high low : Source) : Source := fun f =>
  match high f, low f with
  | some h, some l => some (layerValue h l)
  | some h, none => some h
  | none, l => l

/-- A check that gathers all problems. -/
abbrev Checked (α : Type) := Except (List Problem) α

/-- One problem with a field, or with an item of it. -/
def problem {α : Type} (field : Field) (item : Option FieldItem) (fault : FieldFault) :
    Checked α :=
  .error [{ field, item, fault }]

/-- Both checks; the problems of the first come first. -/
def both {α β : Type} : Checked α → Checked β → Checked (α × β)
  | .ok a, .ok b => .ok (a, b)
  | .ok _, .error ps => .error ps
  | .error ps, .ok _ => .error ps
  | .error ps, .error qs => .error (ps ++ qs)

/-- Checks the items of a list in turn. -/
def checkEach {α β : Type} (check : α → Checked β) : List α → Checked (List β)
  | [] => .ok []
  | a :: as => (both (check a) (checkEach check as)).map fun (b, bs) => b :: bs

def checkText (field : Field) (item : Option FieldItem) : Value → Checked Text
  | .text t => .ok t
  | _ => problem field item .notText

def checkAliases (field : Field) : Value → Checked (Table Text)
  | .record fs =>
    (checkEach (fun (k, v) =>
      (checkText field (some (.name (Text.replaceSurrogates k))) v).map fun t => (k, t)) fs).map
      Table.ofList
  | _ => problem field none .notRecord

def checkTexts (field : Field) : Value → Checked (List Text)
  | .list vs => checkEach (fun (v, n) => checkText field (some (.index n)) v) vs.zipIdx
  | _ => problem field none .notList

/-- A level may be written in any case and with white space around it. -/
def checkLevel (field : Field) : Value → Checked Level
  | .text t =>
    match Level.ofName? (Text.upper (Text.trim t)) with
    | some l => .ok l
    | none => problem field none (.unknownLevel t)
  | _ => problem field none .notText

/-- Checks the value of a field, or takes the default if there is none. -/
def checkField {α : Type} (source : Source) (field : Field) (default : α)
    (check : Field → Value → Checked α) : Checked α :=
  match source field with
  | some v => check field v
  | none => .ok default

/-- The settings that a source gives, if nothing is wrong with them. -/
def check (source : Source) : Checked Settings :=
  let defaults : Settings := {}
  let text := fun field default => checkField source field default fun f => checkText f none
  (both (text .promptText defaults.promptText)
    (both (text .user defaults.user)
      (both (text .welcome defaults.welcome)
        (both (checkField source .aliases defaults.aliases checkAliases)
          (both (checkField source .disabledPlugins defaults.disabledPlugins checkTexts)
            (checkField source .logLevel defaults.logLevel checkLevel)))))).map
    fun (promptText, user, welcome, aliases, disabledPlugins, logLevel) =>
      { promptText, user, welcome, aliases, disabledPlugins, logLevel }

/-- The empty source is right and gives the defaults. -/
theorem check_empty : check (fun _ => none) = .ok {} := rfl

end Settings

end CommandShell
