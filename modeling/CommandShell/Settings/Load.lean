import CommandShell.Settings
import CommandShell.Settings.EnvFile
import CommandShell.Value.Json

/-!
Loading settings: given values first, then the environment, then a file of variables, then the
defaults. Each source is put under what the ones before it come to.

A variable belongs to a field if its name is the field's name behind `variableStem`, in whatever
case. Its text is the value of the field, or the JSON text of it for the fields that are no texts.
-/

namespace CommandShell.Settings

/-- What the names of variables begin with, in lower case. -/
def variableStem : Text := "termiphone_"

/-- Where variables come from. -/
inductive Origin where
  | environment
  | file
deriving DecidableEq, Repr

/-- Why settings could not be loaded. -/
inductive LoadFault where
  | unreadable (field : Field) (origin : Origin)
  | invalid (problems : List Problem)
deriving Repr

/-- What is said of a variable whose JSON text cannot be read. -/
def unreadableMessage (field : Field) (origin : Origin) : Text :=
  let source := match origin with
    | .environment => "EnvSettingsSource"
    | .file => "DotEnvSettingsSource"
  "error parsing value for field \"" ++ field.name ++ "\" from source \"" ++ source ++ "\""

/-- Names in lower case; of two names that become one the later value counts. -/
def foldCase {α : Type} (pairs : List (Text × α)) : Table α :=
  Table.ofList (pairs.map fun (name, value) => (Text.lower name, value))

/-- Values that are given under the names of the fields, in whatever case. The first that has the
name of a field counts. -/
def givenSource (given : List (Text × Value)) : Source := fun f =>
  (given.find? fun (name, _) => Text.lower name == f.name).map Prod.snd

/-- The value that the text of a variable gives a field; none for a JSON `null`. -/
def readVariable (origin : Origin) (field : Field) (text : Text) :
    Except LoadFault (Option Value) :=
  if field.isStructured then
    match Value.ofJson? text with
    | none => .error (.unreadable field origin)
    | some .nothing => .ok none
    | some v => .ok (some v)
  else .ok (some (.text text))

/-- Reads the variables of the fields of a list in turn. -/
def readVariables (origin : Origin) (vars : Table (Option Text)) :
    List Field → Except LoadFault (List (Field × Value))
  | [] => .ok []
  | f :: fs => do
    let value ← match vars.get? (variableStem ++ f.name) with
      | some (some text) => readVariable origin f text
      | _ => .ok none
    let rest ← readVariables origin vars fs
    return (value.map (f, ·)).toList ++ rest

/-- The source that variables make. -/
def variableSource (origin : Origin) (vars : Table (Option Text)) :
    Except LoadFault Source := do
  let values ← readVariables origin vars Field.all
  return fun f => values.lookup f

/-- The settings for values given directly, the variables of the environment, and the text of a
file of variables, if there is one. -/
def load (given : List (Text × Value)) (environment : List (Text × Text))
    (file : Option Text) : Except LoadFault Settings := do
  let fromEnvironment ← variableSource .environment
    (foldCase (environment.map fun (name, value) => (name, some value)))
  let fileVariables := EnvFile.read (Table.ofList environment).get? (file.getD [])
  let fromFile ← variableSource .file (foldCase fileVariables.entries)
  match check (layer (layer (givenSource given) fromEnvironment) fromFile) with
  | .ok settings => .ok settings
  | .error problems => .error (.invalid problems)

end CommandShell.Settings
