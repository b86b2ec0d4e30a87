import CommandShell.Decimal
import CommandShell.Table
import CommandShell.Text.Quoted

/-!
Plain data of any shape: what a command hands back, what a failure carries, what a settings
source holds.

A value is shown in two ways. `literal` writes it so that its kind can be told, texts quoted;
`display` writes a bare text as it is and all else as a literal. Not every value has a text: a whole
number may have too many digits to be shown (`DisplayFault`).
-/

namespace CommandShell

/-- Why a value or a failure has no text. -/
inductive DisplayFault where
  /-- A whole number in it has more than `Value.maxDigits` digits. -/
  | tooManyDigits
  /-- It would tell of a character before the beginning of a text. -/
  | noCharacter
deriving DecidableEq, Repr

/-- A text to be shown, or why there is none. -/
abbrev Shown := Except DisplayFault Text

/-- Data without behaviour. -/
inductive Value where
  | nothing
  | truth (b : Bool)
  | whole (n : Int)
  | decimal (x : Float)
  | text (t : Text)
  | list (items : List Value)
  | record (fields : List (Text × Value))
deriving Repr

namespace Value

instance : Inhabited Value := ⟨.nothing⟩

/-- The most digits that a whole number is read or shown with. -/
def maxDigits : Nat := 4300

/-- The spelling of a truth value. -/
def truthLiteral (b : Bool) : Text := if b then "True" else "False"

/-- Items between brackets, a comma and a blank between each two. -/
def bracketed (opening closing : Text) (items : List Text) : Text :=
  opening ++ (", " : Text).intercalate items ++ closing

/-- Quoted texts between square brackets. -/
def textsLiteral (items : List Text) : Text :=
  bracketed "[" "]" (items.map Text.quoted)

/-- Names with the literals of their values, between braces. -/
def fieldsLiteral (fields : List (Text × Text)) : Text :=
  bracketed "\x7b" "\x7d" (fields.map fun f => Text.quoted f.1 ++ ": " ++ f.2)

/-- The digits of a whole number. -/
def wholeLiteral (n : Int) : Shown :=
  if n.natAbs < Nat.pow 10 maxDigits then .ok (toString n) else .error .tooManyDigits

mutual

/-- The value written out so that its kind can be told. -/
def literal : Value → Shown
  | .nothing => .ok "None"
  | .truth b => .ok (truthLiteral b)
  | .whole n => wholeLiteral n
  | .decimal x => .ok (floatText x)
  | .text s => .ok (Text.quoted s)
  | .list items => (literals items).map (bracketed "[" "]")
  | .record fields => (fieldLiterals fields).map fieldsLiteral

def literals : List Value → Except DisplayFault (List Text)
  | [] => .ok []
  | v :: vs => do
    let shown ← v.literal
    let rest ← literals vs
    return shown :: rest

def fieldLiterals : List (Text × Value) → Except DisplayFault (List (Text × Text))
  | [] => .ok []
  | (k, v) :: fs => do
    let shown ← v.literal
    let rest ← fieldLiterals fs
    return (k, shown) :: rest

end

/-- The value as a reader wants it: a text bare, all else as a literal. -/
def display : Value → Shown
  | .text s => .ok s
  | v => v.literal

/-- The whole number that a value is; a truth value counts as 0 or 1. -/
def whole? : Value → Option Int
  | .whole n => some n
  | .truth b => some b.toNat
  | _ => none

@[simp] theorem display_text (t : Text) : (Value.text t).display = .ok t := rfl

end Value

end CommandShell
