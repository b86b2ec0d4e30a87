import CommandShell.Token
import CommandShell.Value

/-!
Invocations: a command name with its positional arguments and its flags.

The tokens after the name are read one by one (`Argument.read`). A token that starts with a dash
is a flag; the token right after it is its value, unless that starts with a dash too. All other
tokens are positional. `Invocation.ofLine` reads a line, `Invocation.tokens` writes one.
-/

namespace CommandShell

/-- What a flag is set to: a text, or just on or off. -/
inductive FlagValue where
  | switch (on : Bool)
  | text (t : Text)
deriving DecidableEq, Repr

namespace FlagValue

/-- The value as plain data. -/
def toValue : FlagValue → Value
  | .switch on => .truth on
  | .text t => .text t

/-- The value written out so that its kind can be told. -/
def literal : FlagValue → Text
  | .switch on => Value.truthLiteral on
  | .text t => Text.quoted t

end FlagValue

/-- The name of a command with what it is called with. `raw` is the line it was read from, if
there was one. -/
structure Invocation where
  command : Text
  args : List Text := []
  flags : Table FlagValue := Table.empty
  raw : Text := []
deriving DecidableEq

/-- One argument as it stands in a line. -/
inductive Argument where
  | positional (t : Text)
  | flag (name : Text) (value : FlagValue)
deriving DecidableEq, Repr

namespace Argument

/-- The token begins with a dash. -/
def isFlagToken (token : Text) : Bool := token.head? == some '-'

/-- The name of a flag: its token without the dashes in front. -/
def flagName (token : Text) : Text := token.dropWhile (· == '-')

/-- Reads the tokens after a command name. -/
def read : List Text → List Argument
  | [] => []
  | [t] => if isFlagToken t then [.flag (flagName t) (.switch true)] else [.positional t]
  | t :: v :: ts =>
    if isFlagToken t then
      if isFlagToken v then .flag (flagName t) (.switch true) :: read (v :: ts)
      else .flag (flagName t) (.text v) :: read ts
    else .positional t :: read (v :: ts)

def positional? : Argument → Option Text
  | .positional s => some s
  | .flag .. => none

def flag? : Argument → Option (Text × FlagValue)
  | .positional _ => none
  | .flag name value => some (name, value)

/-- The positional arguments, in order. -/
def positionals (as : List Argument) : List Text := as.filterMap positional?

/-- The flags. One that is given again keeps its place and takes the later value. -/
def flags (as : List Argument) : Table FlagValue := Table.ofList (as.filterMap flag?)

theorem read_cons_positional {t : Text} (ts : List Text) (h : isFlagToken t = false) :
    read (t :: ts) = .positional t :: read ts := by
  cases ts <;> simp [read, h]

end Argument

namespace Invocation

/-- The invocation that a list of tokens spells; without tokens its name is empty. -/
def ofTokens (raw : Text) : List Text → Invocation
  | [] => { command := [], raw }
  | name :: ts =>
    let as := Argument.read ts
    { command := name, args := Argument.positionals as, flags := Argument.flags as, raw }

/-- Reads a line. -/
def ofLine (line : Text) : Invocation := ofTokens line (Token.tokenize line)

/-- The flags as tokens: a name with a dash in front, then its text if it has one. -/
def flagTokens (flags : Table FlagValue) : List Text :=
  flags.entries.flatMap fun (name, value) =>
    match value with
    | .text s => ["-" ++ name, s]
    | .switch _ => ["-" ++ name]

/-- The tokens of a line that spells the invocation. -/
def tokens (i : Invocation) : List Text := i.command :: i.args ++ flagTokens i.flags

/-- A line that stands for the invocation: the one it was read from, or else a new one. -/
def line (i : Invocation) : Text := if i.raw = [] then Token.join i.tokens else i.raw

def hasFlag (i : Invocation) (name : Text) : Bool := i.flags.contains name

def flag? (i : Invocation) (name : Text) : Option FlagValue := i.flags.get? name

/-- Equal but for the lines they were read from and the order of their flags. -/
def same (i j : Invocation) : Bool :=
  i.command == j.command && i.args == j.args && i.flags.agrees j.flags

@[simp] theorem ofTokens_nil (raw : Text) : (ofTokens raw []).command = [] := rfl

@[simp] theorem ofTokens_cons_command (raw name : Text) (ts : List Text) :
    (ofTokens raw (name :: ts)).command = name := rfl

@[simp] theorem ofTokens_raw (raw : Text) (ts : List Text) : (ofTokens raw ts).raw = raw := by
  cases ts <;> rfl

end Invocation

end CommandShell
