import CommandShell.Table
import CommandShell.Text.Blank
import CommandShell.Text.Layout

/-!
Files of variables: one `NAME=value` on a line, with an optional `export` in front.

A value may stand between quotes, and then it may span lines. A backslash keeps the character after
it from closing the value; between single quotes it escapes itself and the quote, and between double
quotes it also writes control characters. A value without quotes ends at a `#` that white space
precedes. A name without an equals sign has no value. A line that does not fit is passed over, and
its number is told (`unreadableLines`). In every value `${NAME}` and `${NAME:-text}` stand for the
variable of that name.
-/

namespace CommandShell.EnvFile

open Text (isBlank lineFeed)

/-- White space inside a line. -/
def isInline (c : CodePoint) : Bool := isBlank c && c != lineFeed

def skipInline (cs : Text) : Text := cs.dropWhile isInline

/-- The rest of the line, its break included, is passed over. -/
def skipLine (cs : Text) : Text := (cs.dropWhile (· != lineFeed)).drop 1

/-- Each of the three kinds of line break becomes a line feed. -/
def lineFeeds : Text → Text
  | [] => []
  | .char '\r' :: .char '\n' :: cs => '\n' :: lineFeeds cs
  | c :: cs => (if c = '\r' then .char '\n' else c) :: lineFeeds cs

/-- A byte-order mark in front is no part of the text. -/
def dropMark (cs : Text) : Text :=
  if cs.head?.any (·.value == 0xFEFF) then cs.tail else cs

/-- The text up to the closing quote, and what follows it. A backslash keeps the character after it
from closing. -/
def quoted? (quote : CodePoint) : Text → Option (Text × Text)
  | [] => none
  | [c] => if c = quote then some ([], []) else none
  | c :: d :: cs =>
    if c = quote then some ([], d :: cs)
    else if c = '\\' then (quoted? quote cs).map fun (body, rest) => (c :: d :: body, rest)
    else (quoted? quote (d :: cs)).map fun (body, rest) => (c :: body, rest)

/-- What an escape between double quotes stands for. -/
def doubleEscape? : CodePoint → Option CodePoint
  | .char '\\' => some (.char '\\')
  | .char '\'' => some (.char '\'')
  | .char '"' => some (.char '"')
  | .char 'a' => some (.ofNat 7)
  | .char 'b' => some (.ofNat 8)
  | .char 'f' => some (.ofNat 12)
  | .char 'n' => some (.char '\n')
  | .char 'r' => some (.char '\r')
  | .char 't' => some (.char '\t')
  | .char 'v' => some (.ofNat 11)
  | _ => none

/-- What an escape between single quotes stands for. -/
def singleEscape? : CodePoint → Option CodePoint
  | .char '\\' => some (.char '\\')
  | .char '\'' => some (.char '\'')
  | _ => none

/-- Replaces the escapes; a backslash before anything else stands for itself. -/
def unescape (escape? : CodePoint → Option CodePoint) : Text → Text
  | [] => []
  | [c] => [c]
  | c :: d :: cs =>
    if c = '\\' then
      match escape? d with
      | some e => e :: unescape escape? cs
      | none => c :: unescape escape? (d :: cs)
    else c :: unescape escape? (d :: cs)

/-- Cuts a value at the first white space that leads up to a comment sign. -/
def cutComment : Text → Text
  | [] => []
  | c :: cs =>
    if isBlank c && (cs.dropWhile isBlank).head? == some '#' then [] else c :: cutComment cs

/-- A value without quotes, which takes the rest of its line. A comment may follow at once on the
white space in front of the value. -/
def plainValue (cs : Text) : Text := Text.trim (cutComment (cs.takeWhile (· != lineFeed)))

/-- A value after its equals sign, and what follows it. -/
def value? (cs : Text) : Option (Text × Text) :=
  match skipInline cs with
  | .char '\'' :: cs =>
    (quoted? '\'' cs).map fun (body, rest) => (unescape singleEscape? body, rest)
  | .char '"' :: cs =>
    (quoted? '"' cs).map fun (body, rest) => (unescape doubleEscape? body, rest)
  | _ => some (plainValue cs, cs.dropWhile (· != lineFeed))

/-- What follows the end of a line, if nothing but a comment comes before the end. -/
def lineEnd? (cs : Text) : Option (Text) :=
  match skipInline cs with
  | [] => some []
  | .char '\n' :: rest => some rest
  | .char '#' :: rest => some (skipLine rest)
  | _ => none

/-- What may stand in front of a name. -/
def exportWord : Text := "export"

/-- The text after an `export` and the white space that follows it, if there is one. -/
def skipExport (cs : Text) : Text :=
  let after := cs.drop exportWord.length
  if exportWord.isPrefixOf cs && after.head?.any isInline then skipInline after else cs

/-- A name, quoted or not, and what follows it. -/
def name? : Text → Option (Text × Text)
  | .char '\'' :: cs =>
    let inside := fun (c : CodePoint) => c != '\''
    let body := cs.takeWhile inside
    match cs.dropWhile inside with
    | _ :: rest => if body.isEmpty then none else some (body, rest)
    | [] => none
  | cs =>
    let plain := fun (c : CodePoint) => !isBlank c && c != '=' && c != '#'
    let body := cs.takeWhile plain
    if body.isEmpty then none else some (body, cs.dropWhile plain)

/-- A name with its value, if it has one. -/
abbrev Binding := Text × Option Text

/-- What one line holds. `stuck` is where reading cannot go on. -/
inductive Line where
  | binding (b : Binding) (rest : Text)
  | comment (rest : Text)
  | stuck (rest : Text)

/-- Reads one line that is not blank. -/
def line (cs : Text) : Line :=
  let cs := skipExport cs
  match cs with
  | .char '#' :: _ => .comment (skipLine cs)
  | _ =>
    match name? cs with
    | none => .stuck cs
    | some (name, cs) =>
      match skipInline cs with
      | .char '=' :: after =>
        match value? after with
        | none => .stuck (skipInline after)
        | some (value, cs) =>
          match lineEnd? cs with
          | some rest => .binding (name, some value) rest
          | none => .stuck cs
      | cs =>
        match lineEnd? cs with
        | some rest => .binding (name, none) rest
        | none => .stuck cs

/-- What is found in a file. -/
inductive Statement where
  | binding (b : Binding)
  | comment
  | unreadable (line : Nat)
deriving DecidableEq, Repr

/-- The number of the line that a rest of a text begins on. -/
def lineNumber (text rest : Text) : Nat := 1 + text.count lineFeed - rest.count lineFeed

/-- The statements of a rest of a text, in order, read with an allowance of statements. A statement
that cannot be read takes the rest of the line that reading stopped on, and its number is that of
the line where the one before it ends. -/
def statementsWithin (text : Text) : Nat → Text → List Statement
  | 0, _ => []
  | allowance + 1, rest =>
    match rest.dropWhile isBlank with
    | [] => []
    | cs =>
      match line cs with
      | .binding b after => .binding b :: statementsWithin text allowance after
      | .comment after => .comment :: statementsWithin text allowance after
      | .stuck after =>
        .unreadable (lineNumber text rest) :: statementsWithin text allowance (skipLine after)

/-- The statements of a file. Each takes a code point at least, so there is one unit of allowance
for each. -/
def statements (text : Text) : List Statement :=
  let text := lineFeeds (dropMark text)
  statementsWithin text (text.length + 1) text

/-- The bindings of a file, in order. -/
def bindings (text : Text) : List Binding :=
  (statements text).filterMap fun
    | .binding b => some b
    | _ => none

/-- The numbers of the lines at which statements begin that cannot be read. -/
def unreadableLines (text : Text) : List Nat :=
  (statements text).filterMap fun
    | .unreadable line => some line
    | _ => none

/-- The brace at the end of a reference. -/
def closingBrace : CodePoint := '\x7d'

/-- The name in a reference ends at a colon or at the end of the reference. -/
def inName (c : CodePoint) : Bool := c != closingBrace && c != ':'

/-- A reference after its opening brace: the name, the text for want of a variable, and what
follows. -/
def reference? (cs : Text) : Option (Text × Text × Text) :=
  let name := cs.takeWhile inName
  match cs.dropWhile inName with
  | .char '\x7d' :: rest => some (name, [], rest)
  | .char ':' :: .char '-' :: rest =>
    match rest.dropWhile (· != closingBrace) with
    | _ :: after => some (name, rest.takeWhile (· != closingBrace), after)
    | [] => none
  | _ => none

theorem length_of_reference? {cs name default rest : Text}
    (h : reference? cs = some (name, default, rest)) : rest.length < cs.length := by
  have hle := (List.dropWhile_suffix (l := cs) inName).length_le
  simp only [reference?] at h
  split at h
  · rename_i rest' hd
    simp only [Option.some.injEq, Prod.mk.injEq] at h
    rw [hd] at hle
    simp only [List.length_cons] at hle
    rw [← h.2.2]
    omega
  · rename_i rest' hd
    have hle' := (List.dropWhile_suffix (l := rest') (· != closingBrace)).length_le
    split at h
    · rename_i c after hd'
      simp only [Option.some.injEq, Prod.mk.injEq] at h
      rw [hd'] at hle'
      rw [hd] at hle
      simp only [List.length_cons] at hle hle'
      rw [← h.2.2]
      omega
    · cases h
  · cases h

/-- A reference that a text begins with: the name, the text for want of a variable, and what
follows. -/
def leadingReference? : Text → Option (Text × Text × Text)
  | .char '$' :: .char '\x7b' :: cs => reference? cs
  | _ => none

theorem length_of_leadingReference? {cs name default rest : Text}
    (h : leadingReference? cs = some (name, default, rest)) : rest.length < cs.length := by
  unfold leadingReference? at h
  split at h
  · have := length_of_reference? h
    simp only [List.length_cons]
    omega
  · cases h

/-- A value with its references replaced. What is put in their place is not looked at again. -/
def expand (lookup? : Text → Option Text) (value : Text) : Text :=
  match _h : leadingReference? value with
  | some (name, default, rest) => (lookup? name).getD default ++ expand lookup? rest
  | none =>
    match value with
    | [] => []
    | c :: cs => c :: expand lookup? cs
termination_by value.length
decreasing_by
  · exact length_of_leadingReference? ‹_›
  · simp

/-- The variables of a file. A value may refer to the variables set before it and, failing those,
to the environment; a name set twice keeps its place and takes the later value. -/
def read (environment : Text → Option Text) (text : Text) : Table (Option Text) :=
  (bindings text).foldl (fun known (name, value) =>
    let lookup? := fun n =>
      match known.get? n with
      | some v => some (v.getD [])
      | none => environment n
    known.set name (value.map (expand lookup?))) Table.empty

end CommandShell.EnvFile
