import CommandShell.Text.PrintableTable

/-!
Quoted literals: a text between quotes, with whatever would not show escaped. Single quotes are
used unless the text holds a single quote and no double quote.

A surrogate is escaped even where nothing else is, if a string is wanted (`escapedString`); a text
without surrogates is left as it is (`escapedString_ofString`).
-/

namespace CommandShell.Text

/-- A printable code point stands for itself in a quoted literal. -/
def isPrintable (c : CodePoint) : Bool := printableRanges.has c

/-- One lower-case hexadecimal digit. -/
def hexDigit (n : Nat) : Char :=
  if n < 10 then Char.ofNat (48 + n) else Char.ofNat (87 + n)

/-- The last `width` hexadecimal digits of `n`. -/
def hexDigits (width n : Nat) : List Char :=
  match width with
  | 0 => []
  | width + 1 => hexDigits width (n / 16) ++ [hexDigit (n % 16)]

/-- The escape of a code point by its number, in two, four or eight digits. -/
def escapeByNumber (n : Nat) : List Char :=
  if n < 0x100 then '\\' :: 'x' :: hexDigits 2 n
  else if n < 0x10000 then '\\' :: 'u' :: hexDigits 4 n
  else '\\' :: 'U' :: hexDigits 8 n

/-- The text as a string, its surrogates escaped. -/
def escapedString (t : Text) : String :=
  String.ofList (t.flatMap fun
    | .char c => [c]
    | .surrogate n => escapeByNumber (CodePoint.surrogate n).value)

/-- One code point of a literal between quotes `quote`. -/
def escapeIn (quote c : CodePoint) : Text :=
  if c = '\\' || c = quote then ['\\', c]
  else if c = '\n' then ['\\', 'n']
  else if c = '\r' then ['\\', 'r']
  else if c = '\t' then ['\\', 't']
  else if isPrintable c then [c]
  else (escapeByNumber c.value).map .char

/-- The quote that a literal of this text is written with. -/
def literalQuote (t : Text) : CodePoint :=
  if .char '\'' ∈ t && .char '"' ∉ t then '"' else '\''

/-- The text as a quoted literal. -/
def quoted (t : Text) : Text :=
  let quote := literalQuote t
  quote :: t.flatMap (escapeIn quote) ++ [quote]

/-- A text without surrogates needs no escapes. -/
theorem escapedString_ofString (s : String) : escapedString (ofString s) = s := by
  simp [escapedString, ofString, List.flatMap_map]

end CommandShell.Text
