import CommandShell.Value

/-!
Reading values from JSON text.

The reader takes the standard grammar and, as numbers, also `NaN`, `Infinity` and `-Infinity`. In
an object a repeated name keeps its first place and takes its last value. Control characters in
strings, leading zeros, trailing commas and anything after the value are refused, and so is a whole
number of more than `maxDigits` digits.
-/

namespace CommandShell.Value.Json

/-- JSON's own white space. -/
def isSpace : CodePoint → Bool
  | .char c => c == ' ' || c == '\t' || c == '\n' || c == '\r'
  | .surrogate _ => false

def skipSpace (cs : Text) : Text := cs.dropWhile isSpace

def hexValue? (c : CodePoint) : Option Nat :=
  let n := c.value
  if 48 ≤ n && n ≤ 57 then some (n - 48)
  else if 97 ≤ n && n ≤ 102 then some (n - 87)
  else if 65 ≤ n && n ≤ 70 then some (n - 55)
  else none

/-- The number that hexadecimal digits denote. -/
def hexNumber? (cs : Text) : Option Nat :=
  cs.foldlM (fun n c => (hexValue? c).map (16 * n + ·)) 0

/-- The code of a one-letter escape. -/
def escapeCode? : CodePoint → Option Nat
  | .char '"' => some 34
  | .char '\\' => some 92
  | .char '/' => some 47
  | .char 'b' => some 8
  | .char 'f' => some 12
  | .char 'n' => some 10
  | .char 'r' => some 13
  | .char 't' => some 9
  | _ => none

/-- The codes of a string up to its closing quote, and the text after it. Halves of surrogate pairs
are not joined yet. -/
def stringCodes? : Text → Option (List Nat × Text)
  | [] => none
  | .char '"' :: cs => some ([], cs)
  | .char '\\' :: .char 'u' :: a :: b :: c :: d :: cs => do
    let n ← hexNumber? [a, b, c, d]
    let (ns, rest) ← stringCodes? cs
    some (n :: ns, rest)
  | .char '\\' :: e :: cs => do
    let n ← escapeCode? e
    let (ns, rest) ← stringCodes? cs
    some (n :: ns, rest)
  | c :: cs =>
    if c.value < 0x20 then none
    else do
      let (ns, rest) ← stringCodes? cs
      some (c.value :: ns, rest)

/-- The first half of a pair of surrogates. -/
def isHighSurrogate (n : Nat) : Bool := 0xD800 ≤ n && n ≤ 0xDBFF

/-- The second half of a pair of surrogates. -/
def isLowSurrogate (n : Nat) : Bool := 0xDC00 ≤ n && n ≤ 0xDFFF

/-- The text of codes. Two halves of a pair make one character; a half on its own stays a
surrogate. -/
def joinSurrogates : List Nat → Text
  | [] => []
  | [n] => [.ofNat n]
  | hi :: lo :: ns =>
    if isHighSurrogate hi && isLowSurrogate lo then
      .ofNat (0x10000 + (hi - 0xD800) * 0x400 + (lo - 0xDC00)) :: joinSurrogates ns
    else .ofNat hi :: joinSurrogates (lo :: ns)

/-- A string after its opening quote. -/
def string? (cs : Text) : Option (Text × Text) :=
  (stringCodes? cs).map fun (ns, rest) => (joinSurrogates ns, rest)

/-- The number that decimal digits denote. -/
def digitsValue (cs : Text) : Nat := cs.foldl (fun n c => 10 * n + (c.value - 48)) 0

/-- A number with its sign. -/
def signed (negative : Bool) (n : Nat) : Int := if negative then -n else n

/-- At least one digit, and what follows. -/
def digits? (cs : Text) : Option (Text × Text) :=
  let ds := cs.takeWhile CodePoint.isDigit
  if ds.isEmpty then none else some (ds, cs.dropWhile CodePoint.isDigit)

/-- The digits of a fraction after a point, or nothing. -/
def fraction? : Text → Option (Text × Text)
  | .char '.' :: cs => digits? cs
  | cs => some ([], cs)

/-- A sign, or nothing; whether it is negative, and what follows. -/
def exponentSign : Text → Bool × Text
  | .char '+' :: cs => (false, cs)
  | .char '-' :: cs => (true, cs)
  | cs => (false, cs)

/-- An exponent, or nothing. -/
def exponent? : Text → Option (Option Int × Text)
  | [] => some (none, [])
  | e :: cs =>
    if e == 'e' || e == 'E' then
      let (negative, cs) := exponentSign cs
      (digits? cs).map fun (ds, rest) => (some (signed negative (digitsValue ds)), rest)
    else some (none, e :: cs)

/-- A number without its sign. With a fraction or an exponent it is a floating-point number. -/
def unsigned? (negative : Bool) (cs : Text) : Option (Value × Text) := do
  let (ds, cs) ← digits? cs
  if ds.head? == some '0' && ds.length > 1 then none
  else
    let (places, cs) ← fraction? cs
    let (power, cs) ← exponent? cs
    if places.isEmpty && power.isNone then
      if ds.length > maxDigits then none
      else some (.whole (signed negative (digitsValue ds)), cs)
    else
      let size := Decimal.toFloat ⟨digitsValue (ds ++ places), power.getD 0 - places.length⟩
      some (.decimal (if negative then -size else size), cs)

def number? : Text → Option (Value × Text)
  | .char '-' :: cs => unsigned? true cs
  | cs => unsigned? false cs

/-- The words that are values. -/
def words : List (Text × Value) := [
  ("null", .nothing),
  ("true", .truth true),
  ("false", .truth false),
  ("NaN", .decimal (0.0 / 0.0)),
  ("Infinity", .decimal (1.0 / 0.0)),
  ("-Infinity", .decimal (-1.0 / 0.0))]

/-- A word or a number. -/
def scalar? (cs : Text) : Option (Value × Text) :=
  match words.find? fun w => w.1.isPrefixOf cs with
  | some w => some (w.2, cs.drop w.1.length)
  | none => number? cs

mutual

/-- A value and the text after it. Every opening bracket and every item takes one unit of the
allowance. -/
def value? (allowance : Nat) (cs : Text) : Option (Value × Text) :=
  match allowance with
  | 0 => none
  | allowance + 1 =>
    match cs with
    | .char '"' :: cs => (string? cs).map fun (s, rest) => (.text s, rest)
    | .char '[' :: cs =>
      match skipSpace cs with
      | .char ']' :: rest => some (.list [], rest)
      | cs => (items? allowance cs).map fun (vs, rest) => (.list vs, rest)
    | .char '\x7b' :: cs =>
      match skipSpace cs with
      | .char '\x7d' :: rest => some (.record [], rest)
      | cs => (fields? allowance cs).map fun (fs, rest) =>
          (.record (Table.ofList fs).entries, rest)
    | cs => scalar? cs

/-- The items of an array up to its closing bracket. -/
def items? (allowance : Nat) (cs : Text) : Option (List Value × Text) :=
  match allowance with
  | 0 => none
  | allowance + 1 => do
    let (v, cs) ← value? allowance cs
    match skipSpace cs with
    | .char ']' :: rest => some ([v], rest)
    | .char ',' :: cs =>
      let (vs, rest) ← items? allowance (skipSpace cs)
      some (v :: vs, rest)
    | _ => none

/-- The fields of an object up to its closing brace. -/
def fields? (allowance : Nat) (cs : Text) : Option (List (Text × Value) × Text) :=
  match allowance with
  | 0 => none
  | allowance + 1 =>
    match cs with
    | .char '"' :: cs => do
      let (k, cs) ← string? cs
      match skipSpace cs with
      | .char ':' :: cs =>
        let (v, cs) ← value? allowance (skipSpace cs)
        match skipSpace cs with
        | .char '\x7d' :: rest => some ([(k, v)], rest)
        | .char ',' :: cs =>
          let (fs, rest) ← fields? allowance (skipSpace cs)
          some ((k, v) :: fs, rest)
        | _ => none
      | _ => none
    | _ => none

end

end CommandShell.Value.Json

namespace CommandShell.Value

/-- The value that a JSON text denotes, if it denotes one. An allowance of two units for each code
point is never used up, since each unit goes with one that is read. -/
def ofJson? (t : Text) : Option Value :=
  let cs := Json.skipSpace t
  match Json.value? (2 * cs.length + 2) cs with
  | some (v, rest) => if (Json.skipSpace rest).isEmpty then some v else none
  | none => none

end CommandShell.Value
