import CommandShell.Text.CodePoint

/-!
Floating-point numbers as decimal text.

A finite number is `mantissa * 2^exponent` (`Binary`). It is written with the fewest digits that no
other floating-point number is nearer to (`shortest`): for one digit, two digits and so on the two
decimals around the number are tried. Of two that will do, the nearer one is taken, and of two that
are equally near the one with an even last digit.
-/

namespace CommandShell

/-- The size of a finite floating-point number, `mantissa * 2^exponent`, and its sign. -/
structure Binary where
  negative : Bool
  mantissa : Nat
  exponent : Int
  /-- The next smaller size is only half as far away as the next larger one. -/
  narrowBelow : Bool
deriving DecidableEq, Repr

/-- A decimal: `digits * 10^exponent`. -/
structure Decimal where
  digits : Nat
  exponent : Int
deriving DecidableEq, Repr

/-- A power of ten. -/
def tenTo (n : Nat) : Nat := Nat.pow 10 n

/-- The parts of a floating-point number; none if it is infinite or undefined. -/
def Binary.ofFloat? (x : Float) : Option Binary :=
  let bits := x.toBits.toNat
  let field := (bits >>> 52) % 2048
  let fraction := bits % (1 <<< 52)
  let negative := bits >>> 63 == 1
  if field = 2047 then none
  else if field = 0 then some ⟨negative, fraction, -1074, false⟩
  else some ⟨negative, (1 <<< 52) + fraction, (field : Int) - 1075, fraction == 0 && field > 1⟩

/-- The whole part of the size. -/
def Binary.wholePart (b : Binary) : Nat :=
  (b.mantissa <<< b.exponent.toNat) >>> (-b.exponent).toNat

namespace Decimal

/-- Compares `a * 10^i` with `n * 2^j`. -/
def compareScaled (a : Nat) (i : Int) (n : Nat) (j : Int) : Ordering :=
  compare ((a * tenTo i.toNat) <<< (-j).toNat) ((n <<< j.toNat) * tenTo (-i).toNat)

/-- No other floating-point number is nearer to the decimal. Half-way points belong to numbers of
even mantissa. -/
def readsBack (b : Binary) (d : Decimal) : Bool :=
  let low := 4 * b.mantissa - if b.narrowBelow then 1 else 2
  let high := 4 * b.mantissa + 2
  let even := b.mantissa % 2 == 0
  let above := compareScaled d.digits d.exponent low (b.exponent - 2)
  let below := compareScaled d.digits d.exponent high (b.exponent - 2)
  (above == .gt || (even && above == .eq)) && (below == .lt || (even && below == .eq))

/-- The number of decimal digits. -/
def digitCount (n : Nat) : Nat := (Nat.toDigits 10 n).length

/-- The least power of ten that is larger than the number, which is not zero. -/
def scale (b : Binary) : Int :=
  let top := b.mantissa <<< b.exponent.toNat
  let bottom := 1 <<< (-b.exponent).toNat
  let estimate := (digitCount top : Int) - digitCount bottom
  if compareScaled 1 estimate b.mantissa b.exponent == .gt then estimate else estimate + 1

/-- The number over a power of ten, rounded down. -/
def quotient (b : Binary) (power : Int) : Nat :=
  ((b.mantissa <<< b.exponent.toNat) * tenTo (-power).toNat)
    / (tenTo power.toNat <<< (-b.exponent).toNat)

/-- The multiple of a power of ten that reads back to the number, if there is one. -/
def onGrid? (b : Binary) (power : Int) : Option Decimal :=
  let n := quotient b power
  let low : Decimal := ⟨n, power⟩
  let high : Decimal := ⟨n + 1, power⟩
  match readsBack b low, readsBack b high with
  | false, false => none
  | true, false => some low
  | false, true => some high
  | true, true =>
    some <| match compareScaled (2 * n + 1) power (2 * b.mantissa) b.exponent with
      | .gt => low
      | .lt => high
      | .eq => if n % 2 = 0 then low else high

/-- The most digits that are ever needed. -/
def maxDigits : Nat := 17

/-- All digits of a number. -/
def exact (b : Binary) : Decimal :=
  ⟨(b.mantissa <<< b.exponent.toNat) * Nat.pow 5 (-b.exponent).toNat, min b.exponent 0⟩

/-- The shortest decimal of a number that is not zero. -/
def shortest (b : Binary) : Decimal :=
  let top := scale b
  ((List.range maxDigits).findSome? fun (n : Nat) => onGrid? b (top - (n + 1))).getD (exact b)

/-- Zeros. -/
def zeros (n : Nat) : List Char := List.replicate n '0'

/-- The digits without zeros at the end, which move into the exponent. -/
def significant (d : Decimal) : List Char :=
  ((Nat.toDigits 10 d.digits).reverse.dropWhile (· == '0')).reverse

/-- The exponent of a number in powers of ten, written with a sign and two digits at least. -/
def exponentText (n : Int) : List Char :=
  let digits := Nat.toDigits 10 n.natAbs
  'e' :: (if n < 0 then '-' else '+') :: zeros (2 - digits.length) ++ digits

/-- A decimal is written without an exponent if its point stands at most this far behind its first
digit. -/
def lastPlain : Int := 16

/-- A decimal is written without an exponent if its point stands at most this far before its first
digit. -/
def firstPlain : Int := -3

/-- A decimal as it is written. -/
def write (d : Decimal) : List Char :=
  let digits := significant d
  let point := (digitCount d.digits : Int) + d.exponent
  if point > lastPlain || point < firstPlain then
    digits.take 1 ++ (if digits.length > 1 then '.' :: digits.drop 1 else [])
      ++ exponentText (point - 1)
  else if point ≤ 0 then '0' :: '.' :: zeros (-point).toNat ++ digits
  else
    let whole := digits.take point.toNat
    let rest := digits.drop point.toNat
    whole ++ zeros (point.toNat - digits.length) ++ '.' :: (if rest.isEmpty then ['0'] else rest)

/-- Beyond this power of ten all floating-point numbers are infinite, and below its inverse they are
zero. -/
def farPower : Nat := 400

/-- The floating-point number that is nearest to a decimal. -/
def toFloat (d : Decimal) : Float :=
  if d.digits = 0 || d.exponent + digitCount d.digits < -farPower then 0.0
  else if d.exponent > farPower then 1.0 / 0.0
  else Float.ofScientific d.digits (d.exponent < 0) d.exponent.natAbs

end Decimal

/-- A floating-point number as it is written. -/
def floatText (x : Float) : Text :=
  match Binary.ofFloat? x with
  | some b =>
    let size := if b.mantissa = 0 then ['0', '.', '0'] else (Decimal.shortest b).write
    (if b.negative then '-' :: size else size).map .char
  | none => if x > 0.0 then "inf" else if x < 0.0 then "-inf" else "nan"

end CommandShell
