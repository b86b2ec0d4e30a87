/-!
Texts. A text is a list of code points, and a code point is a character or a surrogate. A surrogate
is half of a character beyond the first 65,536 and means nothing on its own, but JSON text can name
one, so a text can hold it. No character is a surrogate: what a text that holds one is written as
is decided where it is written (`toString?`, `escapedString`).

`value_injective`: code points are told apart by their numbers, which also put texts in order;
`toString?_ofString`: a string is read as a text and written back without loss.
-/

namespace CommandShell

/-- A place of a text: a character, or the surrogate of a number counted from the first one. -/
inductive CodePoint where
  | char (c : Char)
  | surrogate (n : Fin 0x800)
deriving DecidableEq, Repr

/-- A piece of text. -/
abbrev Text := List CodePoint

instance : Coe Char CodePoint := ⟨.char⟩

namespace CodePoint

instance : Inhabited CodePoint := ⟨'\x00'⟩

/-- The number of the first surrogate. -/
def firstSurrogate : Nat := 0xD800

/-- The number of a code point. -/
def value : CodePoint → Nat
  | .char c => c.toNat
  | .surrogate n => firstSurrogate + n

/-- The code point of a number. -/
def ofNat (n : Nat) : CodePoint :=
  if h : n - firstSurrogate < 0x800 ∧ firstSurrogate ≤ n then
    .surrogate ⟨n - firstSurrogate, h.1⟩
  else .char (Char.ofNat n)

/-- The character that a code point is. -/
def char? : CodePoint → Option Char
  | .char c => some c
  | .surrogate _ => none

/-- A digit of the ten in ASCII. -/
def isDigit (c : CodePoint) : Bool := c.char?.any Char.isDigit

/-- A small letter of ASCII. -/
def isLower (c : CodePoint) : Bool := c.char?.any Char.isLower

/-- A letter of ASCII. -/
def isAlpha (c : CodePoint) : Bool := c.char?.any Char.isAlpha

theorem toNat_ne_value_surrogate (c : Char) (n : Fin 0x800) :
    c.toNat ≠ (CodePoint.surrogate n).value := by
  have h := c.valid
  have hn := n.isLt
  simp only [UInt32.isValidChar, Nat.isValidChar] at h
  simp only [Char.toNat, value, firstSurrogate]
  omega

theorem value_injective {c d : CodePoint} (h : c.value = d.value) : c = d := by
  cases c with
  | char c =>
    cases d with
    | char d => rw [Char.toNat_inj.1 h]
    | surrogate n => exact absurd h (toNat_ne_value_surrogate c n)
  | surrogate m =>
    cases d with
    | char d => exact absurd h.symm (toNat_ne_value_surrogate d m)
    | surrogate n => rw [Fin.ext (Nat.add_left_cancel h)]

theorem value_ofNat_of_surrogate {n : Nat} (h₁ : firstSurrogate ≤ n)
    (h₂ : n < firstSurrogate + 0x800) : (ofNat n).value = n := by
  have h : n - firstSurrogate < 0x800 ∧ firstSurrogate ≤ n := ⟨by omega, h₁⟩
  rw [ofNat, dif_pos h]
  exact Nat.add_sub_cancel' h₁

end CodePoint

namespace Text

/-- The text that a string is. -/
def ofString (s : String) : Text := s.toList.map .char

instance : Coe String Text := ⟨ofString⟩

/-- The text as a string, unless it holds a surrogate. -/
def toString? (t : Text) : Option String := (t.mapM CodePoint.char?).map String.ofList

/-- The numbers of the code points. Texts are put in order by these. -/
def values (t : Text) : List Nat := t.map CodePoint.value

/-- The text with three replacement characters for every surrogate, since none of the three bytes
that a surrogate would be written in can stand there. -/
def replaceSurrogates (t : Text) : Text :=
  t.flatMap fun
    | .char c => [.char c]
    | .surrogate _ => List.replicate 3 '\ufffd'

@[simp] theorem ofString_empty : ofString "" = [] := rfl

theorem mapM_char?_map_char (cs : List Char) :
    (cs.map CodePoint.char).mapM CodePoint.char? = some cs := by
  induction cs with
  | nil => rfl
  | cons c cs ih => simp [ih, CodePoint.char?]

theorem toString?_ofString (s : String) : (ofString s).toString? = some s := by
  rw [toString?, ofString, mapM_char?_map_char, Option.map_some, String.ofList_toList]

theorem values_injective {s t : Text} (h : values s = values t) : s = t :=
  (List.map_inj_right fun _ _ => CodePoint.value_injective).1 h

end Text

end CommandShell
