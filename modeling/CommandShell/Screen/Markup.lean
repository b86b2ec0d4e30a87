import CommandShell.Text.CodePoint

/-!
A small markup for styled text: `[bold red]` opens a style and a tag with a slash closes it.

A bracket is a tag if it begins like one (`tagBody?`). Backslashes in front of a tag halve, and an
odd one makes the tag plain text; in front of any other bracket one backslash disappears. `escape`
writes a text so that it holds no tags.

A text is read as a list of pieces (`pieces`); both `escape` and `cells` are functions of them.
-/

namespace CommandShell.Markup

/-- The styles that the screen uses. -/
inductive Style where
  | boldGreen
  | boldRed
deriving DecidableEq, Repr

namespace Style

/-- The style as it is written in a tag. -/
def name : Style → Text
  | .boldGreen => "bold green"
  | .boldRed => "bold red"

/-- The style as a terminal takes it. -/
def code : Style → Text
  | .boldGreen => "1;32"
  | .boldRed => "1;31"

def ofName? (t : Text) : Option Style :=
  [boldGreen, boldRed].find? fun style => style.name == t

end Style

def backslash : CodePoint := '\\'

def openingBracket : CodePoint := '['

def closingBracket : CodePoint := ']'

/-- There is no bracket inside a tag. -/
def inTag (c : CodePoint) : Bool := c != openingBracket && c != closingBracket

/-- A tag begins with a small letter or one of three signs. -/
def startsTag (c : CodePoint) : Bool :=
  c.isLower || c == '#' || c == '/' || c == '@'

/-- The text inside a tag, given the text after its opening bracket, and what follows the tag. -/
def tagBody? : Text → Option (Text × Text)
  | [] => none
  | c :: cs =>
    if startsTag c then
      match cs.dropWhile inTag with
      | .char ']' :: rest => some (c :: cs.takeWhile inTag, rest)
      | _ => none
    else none

/-- A tag at the head of a text: how many backslashes stand in front of it, its text, and what
follows. -/
def tag? (cs : Text) : Option (Nat × Text × Text) :=
  match cs.dropWhile (· == backslash) with
  | .char '[' :: rest =>
    (tagBody? rest).map fun (body, rest) => ((cs.takeWhile (· == backslash)).length, body, rest)
  | _ => none

theorem length_dropWhile_le (p : CodePoint → Bool) (cs : Text) :
    (cs.dropWhile p).length ≤ cs.length :=
  (List.dropWhile_suffix p).length_le

theorem length_of_tagBody? {cs body rest : Text} (h : tagBody? cs = some (body, rest)) :
    rest.length < cs.length := by
  cases cs with
  | nil => simp [tagBody?] at h
  | cons c cs =>
    simp only [tagBody?] at h
    split at h
    · split at h
      · rename_i rest' hd
        simp only [Option.some.injEq, Prod.mk.injEq] at h
        have := length_dropWhile_le inTag cs
        rw [hd] at this
        simp only [List.length_cons] at this ⊢
        rw [← h.2]
        omega
      · cases h
    · cases h

theorem length_of_tag? {cs body rest : Text} {n : Nat} (h : tag? cs = some (n, body, rest)) :
    rest.length < cs.length := by
  simp only [tag?] at h
  split at h
  · rename_i after hd
    obtain ⟨⟨body', rest'⟩, hb, he⟩ := Option.map_eq_some_iff.1 h
    simp only [Prod.mk.injEq] at he
    have h₁ := length_of_tagBody? hb
    have h₂ := length_dropWhile_le (· == backslash) cs
    rw [hd] at h₂
    simp only [List.length_cons] at h₂
    rw [← he.2.2]
    omega
  · cases h

/-- A piece of a text: one code point, or a tag with the backslashes in front of it. -/
inductive Piece where
  | plain (c : CodePoint)
  | tag (slashes : Nat) (body : Text)
deriving DecidableEq, Repr

/-- The pieces of a text. -/
def pieces (cs : Text) : List Piece :=
  match _h : tag? cs with
  | some (n, body, rest) => .tag n body :: pieces rest
  | none =>
    match cs with
    | [] => []
    | c :: cs => .plain c :: pieces cs
termination_by cs.length
decreasing_by
  · exact length_of_tag? ‹_›
  · simp

/-- Backslashes. -/
def slashes (n : Nat) : Text := List.replicate n backslash

/-- A text between brackets. -/
def bracketed (body : Text) : Text := openingBracket :: body ++ [closingBracket]

/-- A piece written so that it is not a tag. -/
def Piece.escaped : Piece → Text
  | .plain c => [c]
  | .tag n body => slashes (2 * n + 1) ++ bracketed body

/-- The text ends in exactly one backslash. -/
def endsInOneSlash (cs : Text) : Bool :=
  cs.getLast? == some backslash && cs.dropLast.getLast? != some backslash

/-- A text written so that it holds no tags. One backslash at its end is doubled, so that it does
not act on a tag that comes after. -/
def escape (cs : Text) : Text :=
  let written := (pieces cs).flatMap Piece.escaped
  if endsInOneSlash written then written ++ [backslash] else written

/-- The style after a tag. -/
def styleAfter (body : Text) : Option Style := Style.ofName? body

/-- The code points that a list of pieces shows, each with its style. -/
def showPieces (style : Option Style) : List Piece → List (CodePoint × Option Style)
  | [] => []
  | .plain (.char '\\') :: .plain (.char '[') :: ps =>
    (openingBracket, style) :: showPieces style ps
  | .plain c :: ps => (c, style) :: showPieces style ps
  | .tag n body :: ps =>
    let before := (slashes (n / 2)).map fun c => (c, style)
    if n % 2 = 1 then
      before ++ (bracketed body).map (fun c => (c, style)) ++ showPieces style ps
    else before ++ showPieces (styleAfter body) ps

/-- The code points that a text shows, each with its style. -/
def cells (cs : Text) : List (CodePoint × Option Style) := showPieces none (pieces cs)

/-- A text between the tags of a style. -/
def styled (style : Style) (cs : Text) : Text :=
  bracketed style.name ++ cs ++ bracketed ("/" ++ style.name)

end CommandShell.Markup
