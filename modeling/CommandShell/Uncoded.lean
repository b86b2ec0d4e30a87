import CommandShell.Value

/-!
Stretches of a text that cannot be coded: encoded in an encoding, or translated.

A stretch of one character is told by that character, a longer one by its bounds. Nothing keeps the
bounds inside the text. A stretch of one character before its beginning has no character to be told
by, and so no text at all.
-/

namespace CommandShell

/-- A stretch of a text, why it cannot be coded and, if it was to be encoded, the encoding. -/
structure Uncoded where
  encoding? : Option Text
  object : Text
  start : Int
  stop : Int
  reason : Text
deriving DecidableEq, Repr

namespace Uncoded

/-- The kind of a failure to encode. -/
def encodeKind : Text := "UnicodeEncodeError"

/-- The kind of a failure to translate. -/
def translateKind : Text := "UnicodeTranslateError"

/-- The stretch that the details of a failure of this kind tell of. -/
def ofDetails? (kind : Text) (details : List Value) : Option Uncoded :=
  match details with
  | [.text encoding, .text object, start, stop, .text reason] =>
    if kind = encodeKind then
      return ⟨some encoding, object, ← start.whole?, ← stop.whole?, reason⟩
    else none
  | [.text object, start, stop, .text reason] =>
    if kind = translateKind then
      return ⟨none, object, ← start.whole?, ← stop.whole?, reason⟩
    else none
  | _ => none

/-- What could not be done. -/
def complaint (u : Uncoded) : Text :=
  match u.encoding? with
  | some encoding => "'" ++ encoding ++ "' codec can't encode "
  | none => "can't translate "

/-- The only character of the stretch, if it has one and begins before the end of the text. -/
def character? (u : Uncoded) : Option (Except DisplayFault CodePoint) :=
  if u.stop = u.start + 1 && u.start < u.object.length then
    if u.start < 0 then some (.error .noCharacter)
    else u.object[u.start.toNat]?.map .ok
  else none

/-- What is told of the stretch. -/
def text (u : Uncoded) : Shown :=
  match u.character? with
  | some character => character.map fun c =>
    let escape : Text := (Text.escapeByNumber c.value).map .char
    u.complaint ++ "character '" ++ escape ++ "' in position " ++ Text.ofString (toString u.start)
      ++ ": " ++ u.reason
  | none =>
    .ok (u.complaint ++ "characters in position " ++ Text.ofString (toString u.start) ++ "-"
      ++ Text.ofString (toString (u.stop - 1)) ++ ": " ++ u.reason)

end Uncoded

end CommandShell
