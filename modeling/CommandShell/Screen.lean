import CommandShell.Builtin
import CommandShell.Screen.Markup
import CommandShell.Text.Wrap

/-!
What the shell prints: the welcome, notes, and the results of lines.

Texts of the shell are written in its markup with their brackets escaped; the output of a command
is printed as it is. Characters that would move the cursor are dropped, tabs become blanks, and
lines that are too long for the display are broken. With colour, styled text stands between two
terminal codes, which do not reach beyond a tab or the end of a line.
-/

namespace CommandShell

/-- Something to print. -/
inductive Item where
  | welcome (text : Text)
  | note (text : Text)
  | result (r : Result)
deriving DecidableEq, Repr

/-- What is printed on: how many columns a line has, and whether there are colours. -/
structure Display where
  columns : Nat
  color : Bool := false
deriving DecidableEq, Repr

namespace Screen

open Markup (Style)
open Text (Cells lineFeed)

/-- The style of printed text, with a number for the stretch of the line that it stands in. -/
abbrev Mark := Option (Style × Nat)

/-- The cells of a line with blanks for its tabs. -/
def markStretches (line : Cells (Option Style)) : Cells Mark :=
  (Text.stretches line).zipIdx.flatMap fun (stretch, n) =>
    stretch.map fun (c, style) => (c, style.map (·, n))

/-- The lines that are printed for the cells of a text. -/
def layout (columns : Nat) (cells : Cells (Option Style)) : List (Cells Mark) :=
  let kept := cells.filter fun cell => !Text.movesCursor cell.1
  (Text.splitAfter (fun cell => cell.1 == lineFeed) [] kept).flatMap fun line =>
    Text.wrapped columns (markStretches line)

/-- What begins a style. -/
def styleCode (style : Style) : Text := "\x1b[" ++ style.code ++ "m"

/-- What ends a style. -/
def resetCode : Text := "\x1b[0m"

/-- Ends one mark and begins another. -/
def turn (current next : Mark) : Text :=
  if current = next then []
  else
    let ending : Text := if current.isSome then resetCode else []
    match next with
    | some (style, _) => ending ++ styleCode style
    | none => ending

/-- The cells of a line with the codes of their styles. -/
def paint (current : Mark) : Cells Mark → Text
  | [] => turn current none
  | (c, mark) :: cells => turn current mark ++ c :: paint mark cells

/-- Prints cells and ends the line. -/
def printed (display : Display) (cells : Cells (Option Style)) : Text :=
  let draw := if display.color then paint none else Cells.text
  Text.joinLines ((layout display.columns cells).map draw) ++ [lineFeed]

/-- Prints a text of the markup. -/
def printMarkup (display : Display) (t : Text) : Text := printed display (Markup.cells t)

/-- Prints a text as it is. -/
def printPlain (display : Display) (t : Text) : Text :=
  printed display (t.map fun c => (c, none))

/-- Prints an item. A result without output prints nothing, and the text that clears the screen
goes to a terminal only. -/
def render (display : Display) : Item → Text
  | .welcome text => printMarkup display (Markup.styled .boldGreen (Markup.escape text))
  | .note text => printMarkup display (Markup.escape text)
  | .result (.failed error) =>
    printMarkup display (Markup.styled .boldRed "error:" ++ " " ++ Markup.escape error)
  | .result (.done output) =>
    if output = clearScreen then (if display.color then clearScreen else [])
    else if output.isEmpty then []
    else printPlain display output

end Screen

end CommandShell
