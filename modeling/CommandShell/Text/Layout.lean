import CommandShell.Text.CodePoint

/-!
Lines, columns and numbers of a printed listing, and the parts of a text.
-/

namespace CommandShell.Text

/-- Lines of text, one under the other. -/
def joinLines (lines : List Text) : Text := ("\n" : Text).intercalate lines

/-- The parts of a list between separators, what the first one holds before the list being `rev`,
last item first. -/
def splitAfter {α : Type} (separates : α → Bool) (rev : List α) : List α → List (List α)
  | [] => [rev.reverse]
  | a :: as =>
    if separates a then rev.reverse :: splitAfter separates [] as
    else splitAfter separates (a :: rev) as

/-- The parts of a text between separators; there is one more than there are separators. -/
def splitAt (separator : CodePoint) (t : Text) : List Text := splitAfter (· == separator) [] t

def lineFeed : CodePoint := '\n'

/-- The lines of a text. -/
def splitLines (t : Text) : List Text := splitAt lineFeed t

def blanks (n : Nat) : Text := List.replicate n ' '

/-- The text with blanks after it, to at least `width` code points. -/
def padRight (width : Nat) (t : Text) : Text := t ++ blanks (width - t.length)

/-- The text with blanks before it, to at least `width` code points. -/
def padLeft (width : Nat) (t : Text) : Text := blanks (width - t.length) ++ t

/-- The lines with their numbers, counted from one. -/
def numbered (lines : List Text) : List (Text × Text) :=
  (lines.zipIdx 1).map fun (line, n) => (toString n, line)

end CommandShell.Text
