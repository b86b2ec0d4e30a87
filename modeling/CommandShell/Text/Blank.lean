import CommandShell.Text.Ranges

/-!
White space, and the cutting of texts at it.

* `isBlank_of_isWhitespace`: what is white space in ASCII is white space here;
* `trimLeft_cons_of_not_blank`, `trimRight_append_not_blank`: cutting stops at the first code point
  that is not.
-/

namespace CommandShell.Text

/-- The code points that count as white space: the ASCII blanks and separators, the next-line
character, the no-break space and the Unicode separators. -/
def blankRanges : Ranges := [
  (0x9, 0xD), (0x1C, 0x20), (0x85, 0x85), (0xA0, 0xA0), (0x1680, 0x1680), (0x2000, 0x200A),
  (0x2028, 0x2029), (0x202F, 0x202F), (0x205F, 0x205F), (0x3000, 0x3000)]

/-- White space separates the tokens of a line. -/
def isBlank (c : CodePoint) : Bool := blankRanges.has c

theorem isBlank_of_isWhitespace {c : Char} (h : c.isWhitespace = true) : isBlank c = true := by
  simp only [Char.isWhitespace, Bool.or_eq_true, decide_eq_true_eq] at h
  rcases h with ((rfl | rfl) | rfl) | rfl <;> rfl

def trimLeft (t : Text) : Text := t.dropWhile isBlank

def trimRight (t : Text) : Text := (t.reverse.dropWhile isBlank).reverse

/-- The text without the white space at its ends. -/
def trim (t : Text) : Text := trimRight (trimLeft t)

/-- Nothing but white space. -/
def allBlank (t : Text) : Bool := t.all isBlank

/-- The text holds white space somewhere. -/
def hasBlank (t : Text) : Bool := t.any isBlank

@[simp] theorem trimLeft_nil : trimLeft [] = [] := rfl

@[simp] theorem trimRight_nil : trimRight [] = [] := rfl

@[simp] theorem trim_nil : trim [] = [] := rfl

theorem trimLeft_cons_of_blank {c : CodePoint} (t : Text) (h : isBlank c = true) :
    trimLeft (c :: t) = trimLeft t := by
  simp [trimLeft, h]

theorem trimLeft_cons_of_not_blank {c : CodePoint} (t : Text) (h : isBlank c = false) :
    trimLeft (c :: t) = c :: t := by
  simp [trimLeft, h]

theorem trimRight_append_blank (t : Text) {c : CodePoint} (h : isBlank c = true) :
    trimRight (t ++ [c]) = trimRight t := by
  simp [trimRight, h]

theorem trimRight_append_not_blank (t : Text) {c : CodePoint} (h : isBlank c = false) :
    trimRight (t ++ [c]) = t ++ [c] := by
  simp [trimRight, h]

end CommandShell.Text
