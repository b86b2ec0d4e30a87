import CommandShell.Text.Blank

/-!
The tokens of a line.

White space separates tokens. A token that starts with a quote runs to the next quote of the same
kind and keeps what is between them; there are no escapes. Text after a closing quote starts a new
token at once, and a quote that is never closed takes the rest of the line, less the white space
at its end. `''` is the empty token.

The reader is an automaton over the code points (`Mode`, `scan`), so a line can be cut anywhere and
its parts read in turn. `splitFirst` reads one token and leaves the text after it as it stands;
`quote` and `join` write tokens so that they can be read back.
-/

namespace CommandShell.Token

open Text

/-- The double quote. -/
def doubleQuote : CodePoint := '"'

/-- The single quote. -/
def singleQuote : CodePoint := '\''

/-- One of the two quotes. Either closes only what it opened itself. -/
def isQuote (c : CodePoint) : Bool := c == doubleQuote || c == singleQuote

/-- Where the reader stands: between tokens, in a bare word, or after an opening quote. The code
points of the current token are kept last one first. -/
inductive Mode where
  | gap
  | word (rev : Text)
  | span (quote : CodePoint) (rev : Text)
deriving DecidableEq, Repr

/-- The tokens that are completed by reading `cs` to the end from a given mode. -/
def scan : Mode → Text → List Text
  | .gap, [] => []
  | .word rev, [] => [rev.reverse]
  | .span _ rev, [] => [(rev.dropWhile isBlank).reverse]
  | .gap, c :: cs =>
    if isBlank c then scan .gap cs
    else if isQuote c then scan (.span c []) cs
    else scan (.word [c]) cs
  | .word rev, c :: cs =>
    if isBlank c then rev.reverse :: scan .gap cs else scan (.word (c :: rev)) cs
  | .span q rev, c :: cs =>
    if c = q then rev.reverse :: scan .gap cs else scan (.span q (c :: rev)) cs

/-- The tokens of a line, in order. -/
def tokenize (line : Text) : List Text := scan .gap line

/-- Whether a token can be written as it is: it has code points, no white space, and does not start
with a quote. -/
def isBare : Text → Bool
  | [] => false
  | c :: cs => !isQuote c && !(c :: cs).any isBlank

/-- A token as it is written in a line. Between quotes stands what would not be read back as one
token otherwise; the single quote is taken only for a token that holds a double one. -/
def quote (token : Text) : Text :=
  if isBare token then token
  else if doubleQuote ∈ token then singleQuote :: token ++ [singleQuote]
  else doubleQuote :: token ++ [doubleQuote]

/-- Tokens as one line, a blank between each two. -/
def join (tokens : List Text) : Text := (" " : Text).intercalate (tokens.map quote)

/-- The first token of a line and the text after it, less the white space around it. -/
def splitFirst (line : Text) : Text × Text :=
  match trim line with
  | [] => ([], [])
  | c :: cs =>
    if isQuote c then
      match cs.dropWhile (· != c) with
      | [] => (cs, [])
      | _ :: rest => (cs.takeWhile (· != c), trim rest)
    else
      let word := (c :: cs).takeWhile (!isBlank ·)
      (word, trimLeft ((c :: cs).dropWhile (!isBlank ·)))

/-- The text begins with a quote. -/
def startsQuoted (t : Text) : Bool := t.head?.any isQuote

theorem scan_gap_of_allBlank {cs : Text} (h : allBlank cs = true) : scan .gap cs = [] := by
  induction cs with
  | nil => rfl
  | cons c cs ih =>
    simp only [allBlank, List.all_cons, Bool.and_eq_true] at h
    simp [scan, h.1, ih h.2]

/-- A bare word runs up to the next white space. -/
theorem scan_word (rev cs : Text) :
    scan (.word rev) cs =
      (rev.reverse ++ cs.takeWhile (!isBlank ·)) :: scan .gap (cs.dropWhile (!isBlank ·)) := by
  induction cs generalizing rev with
  | nil => simp [scan]
  | cons c cs ih =>
    cases h : isBlank c
    · simp [scan, h, ih]
    · simp [scan, h]

/-- A span that is closed holds what stands before the closing quote. -/
theorem scan_span_of_mem (q : CodePoint) (rev cs : Text) (h : q ∈ cs) :
    scan (.span q rev) cs =
      (rev.reverse ++ cs.takeWhile (· != q)) :: scan .gap (cs.dropWhile (· != q)).tail := by
  induction cs generalizing rev with
  | nil => simp at h
  | cons c cs ih =>
    by_cases hc : c = q
    · simp [scan, hc]
    · have hm : q ∈ cs := (List.mem_cons.1 h).resolve_left fun e => hc e.symm
      simp [scan, hc, ih _ hm]

/-- A span that is never closed holds the rest of the line, less the white space at its end. -/
theorem scan_span_of_not_mem (q : CodePoint) (rev cs : Text) (h : q ∉ cs) :
    scan (.span q rev) cs = [trimRight (rev.reverse ++ cs)] := by
  induction cs generalizing rev with
  | nil => simp [scan, trimRight]
  | cons c cs ih =>
    have hc : c ≠ q := fun e => h (by simp [e])
    have hm : q ∉ cs := fun m => h (List.mem_cons_of_mem _ m)
    simp [scan, hc, ih _ hm]

end CommandShell.Token
