import CommandShell.Text.Layout
import CommandShell.Text.Pattern
import CommandShell.Text.Width
import CommandShell.Text.WordTable

/-!
What stands out in a log message: tags, fields, brackets, addresses, names of calls, numbers,
paths, quoted text, links, and the verbs of web requests.

The parts are found by one pattern after the other and may overlap. They cut the message into runs
(`highlighted`), and a run that belongs to a part has a number. No run reaches beyond a tab.

`text_highlighted`: the text stays as it is.
-/

namespace CommandShell.Highlight

open Pattern

/-- A code point of a message, which may be one that words are made of. -/
structure Letter where
  point : CodePoint
  inWord : Bool

/-- The letters of a message. -/
def letters (t : Text) : List Letter := t.map fun c => ⟨c, Text.isWordPart c⟩

/-- The letter is one of these. -/
def among (cs : Text) (l : Letter) : Bool := cs.contains l.point

/-- A letter of a word, or one of these. -/
def wordOr (cs : Text) (l : Letter) : Bool := l.inWord || among cs l

/-- One of the ten digits. -/
def digit (l : Letter) : Bool := l.point.isDigit

/-- A digit of a hexadecimal number. -/
def hexDigit (l : Letter) : Bool := l.point.isDigit || among "abcdefABCDEF" l

/-- A digit of any script. -/
def anyDigit (l : Letter) : Bool := Text.isDecimal l.point

/-- A text, letter by letter. -/
def literal (t : Text) : Pattern Letter := all (t.map fun c => one (·.point == c))

/-- The beginning or the end of a word. -/
def wordEdge : Pattern Letter := between fun a b => a.any (·.inWord) != b.any (·.inWord)

/-- Inside a word, or outside of all. -/
def noWordEdge : Pattern Letter := between fun a b => a.any (·.inWord) == b.any (·.inWord)

/-- Not behind a letter of this kind. -/
def notBehind (fits : Letter → Bool) : Pattern Letter := between fun a _ => !a.any fits

/-- A tag between angle brackets. It reaches up to the last bracket that closes. -/
def tag : Pattern Letter :=
  all [part (literal "<"), part (run (wordOr "-.:|")), part (longRun fun _ => true),
    part (literal ">")]

/-- A name, an equals sign and, possibly, a value with or without quotes. -/
def field : Pattern Letter :=
  let quote := maybe (literal "\"")
  all [part (oneTo 50 (·.inWord)), literal "=",
    maybe (part (all [quote, oneOrMore (·.inWord), quote]))]

def bracket : Pattern Letter := part (one (among "[]\x7b\x7d()"))

/-- Four numbers of up to three digits, between dots. -/
def shortAddress : Pattern Letter :=
  part (seq (oneTo 3 digit) (times 3 (seq (literal ".") (oneTo 3 digit))))

/-- Up to eight groups of hexadecimal digits, between single or double colons. -/
def longAddress : Pattern Letter :=
  let group := all [oneTo 4 hexDigit, literal ":", maybe (literal ":")]
  part (all [group, upTo group 6, oneTo 4 hexDigit])

/-- Groups with separators between them: `n` of them with one, and a last one without. -/
def groups (n : Nat) (group : Pattern Letter) (separator : Text) : Pattern Letter :=
  seq (times n (seq group (literal separator))) group

/-- The number of a device: pairs of digits between hyphens or colons, or fewer groups of four
digits between dots. -/
def device (pairs fours : Nat) : Pattern Letter :=
  let four := times 4 (one hexDigit)
  part (first [groups pairs (oneTo 2 hexDigit) "-", groups pairs (oneTo 2 hexDigit) ":",
    groups fours four "."])

/-- Five groups of hexadecimal digits between hyphens, which are unique in the world. -/
def identifier : Pattern Letter :=
  let digits := fun n => times n (one hexDigit)
  part (all [digits 8, literal "-", groups 2 (digits 4) "-", literal "-", digits 12])

/-- What is called, in front of an opening parenthesis. -/
def call : Pattern Letter := seq (part (run (wordOr "."))) (literal "(")

/-- A word of its own. -/
def wholeWord (t : Text) : Pattern Letter := all [wordEdge, part (literal t), wordEdge]

/-- An exponent, if there is one. Those of its digits that follow the first are read by `digits`. -/
def exponent (digits : (Letter → Bool) → Pattern Letter) : Pattern Letter :=
  maybe (all [literal "e", maybe (one (among "-+")), one anyDigit, digits anyDigit])

/-- Digits with a point and an exponent. -/
def digitsWith (exponent : Pattern Letter) : Pattern Letter :=
  all [one digit, longRun digit, maybe (literal "."), longRun digit, exponent]

/-- A number with an imaginary part. -/
def complexNumber : Pattern Letter :=
  part (all [notBehind (·.inWord), maybe (literal "-"), digitsWith (exponent shortRun),
    maybe (seq (one (among "-+")) (digitsWith (exponent longRun))), literal "j"])

def number : Pattern Letter :=
  part (either
    (all [notBehind (·.inWord), maybe (literal "-"), digitsWith (exponent shortRun), wordEdge])
    (seq (literal "0x") (run hexDigit)))

/-- Directories, and possibly the name of a file. -/
def path : Pattern Letter :=
  let name := wordOr "-._+"
  seq (part (all [noWordEdge, many (seq (literal "/") (oneOrMore name)), literal "/"]))
    (maybe (part (run name)))

/-- A text between quotes, on one line. A quote behind a backslash does not end it. -/
def quotedBy (quote : Text) : Pattern Letter :=
  all [maybe (literal "b"), literal quote, shortRun (·.point != Text.lineFeed),
    notBehind (among "\\"), literal quote]

def quoted : Pattern Letter :=
  seq (notBehind (wordOr "\\"))
    (part (first [quotedBy "'''", quotedBy "'", quotedBy "\"\"\"", quotedBy "\""]))

/-- A character of a link. -/
def inLink (l : Letter) : Bool :=
  l.point.isAlpha || l.point.isDigit || among "-$_+!`(),.?/;:&=%#~@" l

def link : Pattern Letter :=
  part (all [first (["file", "https", "http", "ws", "wss"].map fun s => literal (Text.ofString s)),
    literal "://", run inLink])

/-- A verb of a web request. -/
def verb : Pattern Letter :=
  part (first (["GET", "POST", "HEAD", "PUT", "DELETE", "OPTIONS", "TRACE", "PATCH"].map fun s =>
    literal (Text.ofString s)))

/-- The patterns that a message is searched for. -/
def patterns : List (Pattern Letter) := [
  tag, field, bracket,
  first [shortAddress, longAddress, device 7 3, device 5 2, identifier, call, wholeWord "True",
    wholeWord "False", wholeWord "None", part (literal "..."), complexNumber, number, path, quoted,
    link],
  verb]

/-- The parts that stand out. -/
def parts (t : Text) : List Part :=
  let ls := letters t
  patterns.flatMap (·.partsIn ls)

/-- The run that a code point belongs to: its number, if it belongs to a part. -/
abbrev Run := Option Nat

/-- Gives the code points of a text, from `index` on, their runs. `starts` and `stops` are the
indices, in ascending order, at which parts are still to begin and to end; `depth` parts hold the
code point before, which has the number `run`, and `cut` says that it ends its run. -/
def runsAfter (starts stops : List Nat) (depth run index : Nat) (cut : Bool) :
    Text → Text.Cells Run
  | [] => []
  | c :: cs =>
    let begun := starts.takeWhile (· ≤ index)
    let ended := stops.takeWhile (· ≤ index)
    let depth := depth + begun.length - ended.length
    let run := if cut || !begun.isEmpty || !ended.isEmpty then run + 1 else run
    (c, if depth = 0 then none else some run) ::
      runsAfter (starts.drop begun.length) (stops.drop ended.length) depth run (index + 1)
        (c == Text.tab) cs

/-- A message with its runs. -/
def highlighted (t : Text) : Text.Cells Run :=
  let ps := parts t
  let sorted := fun (ns : List Nat) => ns.mergeSort (· ≤ ·)
  runsAfter (sorted (ps.map (·.start))) (sorted (ps.map (·.stop))) 0 0 0 false t

theorem text_runsAfter (starts stops : List Nat) (depth run index : Nat) (cut : Bool) (t : Text) :
    Text.Cells.text (runsAfter starts stops depth run index cut t) = t := by
  induction t generalizing starts stops depth run index cut with
  | nil => rfl
  | cons c cs ih =>
    have h := fun starts stops depth run => ih starts stops depth run (index + 1) (c == Text.tab)
    simp only [Text.Cells.text] at h
    simp [runsAfter, Text.Cells.text, h]

/-- The text stays as it is. -/
theorem text_highlighted (t : Text) : Text.Cells.text (highlighted t) = t :=
  text_runsAfter ..

end CommandShell.Highlight
