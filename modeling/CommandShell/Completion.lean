import CommandShell.Text.Blank
import CommandShell.Text.Case

/-!
Completion of the command name that is being typed. Letter case is ignored; arguments are not
completed.
-/

namespace CommandShell

open Text

/-- The candidates that begin like the typed line. Once a word is followed by white space, the
name is complete and nothing is offered. -/
def completions (line : Text) (candidates : List Text) : List Text :=
  let typed := trimLeft line
  if hasBlank typed then []
  else candidates.filter fun name => (lower typed).isPrefixOf (lower name)

/-- A name to put in the place of the last `replaced` code points before the cursor. -/
structure Completion where
  name : Text
  replaced : Nat
deriving DecidableEq, Repr

/-- The completions at the end of `typed`: each replaces all but the white space in front. -/
def Completion.ofTyped (typed : Text) (candidates : List Text) : List Completion :=
  (completions typed candidates).map fun name =>
    { name, replaced := (trimLeft typed).length }

/-- The completions at a place in a text. A place before the beginning is counted from the end, and
there is none beyond the end. -/
def Completion.atCursor? (text : Text) (cursor : Int) (candidates : List Text) :
    Option (List Completion) :=
  if cursor > text.length then none
  else
    let place := if cursor < 0 then cursor + text.length else cursor
    some (ofTyped (text.take place.toNat) candidates)

end CommandShell
