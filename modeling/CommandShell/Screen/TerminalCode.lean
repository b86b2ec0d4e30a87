import CommandShell.Text.CodePoint

/-!
Terminal codes in a text, and the text without them.

A code begins with an escape and an opening bracket, runs over digits, semicolons and question
marks, and ends with a letter (`after?`). An escape that begins no code stays where it is.
-/

namespace CommandShell.TerminalCode

/-- The code point that begins a code. -/
def escapeSign : CodePoint := '\x1b'

/-- What may stand between the opening bracket of a code and its letter. -/
def isParameter (c : CodePoint) : Bool := c.isDigit || c == ';' || c == '?'

/-- What follows the code that a text begins with. -/
def after? : Text → Option (Text)
  | .char '\x1b' :: .char '[' :: cs =>
    match cs.dropWhile isParameter with
    | c :: rest => if c.isAlpha then some rest else none
    | [] => none
  | _ => none

theorem length_of_after? {cs rest : Text} (h : after? cs = some rest) :
    rest.length < cs.length := by
  unfold after? at h
  split at h
  · rename_i cs
    have hle := (List.dropWhile_suffix (l := cs) isParameter).length_le
    split at h
    · rename_i c rest' hd
      split at h
      · simp only [Option.some.injEq] at h
        rw [hd] at hle
        simp only [List.length_cons] at hle ⊢
        rw [← h]
        omega
      · cases h
    · cases h
  · cases h

theorem after?_eq_none_of_ne {c : CodePoint} (cs : Text) (h : c ≠ escapeSign) :
    after? (c :: cs) = none := by
  unfold after?
  split
  · simp_all [escapeSign]
  · rfl

/-- The text without its codes, as it goes anywhere but to a terminal. -/
def dropCodes (cs : Text) : Text :=
  match _h : after? cs with
  | some rest => dropCodes rest
  | none =>
    match cs with
    | [] => []
    | c :: cs => c :: dropCodes cs
termination_by cs.length
decreasing_by
  · exact length_of_after? ‹_›
  · simp

/-- A text without escapes stays as it is. -/
theorem dropCodes_of_not_mem {cs : Text} (h : escapeSign ∉ cs) : dropCodes cs = cs := by
  induction cs with
  | nil => rw [dropCodes]; rfl
  | cons c cs ih =>
    have hc : c ≠ escapeSign := fun e => h (by simp [e])
    have hcs : escapeSign ∉ cs := fun m => h (List.mem_cons_of_mem _ m)
    rw [dropCodes]
    split
    · rename_i rest hr
      rw [after?_eq_none_of_ne cs hc] at hr
      cases hr
    · simp [ih hcs]

end CommandShell.TerminalCode
