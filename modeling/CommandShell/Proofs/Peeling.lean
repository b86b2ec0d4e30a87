import CommandShell.Proofs.Lexing

/-!
Tokens that are taken off a line one by one.

`splitFirst` looks for the end of the first token by itself, where the scan reads a line as a whole.
The alias command trusts the one, all other commands the other.
* `splitFirst_rest_suffix`: what `splitFirst` leaves is the end of the line as it stands;
* `length_splitFirst_lt`: it is shorter than the line, also after a token without code points.
So `peel`, which takes tokens off until nothing is left, ends for lines of any length, and
`splitFirst_agrees` says that it comes to the tokens of the line.
-/

namespace CommandShell.Token

open Text

/-! ## One token -/

/-- A trimmed text is empty or holds something other than white space. -/
theorem allBlank_eq_false_of_trim_eq {t : Text} (h : trim t = t) (hne : t ≠ []) :
    allBlank t = false := by
  cases hb : allBlank t
  · rfl
  · rw [trim, trimLeft_of_allBlank hb] at h
    exact absurd h.symm hne

theorem splitFirst_trim (line : Text) : splitFirst (trim line) = splitFirst line := by
  unfold splitFirst
  rw [trim_trim]

/-- What comes after the first token is left as it stands in the line. -/
theorem splitFirst_rest_suffix (line : Text) : (splitFirst line).2 <:+ trim line := by
  rw [← splitFirst_trim]
  by_cases hne : trim line = []
  · rw [hne]
    exact List.nil_suffix
  · have hb := allBlank_eq_false_of_trim_eq (trim_trim line) hne
    obtain ⟨first, rest, hl⟩ := exists_leads hb
    rw [hl.splitFirst_eq]
    exact trim_suffix (trim_trim line) hl.rest_suffix

/-- Taking a token off makes a line shorter, even if the token has no code points. -/
theorem length_splitFirst_lt {line : Text} (hne : line ≠ []) :
    (splitFirst line).2.length < line.length := by
  cases hb : allBlank line
  · obtain ⟨first, rest, hl⟩ := exists_leads hb
    have hrest := (trim_isInfix rest).length_le
    have hline := hl.length_lt
    rw [hl.splitFirst_eq]
    show (trim rest).length < line.length
    omega
  · rw [splitFirst_of_allBlank hb]
    exact List.length_pos_iff.2 hne

/-! ## All tokens -/

/-- The tokens that come off a line one after another, until nothing is left. -/
def peel (line : Text) : List Text :=
  if line = [] then [] else (splitFirst line).1 :: peel (splitFirst line).2
termination_by line.length
decreasing_by exact length_splitFirst_lt ‹_›

theorem peel_nil : peel [] = [] := by
  rw [peel, if_pos rfl]

theorem peel_of_ne_nil {line : Text} (hne : line ≠ []) :
    peel line = (splitFirst line).1 :: peel (splitFirst line).2 := by
  rw [peel, if_neg hne]

/-- What is left is trimmed each time, so it is empty once no token is left. -/
theorem peel_of_trim_eq {line : Text} (h : trim line = line) : peel line = tokenize line := by
  induction line using peel.induct with
  | case1 =>
    rw [peel_nil]
    rfl
  | case2 line hne ih =>
    -- Being trimmed and not empty, the line has a token; what is left after it is trimmed again.
    have hb := allBlank_eq_false_of_trim_eq h hne
    rw [peel_of_ne_nil hne, ih (trim_splitFirst line), ← tokenize_splitFirst hb]

/-- A line without tokens has no first token and nothing after it. Any other line is read as its
first token and the tokens of what `splitFirst` leaves, which is the end of the line as it stands.
So tokens that are taken off until nothing is left are the tokens of the line. -/
theorem splitFirst_agrees (line : Text) :
    (allBlank line = true → splitFirst line = ([], []) ∧ tokenize line = []) ∧
      (allBlank line = false →
        tokenize line = (splitFirst line).1 :: tokenize (splitFirst line).2 ∧
          trim (splitFirst line).2 = (splitFirst line).2 ∧ (splitFirst line).2 <:+ trim line ∧
          peel line = tokenize line) ∧
      peel (trim line) = tokenize line := by
  refine ⟨fun hb => ⟨splitFirst_of_allBlank hb, tokenize_eq_nil_iff.2 hb⟩, fun hb => ?_, ?_⟩
  · have hne : line ≠ [] := by
      rintro rfl
      cases hb
    have htrim := trim_splitFirst line
    refine ⟨tokenize_splitFirst hb, htrim, splitFirst_rest_suffix line, ?_⟩
    rw [peel_of_ne_nil hne, peel_of_trim_eq htrim, ← tokenize_splitFirst hb]
  · rw [peel_of_trim_eq (trim_trim line), tokenize_trim]

/-- A line with an empty span, spans side by side, a quote within a word, a separator that is no
blank and a span that is not closed. -/
def crowdedLine : Text := " ''\"a b\"'c'it's\u2003\"\"x 'and so  on "

theorem splitFirst_agrees_crowded :
    allBlank crowdedLine = false ∧
      tokenize crowdedLine = (splitFirst crowdedLine).1 :: tokenize (splitFirst crowdedLine).2 ∧
      trim (splitFirst crowdedLine).2 = (splitFirst crowdedLine).2 ∧
      (splitFirst crowdedLine).2 <:+ trim crowdedLine ∧
      peel crowdedLine = ["", "a b", "c", "it's", "", "x", "and so  on"] :=
  have hb : allBlank crowdedLine = false := by decide
  have htokens : tokenize crowdedLine = ["", "a b", "c", "it's", "", "x", "and so  on"] := by decide
  have h := (splitFirst_agrees crowdedLine).2.1 hb
  ⟨hb, h.1, h.2.1, h.2.2.1, h.2.2.2.trans htokens⟩

end CommandShell.Token
