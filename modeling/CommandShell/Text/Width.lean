import CommandShell.Text.WidthTable

/-!
Columns on a terminal, and tab stops.

The width of a text is not the sum over its characters: a joiner makes one picture of two, and a
selector turns a character into a picture, which is wide (`width`). A line is laid out stretch by
stretch, where a stretch ends at a tab; the blanks that the tab becomes lead up to the next tab stop
(`stretches`). The cells of a text carry a mark each, such as a style, and those blanks carry the
mark of the tab.

`width_of_plain`: without joiners and selectors the width is the sum; `not_tab_of_mem_stretches`: no
tab is left.
-/

namespace CommandShell.Text

/-- The columns that a character takes on its own. -/
def columns (c : CodePoint) : Nat :=
  if zeroWidthRanges.has c then 0 else if wideRanges.has c then 2 else 1

/-- Joins the pictures before and after it into one. -/
def joiner : CodePoint := .ofNat 0x200D

/-- Asks for the character before it to be shown as a picture. -/
def pictureSelector : CodePoint := .ofNat 0xFE0F

/-- The columns that a text takes, where `last` is the character before it that a selector would
still act on. A character that is joined to the one before takes no columns of its own. -/
def widthAfter (last : Option CodePoint) : Text → Nat
  | [] => 0
  | c :: cs =>
    if c = joiner then
      match cs with
      | [] => 0
      | _ :: cs => widthAfter last cs
    else if c = pictureSelector then
      (if last.any pictureRanges.has then 1 else 0) + widthAfter none cs
    else if columns c = 0 then widthAfter last cs
    else columns c + widthAfter (some c) cs

/-- The columns that a text takes. -/
def width (cs : Text) : Nat := widthAfter none cs

theorem widthAfter_of_plain {cs : Text} (hj : joiner ∉ cs) (hs : pictureSelector ∉ cs)
    (last : Option CodePoint) : widthAfter last cs = cs.foldr (fun c n => columns c + n) 0 := by
  induction cs generalizing last with
  | nil => rfl
  | cons c cs ih =>
    have hcj : c ≠ joiner := fun e => hj (by simp [e])
    have hcs : c ≠ pictureSelector := fun e => hs (by simp [e])
    have ih := ih (fun m => hj (List.mem_cons_of_mem _ m)) (fun m => hs (List.mem_cons_of_mem _ m))
    rw [widthAfter.eq_def]
    by_cases h : columns c = 0 <;> simp [hcj, hcs, h, ih]

/-- Where nothing is joined or turned into a picture, each character takes its own columns. -/
theorem width_of_plain {cs : Text} (hj : joiner ∉ cs) (hs : pictureSelector ∉ cs) :
    width cs = cs.foldr (fun c n => columns c + n) 0 :=
  widthAfter_of_plain hj hs none

/-- A control character that would move the cursor and is never printed: bell, backspace, vertical
tab, form feed or carriage return. -/
def movesCursor (c : CodePoint) : Bool :=
  c.value == 7 || c.value == 8 || c.value == 11 || c.value == 12 || c.value == 13

def tab : CodePoint := '\t'

/-- The distance between tab stops. -/
def tabStop : Nat := 8

/-- The blanks for a tab after a stretch that begins at a tab stop. The tab counts as one blank of
the stretch, and more fill up to the next stop. -/
def blanksForTab (stretch : Text) : Nat :=
  1 + (tabStop - width (stretch ++ " ") % tabStop) % tabStop

/-- The code points of a text with a mark on each, such as a style. -/
abbrev Cells (α : Type) := List (CodePoint × α)

variable {α : Type}

/-- The text of cells, without their marks. -/
def Cells.text (cells : Cells α) : Text := cells.map Prod.fst

/-- The stretches of a line, where `rev` is what the current one holds so far, last cell first. -/
def stretchesAfter (rev : Cells α) : Cells α → List (Cells α)
  | [] => [rev.reverse]
  | (c, mark) :: cells =>
    if c = tab then
      (rev.reverse ++ List.replicate (blanksForTab (Cells.text rev.reverse)) (.char ' ', mark))
        :: stretchesAfter [] cells
    else stretchesAfter ((c, mark) :: rev) cells

/-- The stretches of a line, with blanks for its tabs. -/
def stretches (cells : Cells α) : List (Cells α) := stretchesAfter [] cells

theorem not_tab_of_mem_stretchesAfter {rev cells : Cells α} (h : tab ∉ Cells.text rev) :
    ∀ s ∈ stretchesAfter rev cells, tab ∉ Cells.text s := by
  induction cells generalizing rev with
  | nil => simpa [stretchesAfter, Cells.text] using h
  | cons cell cells ih =>
    obtain ⟨c, mark⟩ := cell
    simp only [Cells.text] at h
    simp only [stretchesAfter]
    split
    · intro s hs
      rcases List.mem_cons.1 hs with rfl | hs
      · simp only [Cells.text, List.map_append, List.map_replicate, List.mem_append,
          List.map_reverse, List.mem_reverse, not_or, List.mem_replicate]
        exact ⟨h, fun e => absurd e.2 (by decide)⟩
      · exact ih (by simp [Cells.text]) s hs
    · rename_i hc
      refine ih ?_
      simp only [Cells.text, List.map_cons, List.mem_cons, not_or]
      exact ⟨Ne.symm hc, h⟩

/-- No tab is left. -/
theorem not_tab_of_mem_stretches {cells s : Cells α} (h : s ∈ stretches cells) :
    tab ∉ Cells.text s :=
  not_tab_of_mem_stretchesAfter (by simp [Cells.text]) s h

end CommandShell.Text
