import CommandShell.Text.Blank
import CommandShell.Text.Width

/-!
Lines that are too long for a terminal.

A line is broken between words, where a word is what runs up to the next one (`words`); the white
space in front of the line belongs to the first word. A word that is wider than a line is cut
(`chop`), but never between code points that are shown as one picture or letter (`clusters`).

Cells of one mark that stand together are a piece. A terminal is given a line piece by piece and
measures each piece on its own, so a joiner at the end of a piece joins nothing. A line that takes
too many columns in this way loses its end (`fitted`).

`flatten_folded`: breaking loses nothing. Only then is each line cut to its limit (`wrapped`).
`flatten_pieces`: neither does cutting into pieces.
-/

namespace CommandShell.Text

variable {α : Type}

/-- The width of the text of cells. -/
def Cells.width (cells : Cells α) : Nat := Text.width (Cells.text cells)

/-- The cells without the blanks at their end. -/
def Cells.trimRight (cells : Cells α) : Cells α :=
  (cells.reverse.dropWhile fun cell => isBlank cell.1).reverse

/-- The words of a line, where `rev` is what the current one holds so far, last cell first, and
`begun` says that it holds more than white space. -/
def wordsAfter (begun : Bool) (rev : Cells α) : Cells α → List (Cells α)
  | [] => [rev.reverse]
  | cell :: cells =>
    let blank := isBlank cell.1
    if begun && !blank && rev.head?.any (fun last => isBlank last.1) then
      rev.reverse :: wordsAfter true [cell] cells
    else wordsAfter (begun || !blank) (cell :: rev) cells

/-- The words of a line, each with the white space after it. -/
def words (cells : Cells α) : List (Cells α) := wordsAfter false [] cells

/-- Cells that are shown as one, and their width. -/
structure Cluster (α : Type) where
  cells : Cells α
  width : Nat

/-- The clusters of a text. The open one holds `rev`, last cell first, and takes `size` columns;
`last` is the code point that a selector would still act on. -/
def clustersAfter (rev : Cells α) (size : Nat) (last : Option CodePoint) :
    Cells α → List (Cluster α)
  | [] => [⟨rev.reverse, size⟩]
  | (c, mark) :: cells =>
    if c = joiner then
      match cells with
      | [] => [⟨((c, mark) :: rev).reverse, size⟩]
      | next :: cells => clustersAfter (next :: (c, mark) :: rev) size last cells
    else if c = pictureSelector then
      if last.any pictureRanges.has then clustersAfter ((c, mark) :: rev) (size + 1) none cells
      else clustersAfter ((c, mark) :: rev) size last cells
    else if columns c = 0 then clustersAfter ((c, mark) :: rev) size last cells
    else ⟨rev.reverse, size⟩ :: clustersAfter [(c, mark)] (columns c) (some c) cells

/-- The clusters of a text. -/
def clusters : Cells α → List (Cluster α)
  | [] => []
  | (c, mark) :: cells =>
    clustersAfter [(c, mark)] (columns c) (if columns c = 0 then none else some c) cells

/-- The cells of clusters that are listed last one first. -/
def joinReversed (rev : List (Cluster α)) : Cells α := rev.reverse.flatMap (·.cells)

/-- Puts clusters on lines of at most `limit` columns, where the current line holds `rev`, last
cluster first, and has `used` columns filled. -/
def chopAfter (limit : Nat) (rev : List (Cluster α)) (used : Nat) :
    List (Cluster α) → List (Cells α)
  | [] => [joinReversed rev]
  | k :: ks =>
    if used + k.width ≤ limit then chopAfter limit (k :: rev) (used + k.width) ks
    else joinReversed rev :: chopAfter limit [k] k.width ks

/-- The parts of a word that is too wide for one line. -/
def chop (limit : Nat) (word : Cells α) : List (Cells α) := chopAfter limit [] 0 (clusters word)

/-- Puts words on lines of at most `limit` columns, the white space at their ends not counted. The
current line holds `rev`, last part first, and has `used` columns filled. -/
def fillAfter (limit : Nat) (rev : List (Cells α)) (used : Nat) :
    List (Cells α) → List (Cells α)
  | [] => [rev.reverse.flatten]
  | word :: words =>
    let bare := Cells.width (Cells.trimRight word)
    if used + bare ≤ limit then fillAfter limit (word :: rev) (used + Cells.width word) words
    else if bare ≤ limit then
      rev.reverse.flatten :: fillAfter limit [word] (Cells.width word) words
    else
      let parts := chop limit word
      let last := parts.getLast?.getD []
      (if rev.isEmpty then [] else [rev.reverse.flatten]) ++ parts.dropLast
        ++ fillAfter limit [last] (Cells.width last) words

/-- The lines that a line is broken into. -/
def folded (limit : Nat) (cells : Cells α) : List (Cells α) := fillAfter limit [] 0 (words cells)

/-- Drops white space at the end of a line while the line has more than `limit` code points. -/
def dropExcess (limit : Nat) (cells : Cells α) : Cells α :=
  let blanks := cells.length - (Cells.trimRight cells).length
  cells.take (cells.length - min blanks (cells.length - limit))

/-- The clusters that fit into `limit` columns; a blank stands for one that fits only in part. -/
def cropped (limit : Nat) : List (Cluster α) → Cells α
  | [] => []
  | k :: ks =>
    if k.width ≤ limit then k.cells ++ cropped (limit - k.width) ks
    else if limit = 0 then []
    else (k.cells.head?.map fun (_, mark) => (.char ' ', mark)).toList

/-- A line as it is shown in `limit` columns. -/
def shown (limit : Nat) (cells : Cells α) : Cells α :=
  let cells := dropExcess limit cells
  if Cells.width cells ≤ limit then cells else cropped limit (clusters cells)

/-- The lines that a line is shown as in `limit` columns. -/
def wrapped (limit : Nat) (cells : Cells α) : List (Cells α) :=
  (folded limit cells).map (shown limit)

/-- The pieces of a line, where `rev` is what the current one holds so far, last cell first. -/
def piecesAfter [DecidableEq α] (rev : Cells α) : Cells α → List (Cells α)
  | [] => [rev.reverse]
  | cell :: cells =>
    if rev.head?.all fun last => last.2 = cell.2 then piecesAfter (cell :: rev) cells
    else rev.reverse :: piecesAfter [cell] cells

/-- The pieces of a line. -/
def pieces [DecidableEq α] (cells : Cells α) : List (Cells α) := piecesAfter [] cells

/-- The pieces of a line, and of the first one that does not leave a column free as much as there is
space for; what comes behind it is lost. -/
def fitPieces (limit : Nat) : List (Cells α) → Cells α
  | [] => []
  | piece :: rest =>
    let size := Cells.width piece
    if size < limit then piece ++ fitPieces (limit - size) rest
    else if size = limit then piece
    else cropped limit (clusters piece)

/-- The columns that pieces take. -/
def piecesWidth (pieces : List (Cells α)) : Nat :=
  pieces.foldr (fun piece n => Cells.width piece + n) 0

/-- As much of a line as a terminal of `limit` columns takes, which is all of it unless its pieces
take more columns than the line. The line that is cut has `plain` blanks up to its end. -/
def fitted [DecidableEq α] (limit : Nat) (plain : α) (cells : Cells α) : Cells α :=
  let size := Cells.width cells
  if piecesWidth (pieces cells) ≤ size then cells
  else
    let filled := pieces (cells ++ List.replicate (limit - size) (.char ' ', plain))
    if piecesWidth filled ≤ limit then cells else fitPieces limit filled

theorem flatten_wordsAfter (begun : Bool) (rev cells : Cells α) :
    (wordsAfter begun rev cells).flatten = rev.reverse ++ cells := by
  induction cells generalizing begun rev with
  | nil => simp [wordsAfter]
  | cons cell cells ih =>
    simp only [wordsAfter]
    split <;> simp [ih]

theorem flatMap_clustersAfter (rev : Cells α) (size : Nat) (last : Option CodePoint)
    (cells : Cells α) :
    (clustersAfter rev size last cells).flatMap (·.cells) = rev.reverse ++ cells := by
  fun_induction clustersAfter rev size last cells <;> simp_all

theorem flatMap_clusters (cells : Cells α) : (clusters cells).flatMap (·.cells) = cells := by
  cases cells with
  | nil => rfl
  | cons cell cells => simp [clusters, flatMap_clustersAfter]

theorem flatten_chopAfter (limit : Nat) (rev : List (Cluster α)) (used : Nat)
    (ks : List (Cluster α)) :
    (chopAfter limit rev used ks).flatten = joinReversed rev ++ ks.flatMap (·.cells) := by
  induction ks generalizing rev used with
  | nil => simp [chopAfter]
  | cons k ks ih =>
    simp only [chopAfter]
    split <;> simp [ih, joinReversed]

theorem flatten_chop (limit : Nat) (word : Cells α) : (chop limit word).flatten = word := by
  simp [chop, flatten_chopAfter, joinReversed, flatMap_clusters]

theorem flatten_dropLast_append_getLast (parts : List (Cells α)) :
    parts.dropLast.flatten ++ parts.getLast?.getD [] = parts.flatten := by
  rcases List.eq_nil_or_concat parts with rfl | ⟨init, last, rfl⟩ <;> simp

theorem flatten_fillAfter (limit : Nat) (rev : List (Cells α)) (used : Nat)
    (words : List (Cells α)) :
    (fillAfter limit rev used words).flatten = rev.reverse.flatten ++ words.flatten := by
  induction words generalizing rev used with
  | nil => simp [fillAfter]
  | cons word words ih =>
    simp only [fillAfter]
    split
    · simp [ih]
    · split
      · simp [ih]
      · have hparts := flatten_dropLast_append_getLast (chop limit word)
        rw [flatten_chop] at hparts
        simp only [List.flatten_append, ih, List.reverse_singleton,
          List.flatten_cons, ← List.append_assoc]
        rw [List.append_assoc (List.flatten _), hparts]
        cases rev <;> simp

/-- Breaking a line loses nothing. -/
theorem flatten_folded (limit : Nat) (cells : Cells α) : (folded limit cells).flatten = cells := by
  simp [folded, flatten_fillAfter, words, flatten_wordsAfter]

theorem flatten_piecesAfter [DecidableEq α] (rev cells : Cells α) :
    (piecesAfter rev cells).flatten = rev.reverse ++ cells := by
  induction cells generalizing rev with
  | nil => simp [piecesAfter]
  | cons cell cells ih =>
    simp only [piecesAfter]
    split <;> simp [ih]

/-- Cutting a line into pieces loses nothing. -/
theorem flatten_pieces [DecidableEq α] (cells : Cells α) : (pieces cells).flatten = cells := by
  simp [pieces, flatten_piecesAfter]

end CommandShell.Text
