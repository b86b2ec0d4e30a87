import CommandShell.Proofs.Lexing
import Mathlib.Data.List.Chain

/-!
The grammar of a line.

A line, less the white space around it, is written as segments with gaps between them. A segment is
a bare word, a quoted span, or at the very end a span that is not closed (`Segment`, `WellFormed`).
The next segment of a text can be told from its beginning (`firstSegment`), so the pieces of a text
can be computed (`pieces`), and this is the only way to cut it:
* `pieces_written`: pieces that are written out are found again;
* `written_pieces`, `wellFormed_pieces`: the pieces that are found are well formed, and nothing of
  the text is lost;
* `tokenize_written`: the tokens are the contents of the pieces.
`tokenize_segmentation` puts them together.
-/

namespace CommandShell.Token

open Text

/-! ## Segments and pieces -/

/-- One token as it is written in a line. -/
inductive Segment where
  | word (w : Text)
  | span (quote : CodePoint) (body : Text)
  | unclosed (quote : CodePoint) (body : Text)
deriving DecidableEq, Repr

namespace Segment

/-- The text of the segment in the line. -/
def spelling : Segment → Text
  | .word w => w
  | .span q body => q :: body ++ [q]
  | .unclosed q body => q :: body

/-- The token that the segment stands for. -/
def content : Segment → Text
  | .word t | .span _ t | .unclosed _ t => t

/-- A word has code points, no white space, and does not start with a quote; the quote of a span
does not occur within. -/
def Sound : Segment → Prop
  | .word w => w ≠ [] ∧ (∀ c ∈ w, isBlank c = false) ∧ startsQuoted w = false
  | .span q body | .unclosed q body => isQuote q = true ∧ q ∉ body

/-- The gap can stand between the segment and a next one: after a word it is not empty, and after a
span that is not closed nothing comes. -/
def AllowsGap : Segment → Text → Prop
  | .word _, gap => gap ≠ []
  | .span .., _ => True
  | .unclosed .., _ => False

instance : DecidablePred Sound
  | .word w => inferInstanceAs
    (Decidable (w ≠ [] ∧ (∀ c ∈ w, isBlank c = false) ∧ startsQuoted w = false))
  | .span q body | .unclosed q body => inferInstanceAs (Decidable (isQuote q = true ∧ q ∉ body))

instance : (s : Segment) → (gap : Text) → Decidable (s.AllowsGap gap)
  | .word _, gap => inferInstanceAs (Decidable (gap ≠ []))
  | .span .., _ => isTrue trivial
  | .unclosed .., _ => isFalse id

end Segment

/-- A segment with the gap in front of it. -/
structure Piece where
  gap : Text
  segment : Segment
deriving DecidableEq, Repr

/-- The text that is written in these pieces. -/
def written (ps : List Piece) : Text := ps.flatMap fun p => p.gap ++ p.segment.spelling

/-- The tokens that pieces stand for. -/
def contents (ps : List Piece) : List Text := ps.map fun p => p.segment.content

/-- What pieces have to satisfy wherever they stand. -/
structure WellFormed (ps : List Piece) : Prop where
  gap_blank : ∀ p ∈ ps, allBlank p.gap = true
  sound : ∀ p ∈ ps, p.segment.Sound
  apart : ps.IsChain fun p q => p.segment.AllowsGap q.gap

/-- A way to write a text as segments with gaps between them. -/
structure Segmentation (t : Text) where
  pieces : List Piece
  wellFormed : WellFormed pieces
  /-- No gap stands in front of the first segment. -/
  start : ∀ p ∈ pieces.head?, p.gap = []
  written_eq : written pieces = t

theorem Segmentation.eq_of_pieces_eq {t : Text} {σ τ : Segmentation t} (h : σ.pieces = τ.pieces) :
    σ = τ := by
  cases σ
  cases τ
  cases h
  rfl

theorem written_cons (p : Piece) (ps : List Piece) :
    written (p :: ps) = p.gap ++ (p.segment.spelling ++ written ps) := by
  unfold written
  rw [List.flatMap_cons, List.append_assoc]

instance : DecidablePred WellFormed := fun ps =>
  decidable_of_iff
    ((∀ p ∈ ps, allBlank p.gap = true) ∧ (∀ p ∈ ps, p.segment.Sound) ∧
      ps.IsChain fun p q => p.segment.AllowsGap q.gap)
    ⟨fun ⟨hblank, hsound, hapart⟩ => ⟨hblank, hsound, hapart⟩,
      fun h => ⟨h.gap_blank, h.sound, h.apart⟩⟩

theorem wellFormed_nil : WellFormed [] :=
  ⟨fun _ h => absurd h List.not_mem_nil, fun _ h => absurd h List.not_mem_nil, .nil⟩

theorem wellFormed_cons_iff {p : Piece} {ps : List Piece} :
    WellFormed (p :: ps) ↔
      allBlank p.gap = true ∧ p.segment.Sound ∧ (∀ q ∈ ps.head?, p.segment.AllowsGap q.gap) ∧
        WellFormed ps := by
  constructor
  · intro h
    obtain ⟨hblank, hblanks⟩ := List.forall_mem_cons.1 h.gap_blank
    obtain ⟨hsound, hsounds⟩ := List.forall_mem_cons.1 h.sound
    obtain ⟨hapart, hrest⟩ := List.isChain_cons.1 h.apart
    exact ⟨hblank, hsound, hapart, hblanks, hsounds, hrest⟩
  · rintro ⟨hblank, hsound, hapart, h⟩
    exact ⟨List.forall_mem_cons.2 ⟨hblank, h.gap_blank⟩, List.forall_mem_cons.2 ⟨hsound, h.sound⟩,
      List.isChain_cons.2 ⟨hapart, h.apart⟩⟩

/-! ## The first segment of a text -/

/-- The segment ends where `rest` begins: a word before white space, a span at its quote, and one
that is not closed at the end of the text. -/
def Segment.EndsAt : Segment → Text → Prop
  | .word _, rest => ∀ d ∈ rest.head?, isBlank d = true
  | .span .., _ => True
  | .unclosed .., rest => rest = []

/-- The segment that a text begins with, and the text after it. The first code point is given by
itself. -/
def firstSegment (c : CodePoint) (cs : Text) : Segment × Text :=
  if isQuote c then
    if c ∈ cs then (.span c (cs.takeWhile (· != c)), (cs.dropWhile (· != c)).tail)
    else (.unclosed c cs, [])
  else (.word (c :: cs.takeWhile (!isBlank ·)), cs.dropWhile (!isBlank ·))

/-- A segment that is written at the front of a text is found there. -/
theorem firstSegment_spelling {s : Segment} {rest : Text} (hs : s.Sound) (hr : s.EndsAt rest) :
    ∃ c cs, s.spelling ++ rest = c :: cs ∧ isBlank c = false ∧ firstSegment c cs = (s, rest) := by
  cases s with
  | word w =>
    obtain ⟨hne, hw, hq⟩ := hs
    cases w with
    | nil => exact absurd rfl hne
    | cons c w =>
      obtain ⟨hcb, hwb⟩ := List.forall_mem_cons.1 hw
      have hc : isQuote c = false := hq
      obtain ⟨htake, hdrop⟩ := Leads.takeWhile_word hwb hr
      refine ⟨c, w ++ rest, rfl, hcb, ?_⟩
      unfold firstSegment
      rw [if_neg (by simp [hc]), htake, hdrop]
  | span q body =>
    obtain ⟨hq, hbody⟩ := hs
    obtain ⟨htake, hdrop⟩ := Leads.takeWhile_span hbody rest
    refine ⟨q, body ++ q :: rest, ?_, isQuote_not_blank hq, ?_⟩
    · simp [Segment.spelling]
    · unfold firstSegment
      rw [if_pos hq, if_pos (by simp), htake, hdrop]
      rfl
  | unclosed q body =>
    obtain ⟨hq, hbody⟩ := hs
    cases hr
    refine ⟨q, body, List.append_nil _, isQuote_not_blank hq, ?_⟩
    unfold firstSegment
    rw [if_pos hq, if_neg hbody]

/-- What is found at the front of a text is a segment, it ends where the rest begins, and both make
up the text. -/
theorem firstSegment_spec {c : CodePoint} (hc : isBlank c = false) (cs : Text) :
    (firstSegment c cs).1.Sound ∧ (firstSegment c cs).1.EndsAt (firstSegment c cs).2 ∧
      (firstSegment c cs).1.spelling ++ (firstSegment c cs).2 = c :: cs := by
  unfold firstSegment
  cases hq : isQuote c
  · rw [if_neg Bool.false_ne_true]
    refine ⟨⟨List.cons_ne_nil _ _, ?_, hq⟩, ?_, ?_⟩
    · refine List.forall_mem_cons.2 ⟨hc, fun d hd => ?_⟩
      simpa using List.mem_takeWhile_imp hd
    · intro d hd
      have hdrop := List.head?_dropWhile_not (!isBlank ·) cs
      rw [Option.mem_def.1 hd] at hdrop
      simpa using hdrop
    · exact congrArg (c :: ·) List.takeWhile_append_dropWhile
  · rw [if_pos rfl]
    by_cases hm : c ∈ cs
    · rw [if_pos hm]
      obtain ⟨body, rest, rfl, hbody⟩ := List.eq_append_cons_of_mem hm
      obtain ⟨htake, hdrop⟩ := Leads.takeWhile_span hbody rest
      rw [htake, hdrop]
      refine ⟨⟨hq, hbody⟩, trivial, ?_⟩
      simp [Segment.spelling]
    · rw [if_neg hm]
      exact ⟨⟨hq, hm⟩, rfl, List.append_nil _⟩

theorem length_firstSegment_le (c : CodePoint) (cs : Text) :
    (firstSegment c cs).2.length ≤ cs.length := by
  unfold firstSegment
  split
  · split
    · have hdrop := (List.dropWhile_suffix (· != c) (l := cs)).length_le
      rw [List.length_tail]
      omega
    · exact Nat.zero_le _
  · exact (List.dropWhile_suffix _).length_le

/-! ## The pieces of a text -/

theorem length_trimLeft_le (t : Text) : (trimLeft t).length ≤ t.length :=
  (trimLeft_suffix t).length_le

/-- The pieces of a text, up to the white space at its end. -/
def pieces (t : Text) : List Piece :=
  match _ : trimLeft t with
  | [] => []
  | c :: cs => ⟨t.takeWhile isBlank, (firstSegment c cs).1⟩ :: pieces (firstSegment c cs).2
termination_by t.length
decreasing_by
  rename_i h
  have hrest := length_firstSegment_le c cs
  have htrim := length_trimLeft_le t
  rw [h, List.length_cons] at htrim
  omega

theorem pieces_of_allBlank {t : Text} (h : allBlank t = true) : pieces t = [] := by
  rw [pieces]
  split
  · rfl
  · rename_i c cs ht
    rw [trimLeft_of_allBlank h] at ht
    cases ht

/-- In front of a code point that is not white space the gap ends. -/
theorem pieces_append_cons {gap : Text} (hg : allBlank gap = true) {c : CodePoint}
    (hc : isBlank c = false) (cs : Text) :
    pieces (gap ++ c :: cs) =
      ⟨gap, (firstSegment c cs).1⟩ :: pieces (firstSegment c cs).2 := by
  have htrim : trimLeft (gap ++ c :: cs) = c :: cs := by
    rw [trimLeft_allBlank_append hg, trimLeft_cons_of_not_blank _ hc]
  have hgap : (gap ++ c :: cs).takeWhile isBlank = gap := by
    rw [List.takeWhile_append_of_pos fun d hd => isBlank_of_mem_allBlank hg hd,
      List.takeWhile_cons_of_neg (by simp [hc]), List.append_nil]
  rw [pieces]
  split
  · rename_i h
    rw [htrim] at h
    cases h
  · rename_i d ds h
    rw [htrim] at h
    cases h
    rw [hgap]

/-- A text is blank, or it is a gap and a code point that ends it. -/
theorem allBlank_or_eq_gap_append (t : Text) :
    allBlank t = true ∨
      ∃ gap c cs, t = gap ++ c :: cs ∧ allBlank gap = true ∧ isBlank c = false := by
  obtain ⟨gap, hgap, ht⟩ := exists_eq_append_trimLeft t
  cases hc : trimLeft t with
  | nil =>
    rw [hc, List.append_nil] at ht
    exact .inl (ht ▸ hgap)
  | cons c cs =>
    rw [hc] at ht
    have hblank := List.head?_dropWhile_not isBlank t
    rw [show t.dropWhile isBlank = c :: cs from hc] at hblank
    exact .inr ⟨gap, c, cs, ht, hgap, hblank⟩

/-- In well-formed pieces each segment ends where what comes after it begins. -/
theorem WellFormed.endsAt {p : Piece} {ps : List Piece} (h : WellFormed (p :: ps)) :
    p.segment.EndsAt (written ps) := by
  obtain ⟨-, -, hapart, hps⟩ := wellFormed_cons_iff.1 h
  cases hs : p.segment with
  | span q body => trivial
  | word w =>
    cases ps with
    | nil => exact fun d hd => by cases hd
    | cons q ps =>
      have hgap := hapart q rfl
      rw [hs] at hgap
      obtain ⟨e, gap, he⟩ := List.exists_cons_of_ne_nil hgap
      have hblank := hps.gap_blank q List.mem_cons_self
      intro d hd
      rw [written_cons, he, List.cons_append] at hd
      cases hd
      exact isBlank_of_mem_allBlank hblank (by rw [he]; exact List.mem_cons_self)
  | unclosed q body =>
    cases ps with
    | nil => rfl
    | cons q ps =>
      have hapart := hapart q rfl
      rw [hs] at hapart
      exact hapart.elim

/-- Pieces that are written out are found again. -/
theorem pieces_written {ps : List Piece} (h : WellFormed ps) : pieces (written ps) = ps := by
  induction ps with
  | nil => exact pieces_of_allBlank rfl
  | cons p ps ih =>
    obtain ⟨hgap, hsound, -, hps⟩ := wellFormed_cons_iff.1 h
    obtain ⟨c, cs, hfront, hc, hfirst⟩ := firstSegment_spelling hsound h.endsAt
    rw [written_cons, hfront, pieces_append_cons hgap hc, hfirst, ih hps]

/-- The last code point, if there is one, is not white space. -/
def EndsTight (t : Text) : Prop := ∀ c ∈ t.getLast?, isBlank c = false

theorem EndsTight.of_append {a b : Text} (h : EndsTight (a ++ b)) : EndsTight b := by
  intro c hc
  refine h c ?_
  rw [Option.mem_def, List.getLast?_append, Option.mem_def.1 hc]
  rfl

theorem endsTight_trimRight (t : Text) : EndsTight (trimRight t) := by
  intro c hc
  have hhead := List.head?_dropWhile_not isBlank t.reverse
  rw [show t.reverse.dropWhile isBlank = (trimRight t).reverse from (List.reverse_reverse _).symm,
    List.head?_reverse, Option.mem_def.1 hc] at hhead
  exact hhead

theorem EndsTight.trimRight_eq {t : Text} (h : EndsTight t) : trimRight t = t := by
  rcases List.eq_nil_or_concat' t with rfl | ⟨u, c, rfl⟩
  · rfl
  · exact trimRight_append_not_blank u (h c (by simp))

theorem EndsTight.eq_nil {t : Text} (h : EndsTight t) (hb : allBlank t = true) : t = [] := by
  rw [← h.trimRight_eq, trimRight_of_allBlank hb]

/-- Nothing of the text is lost, and the pieces that are found are well formed. -/
theorem written_pieces {t : Text} (h : EndsTight t) :
    written (pieces t) = t ∧ WellFormed (pieces t) := by
  rcases allBlank_or_eq_gap_append t with hb | ⟨gap, c, cs, rfl, hgap, hc⟩
  · rw [pieces_of_allBlank hb, h.eq_nil hb]
    exact ⟨rfl, wellFormed_nil⟩
  · obtain ⟨hsound, hends, hfront⟩ := firstSegment_spec hc cs
    rw [pieces_append_cons hgap hc]
    generalize hs : (firstSegment c cs).1 = s at hsound hends hfront
    generalize hrest : (firstSegment c cs).2 = rest at hends hfront
    have hlt : rest.length < (gap ++ c :: cs).length := by
      have hle := length_firstSegment_le c cs
      rw [hrest] at hle
      rw [List.length_append, List.length_cons]
      omega
    rw [← hfront, ← List.append_assoc] at h
    obtain ⟨hwritten, hwell⟩ := written_pieces (t := rest) h.of_append
    refine ⟨by rw [written_cons, hwritten, hfront],
      wellFormed_cons_iff.2 ⟨hgap, hsound, fun q hq => ?_, hwell⟩⟩
    cases s with
    | span => trivial
    | unclosed q body =>
      rw [show rest = [] from hends, pieces_of_allBlank rfl] at hq
      cases hq
    | word w =>
      -- The rest begins with white space, and so does what is written in its pieces.
      rintro hempty
      obtain ⟨ps, hps⟩ := List.head?_eq_some_iff.1 hq
      rw [hps] at hwell hwritten
      obtain ⟨-, hq, -, hps⟩ := wellFormed_cons_iff.1 hwell
      obtain ⟨d, ds, hd, hdb, -⟩ := firstSegment_spelling hq hwell.endsAt
      rw [written_cons, hempty, List.nil_append, hd] at hwritten
      have hblank := hends d (by rw [← hwritten]; rfl)
      rw [hdb] at hblank
      cases hblank
termination_by t.length

/-! ## The tokens of the pieces -/

/-- A text that begins with a segment begins with its content. -/
theorem leads_of_sound {gap rest : Text} {s : Segment} (hgap : allBlank gap = true) (hs : s.Sound)
    (hr : s.EndsAt rest) (ht : EndsTight (gap ++ (s.spelling ++ rest))) :
    Leads (gap ++ (s.spelling ++ rest)) s.content rest := by
  cases s with
  | word w =>
    obtain ⟨hne, hw, hq⟩ := hs
    cases w with
    | nil => exact absurd rfl hne
    | cons c w =>
      rw [← List.append_assoc]
      exact .word hgap hq hw hr
  | span q body =>
    have hspelling : gap ++ ((Segment.span q body).spelling ++ rest) =
        gap ++ q :: body ++ q :: rest := by simp [Segment.spelling]
    rw [hspelling]
    exact .closed hgap hs.1 hs.2
  | unclosed q body =>
    cases hr
    have hspelling : gap ++ ((Segment.unclosed q body).spelling ++ []) = gap ++ q :: body :=
      congrArg (gap ++ ·) (List.append_nil _)
    rw [hspelling] at ht ⊢
    have hbody : EndsTight body := by
      rw [List.append_cons] at ht
      exact ht.of_append
    have hl : Leads (gap ++ q :: body) (trimRight body) [] := .unclosed hgap hs.1 hs.2
    rwa [hbody.trimRight_eq] at hl

/-- The tokens of a text are the contents of its pieces. -/
theorem tokenize_written {ps : List Piece} (h : WellFormed ps) (ht : EndsTight (written ps)) :
    tokenize (written ps) = contents ps := by
  induction ps with
  | nil => rfl
  | cons p ps ih =>
    obtain ⟨hgap, hsound, -, hps⟩ := wellFormed_cons_iff.1 h
    rw [written_cons] at ht ⊢
    have hrest : EndsTight (written ps) := ht.of_append.of_append
    rw [(leads_of_sound hgap hsound h.endsAt ht).tokenize_eq, ih hps hrest]
    rfl

/-! ## Segmentations -/

/-- A segmentation consists of the pieces of its text. -/
theorem Segmentation.pieces_eq {t : Text} (σ : Segmentation t) : σ.pieces = Token.pieces t := by
  have hfound := pieces_written σ.wellFormed
  rw [σ.written_eq] at hfound
  exact hfound.symm

theorem head_gap_pieces_trim {line : Text} : ∀ p ∈ (pieces (trim line)).head?, p.gap = [] := by
  intro p hp
  rcases allBlank_or_eq_gap_append (trim line) with hb | ⟨gap, c, cs, ht, hgap, hc⟩
  · rw [pieces_of_allBlank hb] at hp
    cases hp
  · rw [ht, pieces_append_cons hgap hc] at hp
    cases hp
    -- A gap in front would have been cut.
    show gap = []
    have hlength := congrArg List.length (trim_trim line)
    rw [ht, trim_allBlank_append hgap] at hlength
    have hle := (trim_isInfix (c :: cs)).length_le
    rw [List.length_append] at hlength
    exact List.length_eq_zero_iff.1 (by omega)

/-- The way to write a line, less the white space around it, as segments with gaps. -/
def segmentation (line : Text) : Segmentation (trim line) where
  pieces := pieces (trim line)
  wellFormed := (written_pieces (endsTight_trimRight _)).2
  start := head_gap_pieces_trim
  written_eq := (written_pieces (endsTight_trimRight _)).1

/-- There is just one way to write a line, less the white space around it, as segments with gaps
between them. The tokens of the line are the contents of these segments, so there are none just when
the line is blank. -/
theorem tokenize_segmentation (line : Text) :
    (∃ σ : Segmentation (trim line),
      (∀ τ : Segmentation (trim line), τ = σ) ∧ tokenize line = contents σ.pieces) ∧
      (tokenize line = [] ↔ allBlank line = true) := by
  refine ⟨⟨segmentation line, fun τ => Segmentation.eq_of_pieces_eq τ.pieces_eq, ?_⟩,
    tokenize_eq_nil_iff⟩
  have htokens := tokenize_written (segmentation line).wellFormed
    (by rw [(segmentation line).written_eq]; exact endsTight_trimRight _)
  rwa [(segmentation line).written_eq, tokenize_trim] at htokens

/-- A quote within a word is like any other code point, and a span may stand right after another. -/
example : WellFormed [⟨[], .word "it's"⟩, ⟨" ", .span singleQuote "so "⟩,
    ⟨[], .unclosed doubleQuote "to say"⟩] := by decide

end CommandShell.Token
