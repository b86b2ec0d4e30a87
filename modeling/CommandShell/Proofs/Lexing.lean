import CommandShell.Token
import Mathlib.Data.List.DropRight
import Mathlib.Data.List.Infix
import Mathlib.Data.List.TakeWhile

/-!
The reader of tokens, cut at any place of the line.

`Mode.next` and `Mode.emits` are one step of the reader; `Mode.after` and `Mode.emitted` are a
stretch of the line. `scan_append` splits a scan at any place, and from it:
* `tokenize_trim`: white space at the ends of a line does not count;
* `tokenize_append_of_gap`, `tokenize_append_blank`: a line is read in two parts between two
  tokens, and so at white space that stands outside of every quoted span (`EndsOpen`);
* `tokenize_splitFirst`: taking the first token off a line leaves the line of the other tokens;
* `infix_of_mem_tokenize`, `splitFirst_isInfix`: all that is read is part of the line.
-/

namespace CommandShell.Token

open Text

/-! ## White space at the ends -/

theorem isBlank_of_mem_allBlank {t : Text} (h : allBlank t = true) {c : CodePoint} (hc : c ∈ t) :
    isBlank c = true :=
  List.all_eq_true.1 h c hc

theorem isQuote_not_blank {c : CodePoint} (h : isQuote c = true) : isBlank c = false := by
  unfold isQuote at h
  rw [Bool.or_eq_true, beq_iff_eq, beq_iff_eq] at h
  rcases h with rfl | rfl <;> rfl

/-- A text is the white space in front and the rest. -/
theorem exists_eq_append_trimLeft (t : Text) :
    ∃ b, allBlank b = true ∧ t = b ++ trimLeft t := by
  refine ⟨t.takeWhile isBlank, ?_, (List.takeWhile_append_dropWhile).symm⟩
  exact List.all_eq_true.2 fun c hc => List.mem_takeWhile_imp hc

/-- A text is its front and the white space at its end. -/
theorem exists_eq_trimRight_append (t : Text) :
    ∃ b, allBlank b = true ∧ t = trimRight t ++ b := by
  obtain ⟨b, hb, h⟩ := exists_eq_append_trimLeft t.reverse
  refine ⟨b.reverse, by rwa [allBlank, List.all_reverse], ?_⟩
  have := congrArg List.reverse h
  rwa [List.reverse_reverse, List.reverse_append] at this

theorem allBlank_append {a b : Text} :
    allBlank (a ++ b) = true ↔ allBlank a = true ∧ allBlank b = true := by
  rw [allBlank, List.all_append, Bool.and_eq_true]
  rfl

theorem trimLeft_of_allBlank {b : Text} (h : allBlank b = true) : trimLeft b = [] :=
  List.dropWhile_eq_nil_iff.2 fun _ hc => isBlank_of_mem_allBlank h hc

theorem trimLeft_allBlank_append {b : Text} (h : allBlank b = true) (t : Text) :
    trimLeft (b ++ t) = trimLeft t :=
  List.dropWhile_append_of_pos fun _ hc => isBlank_of_mem_allBlank h hc

theorem trimRight_of_allBlank {b : Text} (h : allBlank b = true) : trimRight b = [] :=
  List.rdropWhile_eq_nil_iff.2 fun _ hc => isBlank_of_mem_allBlank h hc

/-- Only what comes after the last code point that is not white space is cut. -/
theorem trimRight_append_cons (a : Text) {c : CodePoint} (hc : isBlank c = false) (b : Text) :
    trimRight (a ++ c :: b) = a ++ c :: trimRight b := by
  induction b using List.reverseRecOn with
  | nil => exact trimRight_append_not_blank a hc
  | append_singleton b d ih =>
    rw [← List.cons_append, ← List.append_assoc]
    cases hd : isBlank d
    · rw [trimRight_append_not_blank _ hd, trimRight_append_not_blank _ hd]
      simp
    · rw [trimRight_append_blank _ hd, trimRight_append_blank _ hd, ih]

theorem trimRight_append_allBlank (t : Text) {b : Text} (h : allBlank b = true) :
    trimRight (t ++ b) = trimRight t := by
  unfold trimRight
  rw [List.reverse_append, List.dropWhile_append_of_pos]
  intro c hc
  exact isBlank_of_mem_allBlank h (List.mem_reverse.1 hc)

/-- White space in front and at the end may be cut in either order. -/
theorem trimLeft_trimRight (t : Text) : trimLeft (trimRight t) = trim t := by
  obtain ⟨b, hb, h⟩ := exists_eq_append_trimLeft t
  unfold trim
  cases ht : trimLeft t with
  | nil =>
    rw [ht, List.append_nil] at h
    rw [h, trimRight_of_allBlank hb]
    rfl
  | cons c u =>
    have hc : isBlank c = false := by
      have := List.head?_dropWhile_not isBlank t
      rw [show t.dropWhile isBlank = c :: u from ht] at this
      exact this
    rw [h, ht, trimRight_append_cons b hc, trimLeft_allBlank_append hb,
      trimLeft_cons_of_not_blank _ hc]
    exact (trimRight_append_cons [] hc u).symm

theorem trim_append_allBlank (t : Text) {b : Text} (h : allBlank b = true) :
    trim (t ++ b) = trim t := by
  rw [← trimLeft_trimRight, trimRight_append_allBlank t h, trimLeft_trimRight]

theorem trim_trimRight (t : Text) : trim (trimRight t) = trim t := by
  obtain ⟨b, hb, h⟩ := exists_eq_trimRight_append t
  conv => rhs; rw [h]
  exact (trim_append_allBlank _ hb).symm

theorem trim_allBlank_append {b : Text} (h : allBlank b = true) (t : Text) :
    trim (b ++ t) = trim t := by
  rw [trim, trimLeft_allBlank_append h, trim]

theorem trimLeft_suffix (t : Text) : trimLeft t <:+ t := List.dropWhile_suffix _

theorem trimRight_isPrefix (t : Text) : trimRight t <+: t := by
  obtain ⟨b, -, h⟩ := exists_eq_trimRight_append t
  exact ⟨b, h.symm⟩

theorem trim_isInfix (t : Text) : trim t <:+: t :=
  (trimRight_isPrefix _).isInfix.trans (trimLeft_suffix t).isInfix

theorem trim_trim (t : Text) : trim (trim t) = trim t := by
  obtain ⟨b, hb, h⟩ := exists_eq_append_trimLeft t
  rw [show trim t = trimRight (trimLeft t) from rfl, trim_trimRight]
  conv => rhs; rw [← show trim t = trimRight (trimLeft t) from rfl, h]
  exact (trim_allBlank_append hb _).symm

/-- A trimmed text that is not empty ends with a code point that is not white space. -/
theorem exists_eq_append_of_trim_eq {t : Text} (h : trim t = t) (hne : t ≠ []) :
    ∃ u c, t = u ++ [c] ∧ isBlank c = false := by
  obtain ⟨u, c, rfl⟩ := List.eq_nil_or_concat'  t |>.resolve_left hne
  refine ⟨u, c, rfl, ?_⟩
  by_contra hc
  have hb : allBlank [c] = true := by simpa [allBlank] using hc
  have hlen := (trim_isInfix u).length_le
  rw [← trim_append_allBlank u hb, h, List.length_append] at hlen
  simp only [List.length_singleton] at hlen
  omega

theorem trimLeft_append {a : Text} (h : allBlank a = false) (b : Text) :
    trimLeft (a ++ b) = trimLeft a ++ b := by
  obtain ⟨w, hw, ha⟩ := exists_eq_append_trimLeft a
  cases ht : trimLeft a with
  | nil =>
    rw [ht, List.append_nil] at ha
    rw [ha, hw] at h
    cases h
  | cons c u =>
    have hc : isBlank c = false := by
      have := List.head?_dropWhile_not isBlank a
      rwa [show a.dropWhile isBlank = c :: u from ht] at this
    rw [ha, ht, List.append_assoc, trimLeft_allBlank_append hw, List.cons_append,
      trimLeft_cons_of_not_blank _ hc]

/-- At the end of a text that is not blank, what comes before it is not cut. -/
theorem trimRight_append {b : Text} (h : allBlank b = false) (a : Text) :
    trimRight (a ++ b) = a ++ trimRight b := by
  have hr : allBlank b.reverse = false := by rwa [allBlank, List.all_reverse]
  show (trimLeft (a ++ b).reverse).reverse = a ++ trimRight b
  rw [List.reverse_append, trimLeft_append hr, List.reverse_append, List.reverse_reverse]
  rfl

/-- In front of a trimmed text only the white space at the beginning is cut. -/
theorem trim_append {t : Text} (h : trim t = t) (hne : t ≠ []) (a : Text) :
    trim (a ++ t) = trimLeft a ++ t := by
  obtain ⟨u, c, ht, hc⟩ := exists_eq_append_of_trim_eq h hne
  cases ha : allBlank a
  · rw [trim, trimLeft_append ha, ht, ← List.append_assoc, trimRight_append_not_blank _ hc]
  · rw [trim_allBlank_append ha, trimLeft_of_allBlank ha, h, List.nil_append]

theorem trim_singleton {c : CodePoint} (hc : isBlank c = false) : trim [c] = [c] := by
  rw [trim, trimLeft_cons_of_not_blank _ hc]
  exact trimRight_append_not_blank [] hc

/-- What is cut from the end of a trimmed text is cut in front only. -/
theorem trim_suffix {t v : Text} (h : trim t = t) (hv : v <:+ t) : trim v <:+ t := by
  obtain ⟨a, ha⟩ := hv
  rcases List.eq_nil_or_concat' v with rfl | ⟨u, c, rfl⟩
  · exact List.nil_suffix
  · rw [← List.append_assoc] at ha
    obtain ⟨u', c', ht, hc⟩ := exists_eq_append_of_trim_eq h (by rw [← ha]; simp)
    obtain ⟨-, hlast⟩ := List.append_inj' (ha.trans ht) rfl
    obtain ⟨rfl, -⟩ := List.cons.inj hlast
    obtain ⟨b, -, hb⟩ := exists_eq_append_trimLeft u
    rw [trim_append (trim_singleton hc) (List.cons_ne_nil _ _)]
    refine ⟨a ++ b, ?_⟩
    rw [← ha, List.append_assoc, ← List.append_assoc b, ← hb, List.append_assoc]

/-! ## One step and a stretch of the reader -/

/-- The mode after one code point. -/
def Mode.next : Mode → CodePoint → Mode
  | .gap, c => if isBlank c then .gap else if isQuote c then .span c [] else .word [c]
  | .word rev, c => if isBlank c then .gap else .word (c :: rev)
  | .span q rev, c => if c = q then .gap else .span q (c :: rev)

/-- The token that one code point completes, if any. -/
def Mode.emits : Mode → CodePoint → List Text
  | .gap, _ => []
  | .word rev, c => if isBlank c then [rev.reverse] else []
  | .span q rev, c => if c = q then [rev.reverse] else []

/-- The mode after a stretch of the line. -/
def Mode.after (m : Mode) (cs : Text) : Mode := cs.foldl Mode.next m

/-- The tokens that a stretch of the line completes. -/
def Mode.emitted : Mode → Text → List Text
  | _, [] => []
  | m, c :: cs => m.emits c ++ (m.next c).emitted cs

theorem scan_cons (m : Mode) (c : CodePoint) (cs : Text) :
    scan m (c :: cs) = m.emits c ++ scan (m.next c) cs := by
  cases m with
  | gap =>
    simp only [scan, Mode.emits, Mode.next, List.nil_append]
    split <;> [rfl; split <;> rfl]
  | word rev =>
    simp only [scan, Mode.emits, Mode.next]
    split <;> rfl
  | span q rev =>
    simp only [scan, Mode.emits, Mode.next]
    split <;> rfl

/-- A scan may be cut anywhere. -/
theorem scan_append (m : Mode) (a b : Text) :
    scan m (a ++ b) = m.emitted a ++ scan (m.after a) b := by
  induction a generalizing m with
  | nil => rfl
  | cons c a ih =>
    rw [List.cons_append, scan_cons, ih, Mode.emitted, List.append_assoc]
    rfl

/-- The reader stands in a quoted span. -/
def Mode.IsSpan : Mode → Prop
  | .span _ _ => True
  | _ => False

instance : DecidablePred Mode.IsSpan
  | .gap => isFalse id
  | .word _ => isFalse id
  | .span _ _ => isTrue trivial

/-- The line ends within a quoted span that is not closed. -/
def EndsOpen (line : Text) : Prop := (Mode.after .gap line).IsSpan

instance : DecidablePred EndsOpen := fun line =>
  inferInstanceAs (Decidable (Mode.after .gap line).IsSpan)

/-- The quote of a span is a quote. Every mode that a line leads to is sound. -/
def Mode.Sound : Mode → Prop
  | .span q _ => isQuote q = true
  | _ => True

theorem Mode.Sound.next {m : Mode} (h : m.Sound) (c : CodePoint) : (m.next c).Sound := by
  cases m with
  | gap =>
    simp only [Mode.next]
    split
    · trivial
    · split
      · assumption
      · trivial
  | word rev =>
    simp only [Mode.next]
    split <;> trivial
  | span q rev =>
    simp only [Mode.next]
    split
    · trivial
    · exact h

theorem Mode.Sound.after {m : Mode} (h : m.Sound) (cs : Text) : (m.after cs).Sound := by
  induction cs generalizing m with
  | nil => exact h
  | cons c cs ih => exact ih (h.next c)

theorem sound_after_gap (cs : Text) : (Mode.after .gap cs).Sound :=
  Mode.Sound.after (m := .gap) trivial cs

/-! ## White space around a line -/

/-- White space after the line completes what the end of the line completes. -/
theorem scan_of_allBlank {m : Mode} (hm : m.Sound) {b : Text} (h : allBlank b = true) :
    scan m b = scan m [] := by
  induction b generalizing m with
  | nil => rfl
  | cons c b ih =>
    have hc : isBlank c = true := isBlank_of_mem_allBlank h List.mem_cons_self
    have hb : allBlank b = true := by
      simp only [allBlank, List.all_cons, Bool.and_eq_true] at h
      exact h.2
    cases m with
    | gap => rw [scan_gap_of_allBlank h]; rfl
    | word rev => simp only [scan, hc, if_true, scan_gap_of_allBlank hb]
    | span q rev =>
      have hq : c ≠ q := by
        rintro rfl
        rw [isQuote_not_blank hm] at hc
        cases hc
      simp only [scan, hq, if_false, ih (m := .span q (c :: rev)) hm hb, List.dropWhile_cons, hc,
        if_true]

theorem tokenize_append_allBlank (a : Text) {b : Text} (h : allBlank b = true) :
    tokenize (a ++ b) = tokenize a := by
  unfold tokenize
  rw [scan_append, scan_of_allBlank (sound_after_gap a) h, ← scan_append, List.append_nil]

theorem tokenize_allBlank_append {b : Text} (h : allBlank b = true) (a : Text) :
    tokenize (b ++ a) = tokenize a := by
  induction b with
  | nil => rfl
  | cons c b ih =>
    simp only [allBlank, List.all_cons, Bool.and_eq_true] at h
    unfold tokenize at ih ⊢
    rw [List.cons_append, scan, if_pos h.1, ih h.2]

theorem tokenize_trimLeft (t : Text) : tokenize (trimLeft t) = tokenize t := by
  obtain ⟨b, hb, h⟩ := exists_eq_append_trimLeft t
  conv => rhs; rw [h]
  exact (tokenize_allBlank_append hb _).symm

theorem tokenize_trimRight (t : Text) : tokenize (trimRight t) = tokenize t := by
  obtain ⟨b, hb, h⟩ := exists_eq_trimRight_append t
  conv => rhs; rw [h]
  exact (tokenize_append_allBlank _ hb).symm

/-- White space at the ends of a line does not count. -/
theorem tokenize_trim (t : Text) : tokenize (trim t) = tokenize t := by
  rw [trim, tokenize_trimRight, tokenize_trimLeft]

/-! ## Reading a line in two parts -/

theorem after_append (m : Mode) (a b : Text) : m.after (a ++ b) = (m.after a).after b :=
  List.foldl_append

theorem after_of_allBlank {b : Text} (h : allBlank b = true) : Mode.after .gap b = .gap := by
  induction b with
  | nil => rfl
  | cons c b ih =>
    simp only [allBlank, List.all_cons, Bool.and_eq_true] at h
    show (Mode.next .gap c).after b = .gap
    rw [Mode.next, if_pos h.1, ih h.2]

theorem endsOpen_trimLeft {t : Text} : EndsOpen (trimLeft t) ↔ EndsOpen t := by
  obtain ⟨b, hb, h⟩ := exists_eq_append_trimLeft t
  conv => rhs; rw [h]
  unfold EndsOpen
  rw [after_append, after_of_allBlank hb]

/-- A span goes on as long as its quote does not come. -/
theorem after_span {q : CodePoint} {body : Text} (h : q ∉ body) (rev : Text) :
    (Mode.span q rev).after body = .span q (body.reverse ++ rev) := by
  induction body generalizing rev with
  | nil => rfl
  | cons c body ih =>
    have hc : c ≠ q := fun e => h (by rw [e]; exact List.mem_cons_self)
    show ((Mode.span q rev).next c).after body = _
    rw [Mode.next, if_neg hc, ih (fun hm => h (List.mem_cons_of_mem c hm))]
    simp

/-- A bare word goes on as long as no white space comes. -/
theorem after_word {w : Text} (h : ∀ d ∈ w, isBlank d = false) (rev : Text) :
    (Mode.word rev).after w = .word (w.reverse ++ rev) := by
  induction w generalizing rev with
  | nil => rfl
  | cons c w ih =>
    have hc : isBlank c = false := h c List.mem_cons_self
    show ((Mode.word rev).next c).after w = _
    rw [Mode.next, if_neg (by simp [hc]), ih (fun d hd => h d (List.mem_cons_of_mem c hd))]
    simp

/-- Between two tokens a line may be cut. -/
theorem tokenize_append_of_gap {a : Text} (ha : Mode.after .gap a = .gap) (b : Text) :
    tokenize (a ++ b) = tokenize a ++ tokenize b := by
  have hcut (more : Text) : tokenize (a ++ more) = Mode.emitted .gap a ++ tokenize more := by
    unfold tokenize
    rw [scan_append, ha]
  have hall : tokenize a = Mode.emitted .gap a := by
    have hnil := hcut []
    rwa [List.append_nil, show tokenize [] = [] from rfl, List.append_nil] at hnil
  rw [hcut, hall]

/-- After white space outside of a span the reader stands between two tokens. -/
theorem next_blank {m : Mode} (hm : ¬ m.IsSpan) {w : CodePoint} (hw : isBlank w = true) :
    m.next w = .gap := by
  cases m with
  | gap => exact if_pos hw
  | word rev => exact if_pos hw
  | span q rev => exact absurd trivial hm

/-- Outside of a span, white space separates the tokens before from those after. -/
theorem tokenize_append_blank {a : Text} (ha : ¬ EndsOpen a) {w : CodePoint}
    (hw : isBlank w = true) (b : Text) :
    tokenize (a ++ w :: b) = tokenize a ++ tokenize b := by
  have hgap : Mode.after .gap (a ++ [w]) = .gap := by
    rw [after_append]
    exact next_blank ha hw
  have hblank : allBlank [w] = true := by simp [allBlank, hw]
  rw [List.append_cons, tokenize_append_of_gap hgap, tokenize_append_allBlank a hblank]

/-! ## The first token of a line -/

/-- `Leads line token rest`: the line begins, after white space, with the spelling of `token`, and
`rest` is what comes after. A span that is not closed leaves nothing. -/
inductive Leads : Text → Text → Text → Prop
  | word {b w rest : Text} {c : CodePoint} (hb : allBlank b = true) (hc : isQuote c = false)
      (hw : ∀ d ∈ c :: w, isBlank d = false) (hr : ∀ d ∈ rest.head?, isBlank d = true) :
      Leads (b ++ c :: w ++ rest) (c :: w) rest
  | closed {b body rest : Text} {q : CodePoint} (hb : allBlank b = true) (hq : isQuote q = true)
      (hbody : q ∉ body) : Leads (b ++ q :: body ++ q :: rest) body rest
  | unclosed {b body : Text} {q : CodePoint} (hb : allBlank b = true) (hq : isQuote q = true)
      (hbody : q ∉ body) : Leads (b ++ q :: body) (trimRight body) []

/-- Every line that is not blank begins with a token. -/
theorem exists_leads {line : Text} (h : allBlank line = false) :
    ∃ token rest, Leads line token rest := by
  obtain ⟨b, hb, hline⟩ := exists_eq_append_trimLeft line
  cases ht : trimLeft line with
  | nil =>
    rw [ht, List.append_nil] at hline
    rw [hline, hb] at h
    cases h
  | cons c cs =>
    rw [ht] at hline
    have hc : isBlank c = false := by
      have := List.head?_dropWhile_not isBlank line
      rwa [show line.dropWhile isBlank = c :: cs from ht] at this
    cases hq : isQuote c
    · have hcs := List.takeWhile_append_dropWhile (p := (!isBlank ·)) (l := cs)
      refine ⟨c :: cs.takeWhile (!isBlank ·), cs.dropWhile (!isBlank ·), ?_⟩
      rw [hline, show b ++ c :: cs = b ++ c :: cs.takeWhile (!isBlank ·)
        ++ cs.dropWhile (!isBlank ·) by rw [List.append_assoc, List.cons_append, hcs]]
      refine .word hb hq ?_ ?_
      · intro d hd
        rcases List.mem_cons.1 hd with rfl | hd
        · exact hc
        · simpa using List.mem_takeWhile_imp hd
      · intro d hd
        have := List.head?_dropWhile_not (!isBlank ·) cs
        rw [Option.mem_def.1 hd] at this
        simpa using this
    · by_cases hm : c ∈ cs
      · obtain ⟨body, rest, rfl, hbody⟩ := List.eq_append_cons_of_mem hm
        refine ⟨body, rest, ?_⟩
        rw [hline, ← List.cons_append, ← List.append_assoc]
        exact .closed hb hq hbody
      · refine ⟨trimRight cs, [], ?_⟩
        rw [hline]
        exact .unclosed hb hq hm

/-- The end of a word is not white space, so only what comes after the word is cut. -/
theorem trimRight_word_append {c : CodePoint} {w : Text}
    (hw : ∀ d ∈ c :: w, isBlank d = false) (rest : Text) :
    trimRight (c :: w ++ rest) = c :: w ++ trimRight rest := by
  have hlast := hw _ (List.getLast_mem (List.cons_ne_nil c w))
  rw [← List.dropLast_append_getLast (List.cons_ne_nil c w), List.append_assoc,
    List.singleton_append, trimRight_append_cons _ hlast, List.append_assoc, List.singleton_append]

namespace Leads

variable {line token rest : Text}

theorem takeWhile_word {w rest : Text} (hw : ∀ d ∈ w, isBlank d = false)
    (hr : ∀ d ∈ rest.head?, isBlank d = true) :
    (w ++ rest).takeWhile (!isBlank ·) = w ∧ (w ++ rest).dropWhile (!isBlank ·) = rest := by
  have hw' : ∀ d ∈ w, (!isBlank d) = true := fun d hd => by rw [hw d hd]; rfl
  rw [List.takeWhile_append_of_pos hw', List.dropWhile_append_of_pos hw']
  cases rest with
  | nil => simp
  | cons d rest =>
    have hd : isBlank d = true := hr d rfl
    simp [hd]

theorem takeWhile_span {body : Text} {q : CodePoint} (h : q ∉ body) (rest : Text) :
    (body ++ q :: rest).takeWhile (· != q) = body ∧
      (body ++ q :: rest).dropWhile (· != q) = q :: rest := by
  have hb : ∀ d ∈ body, (d != q) = true := by
    intro d hd
    rw [bne_iff_ne]
    rintro rfl
    exact h hd
  rw [List.takeWhile_append_of_pos hb, List.dropWhile_append_of_pos hb]
  simp

/-- The tokens of a line are its first token and those of what comes after. -/
theorem tokenize_eq (h : Leads line token rest) : tokenize line = token :: tokenize rest := by
  cases h with
  | @word b w rest c hb hc hw hr =>
    rw [List.append_assoc, tokenize_allBlank_append hb]
    have hcb : isBlank c = false := hw c List.mem_cons_self
    obtain ⟨ht, hd⟩ := takeWhile_word (fun d hd => hw d (List.mem_cons_of_mem c hd)) hr
    unfold tokenize
    rw [List.cons_append, scan, hcb, hc, if_neg Bool.false_ne_true, if_neg Bool.false_ne_true,
      scan_word, ht, hd]
    rfl
  | @closed b body rest q hb hq hbody =>
    rw [List.append_assoc, tokenize_allBlank_append hb]
    obtain ⟨ht, hd⟩ := takeWhile_span hbody rest
    unfold tokenize
    rw [List.cons_append, scan, isQuote_not_blank hq, hq, if_neg Bool.false_ne_true, if_pos rfl,
      scan_span_of_mem q [] _ (by simp), ht, hd]
    rfl
  | @unclosed b body q hb hq hbody =>
    rw [tokenize_allBlank_append hb]
    show scan .gap (q :: body) = [trimRight body]
    rw [scan, isQuote_not_blank hq, hq, if_neg Bool.false_ne_true, if_pos rfl,
      scan_span_of_not_mem q [] _ hbody]
    rfl

/-- What `splitFirst` gives: the first token, and what comes after without the white space around
it. -/
theorem splitFirst_eq (h : Leads line token rest) : splitFirst line = (token, trim rest) := by
  cases h with
  | @word b w rest c hb hc hw hr =>
    have hcb : isBlank c = false := hw c List.mem_cons_self
    have hline : trim (b ++ c :: w ++ rest) = c :: (w ++ trimRight rest) := by
      rw [List.append_assoc, trim_allBlank_append hb, ← trimLeft_trimRight,
        trimRight_word_append hw, List.cons_append, trimLeft_cons_of_not_blank _ hcb]
    have hr' : ∀ d ∈ (trimRight rest).head?, isBlank d = true := by
      intro d hd
      obtain ⟨u, hu⟩ := trimRight_isPrefix rest
      refine hr d ?_
      rw [← hu, Option.mem_def, List.head?_append, Option.mem_def.1 hd]
      rfl
    obtain ⟨ht, hd⟩ := takeWhile_word hw hr'
    rw [List.cons_append] at ht hd
    unfold splitFirst
    rw [hline]
    simp only [hc, Bool.false_eq_true, if_false, ht, hd, trimLeft_trimRight]
  | @closed b body rest q hb hq hbody =>
    obtain ⟨ht, hd⟩ := takeWhile_span hbody (trimRight rest)
    have hline : trim (b ++ q :: token ++ q :: rest) = q :: (token ++ q :: trimRight rest) := by
      rw [List.append_assoc, trim_allBlank_append hb]
      unfold trim
      rw [List.cons_append, trimLeft_cons_of_not_blank _ (isQuote_not_blank hq), ← List.cons_append,
        trimRight_append_cons _ (isQuote_not_blank hq)]
      rfl
    unfold splitFirst
    rw [hline]
    simp only [hq, if_true, hd, ht]
    rw [trim_trimRight]
  | @unclosed b body q hb hq hbody =>
    have hm : q ∉ trimRight body := fun hm => hbody ((trimRight_isPrefix body).subset hm)
    have hline : trim (b ++ q :: body) = q :: trimRight body := by
      rw [trim_allBlank_append hb]
      unfold trim
      rw [trimLeft_cons_of_not_blank _ (isQuote_not_blank hq)]
      exact trimRight_append_cons [] (isQuote_not_blank hq) body
    have hd : (trimRight body).dropWhile (· != q) = [] := by
      rw [List.dropWhile_eq_nil_iff]
      intro d hd
      rw [bne_iff_ne]
      rintro rfl
      exact hm hd
    unfold splitFirst
    rw [hline]
    simp only [hq, if_true, hd]
    rfl

/-- More of the line after white space comes after what the first token leaves, unless the line
ends within a span. -/
theorem append_blank (h : Leads line token rest) (hopen : ¬ EndsOpen line) {w : CodePoint}
    (hw : isBlank w = true) (more : Text) :
    Leads (line ++ w :: more) token (rest ++ w :: more) := by
  cases h with
  | @word b u rest c hb hc hu hr =>
    rw [List.append_assoc]
    refine .word hb hc hu ?_
    cases rest with
    | nil =>
      intro d hd
      cases hd
      exact hw
    | cons e rest => exact fun d hd => hr d hd
  | closed hb hq hbody =>
    rw [List.append_assoc, List.cons_append]
    exact .closed hb hq hbody
  | @unclosed b body q hb hq hbody =>
    refine absurd ?_ hopen
    unfold EndsOpen
    rw [after_append, after_of_allBlank hb]
    show ((Mode.next .gap q).after body).IsSpan
    rw [Mode.next, if_neg (by simp [isQuote_not_blank hq]), if_pos hq, after_span hbody]
    trivial

/-- A line that starts with a quote begins with a span. -/
theorem of_startsQuoted (h : Leads line token rest) (hs : startsQuoted line = true) :
    ∃ q body, isQuote q = true ∧ q ∉ body ∧
      (line = q :: body ++ q :: rest ∧ token = body ∨
        line = q :: body ∧ token = trimRight body ∧ rest = []) := by
  have hnone {b more : Text} (hb : allBlank b = true)
      (hsb : startsQuoted (b ++ more) = true) : b = [] := by
    cases b with
    | nil => rfl
    | cons d b =>
      have hblank := isBlank_of_mem_allBlank hb (List.mem_cons_self (a := d))
      rw [isQuote_not_blank hsb] at hblank
      cases hblank
  cases h with
  | word hb hc hw hr =>
    rw [List.append_assoc] at hs
    rw [hnone hb hs] at hs
    rw [show startsQuoted ([] ++ (_ :: _ ++ rest)) = isQuote _ from rfl, hc] at hs
    cases hs
  | closed hb hq hbody =>
    rw [List.append_assoc] at hs
    rw [hnone hb hs]
    exact ⟨_, _, hq, hbody, .inl ⟨rfl, rfl⟩⟩
  | unclosed hb hq hbody =>
    rw [hnone hb hs]
    exact ⟨_, _, hq, hbody, .inr ⟨rfl, rfl, rfl⟩⟩

/-- A line ends within a span if what its first token leaves does. -/
theorem endsOpen (h : Leads line token rest) (hrest : EndsOpen rest) : EndsOpen line := by
  unfold EndsOpen at hrest ⊢
  cases h with
  | @word b w rest c hb hc hw hr =>
    cases rest with
    | nil => cases hrest
    | cons d rest =>
      have hd : isBlank d = true := hr d rfl
      have hcb : isBlank c = false := hw c List.mem_cons_self
      have hword : Mode.after .gap (b ++ c :: w) = .word (w.reverse ++ [c]) := by
        rw [after_append, after_of_allBlank hb]
        show (Mode.next .gap c).after w = _
        rw [Mode.next, if_neg (by simp [hcb]), if_neg (by simp [hc])]
        exact after_word (fun e he => hw e (List.mem_cons_of_mem c he)) [c]
      rw [after_append, hword]
      have hgap : (Mode.word (w.reverse ++ [c])).next d = .gap := if_pos hd
      have hgap' : Mode.gap.next d = .gap := if_pos hd
      show (((Mode.word _).next d).after rest).IsSpan
      change ((Mode.gap.next d).after rest).IsSpan at hrest
      rwa [hgap, ← hgap']
  | @closed b _ rest q hb hq hbody =>
    rw [after_append, after_append, after_of_allBlank hb]
    show (Mode.after ((Mode.after (Mode.next .gap q) token).next q) rest).IsSpan
    rw [Mode.next, if_neg (by simp [isQuote_not_blank hq]), if_pos hq, after_span hbody,
      Mode.next, if_pos rfl]
    exact hrest
  | unclosed => cases hrest

theorem token_isInfix (h : Leads line token rest) : token <:+: line := by
  cases h with
  | @word b w rest c hb hc hw hr => exact ⟨b, rest, rfl⟩
  | @closed b _ rest q hb hq hbody => exact ⟨b ++ [q], q :: rest, by simp⟩
  | @unclosed b body q hb hq hbody =>
    have hs : body <:+: b ++ q :: body := ⟨b ++ [q], [], by simp⟩
    exact (trimRight_isPrefix body).isInfix.trans hs

theorem rest_suffix (h : Leads line token rest) : rest <:+ line := by
  cases h with
  | word => exact List.suffix_append _ _
  | @closed b _ rest q hb hq hbody => exact ⟨b ++ q :: token ++ [q], by simp⟩
  | unclosed => exact List.nil_suffix

/-- The first token and what comes after it are no longer than the line. -/
theorem length_add_le (h : Leads line token rest) : token.length + rest.length ≤ line.length := by
  cases h with
  | word => simp only [List.length_append, List.length_cons]; omega
  | closed => simp only [List.length_append, List.length_cons]; omega
  | @unclosed b body q hb hq hbody =>
    have hlen := (trimRight_isPrefix body).length_le
    simp only [List.length_append, List.length_cons, List.length_nil]
    omega

theorem length_lt (h : Leads line token rest) : rest.length < line.length := by
  cases h with
  | word => simp only [List.length_append, List.length_cons]; omega
  | closed => simp only [List.length_append, List.length_cons]; omega
  | unclosed => simp only [List.length_append, List.length_cons, List.length_nil]; omega

end Leads

/-! ## All that is read is part of the line -/

/-- Every token of a line is part of it. -/
theorem infix_of_mem_tokenize {line token : Text} (h : token ∈ tokenize line) :
    token <:+: line := by
  cases hb : allBlank line
  · obtain ⟨first, rest, hl⟩ := exists_leads hb
    rw [hl.tokenize_eq] at h
    rcases List.mem_cons.1 h with rfl | h
    · exact hl.token_isInfix
    · have := hl.length_lt
      exact (infix_of_mem_tokenize h).trans hl.rest_suffix.isInfix
  · unfold tokenize at h
    rw [scan_gap_of_allBlank hb] at h
    cases h
termination_by line.length

theorem splitFirst_of_allBlank {line : Text} (h : allBlank line = true) :
    splitFirst line = ([], []) := by
  have : trim line = [] := by
    unfold trim
    rw [trimLeft_of_allBlank h]
    rfl
  unfold splitFirst
  rw [this]

theorem splitFirst_isInfix (line : Text) :
    (splitFirst line).1 <:+: line ∧ (splitFirst line).2 <:+: line := by
  cases hb : allBlank line
  · obtain ⟨first, rest, hl⟩ := exists_leads hb
    rw [hl.splitFirst_eq]
    exact ⟨hl.token_isInfix, (trim_isInfix rest).trans hl.rest_suffix.isInfix⟩
  · rw [splitFirst_of_allBlank hb]
    exact ⟨ List.nil_infix, List.nil_infix⟩

theorem trim_splitFirst (line : Text) : trim (splitFirst line).2 = (splitFirst line).2 := by
  cases hb : allBlank line
  · obtain ⟨first, rest, hl⟩ := exists_leads hb
    rw [hl.splitFirst_eq, trim_trim]
  · rw [splitFirst_of_allBlank hb]
    rfl

theorem length_splitFirst_le (line : Text) :
    (splitFirst line).1.length + (splitFirst line).2.length ≤ line.length := by
  cases hb : allBlank line
  · obtain ⟨first, rest, hl⟩ := exists_leads hb
    rw [hl.splitFirst_eq]
    have hrest := (trim_isInfix rest).length_le
    have hline := hl.length_add_le
    show first.length + (trim rest).length ≤ line.length
    omega
  · rw [splitFirst_of_allBlank hb]
    exact Nat.zero_le _

/-- The tokens of a line that is not blank are its first token and those of the text after it. -/
theorem tokenize_splitFirst {line : Text} (h : allBlank line = false) :
    tokenize line = (splitFirst line).1 :: tokenize (splitFirst line).2 := by
  obtain ⟨first, rest, hl⟩ := exists_leads h
  rw [hl.tokenize_eq, hl.splitFirst_eq, tokenize_trim]

theorem tokenize_eq_nil_iff {line : Text} : tokenize line = [] ↔ allBlank line = true := by
  constructor
  · intro h
    cases hb : allBlank line
    · rw [tokenize_splitFirst hb] at h
      cases h
    · rfl
  · exact scan_gap_of_allBlank

theorem allBlank_eq_false_iff {line : Text} : allBlank line = false ↔ tokenize line ≠ [] := by
  rw [ne_eq, tokenize_eq_nil_iff, Bool.not_eq_true]

/-- A line that has tokens begins with the first of them. -/
theorem exists_leads_of_tokenize {line token : Text} {tokens : List Text}
    (h : tokenize line = token :: tokens) :
    ∃ rest, Leads line token rest ∧ tokenize rest = tokens := by
  have hb : allBlank line = false := allBlank_eq_false_iff.2 (by rw [h]; exact List.cons_ne_nil _ _)
  obtain ⟨first, rest, hl⟩ := exists_leads hb
  rw [hl.tokenize_eq] at h
  obtain ⟨rfl, hrest⟩ := List.cons.inj h
  exact ⟨rest, hl, hrest⟩

end CommandShell.Token
