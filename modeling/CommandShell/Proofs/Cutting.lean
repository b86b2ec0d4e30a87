import CommandShell.Proofs.Lexing

/-!
Lines that are cut at white space.

Outside of every quoted span white space separates the tokens before it from those after it
(`tokenize_append_blank`). Within a span it belongs to the token. Here is what that means for a
line that ends within a span and then goes on:
* `Mode.next_eq_span_iff`: the steps of the reader that lead into a span or on in it;
* `exists_opens`: from these, by induction on the line, where the span begins that it ends in;
* `Opens.tokenize_append`, `Opens.tokenize_append_close`: the tokens of such a line and of what it
  goes on with, which leaves the span open or closes it;
* `Opens.keeps_blank`: white space that comes next is part of the token, however the line goes on.
`tokenize_append_blank_iff` says from this at which white space a line may be cut.
-/

namespace CommandShell.Token

open Text

/-! ## Where a span begins -/

/-- A step that ends in a span reads the quote that opens it, between two tokens, or anything but
that quote within it. -/
theorem Mode.next_eq_span_iff {m : Mode} {c q : CodePoint} {rev : Text} :
    m.next c = .span q rev ↔
      m = .gap ∧ isQuote c = true ∧ q = c ∧ rev = [] ∨
        ∃ seen, m = .span q seen ∧ c ≠ q ∧ rev = c :: seen := by
  constructor
  · intro h
    cases m with
    | gap =>
      simp only [Mode.next] at h
      split at h
      · cases h
      · split at h
        · cases h
          exact .inl ⟨rfl, ‹_›, rfl, rfl⟩
        · cases h
    | word _ =>
      simp only [Mode.next] at h
      split at h <;> cases h
    | span p seen =>
      simp only [Mode.next] at h
      split at h
      · cases h
      · cases h
        exact .inr ⟨seen, rfl, ‹_›, rfl⟩
  · rintro (⟨rfl, hc, rfl, rfl⟩ | ⟨seen, rfl, hc, rfl⟩)
    · have hb : isBlank q = false := isQuote_not_blank hc
      simp [Mode.next, hb, hc]
    · exact if_neg hc

/-- The line ends within a span: between two tokens, after `front`, a quote stands that does not
come again, and `body` is the rest of the line. -/
structure Opens (line front : Text) (q : CodePoint) (body : Text) : Prop where
  line_eq : line = front ++ q :: body
  gap : Mode.after .gap front = .gap
  quote : isQuote q = true
  unclosed : q ∉ body

/-- Where the reader stands in a span, the quote of the span has opened it, and what the reader has
seen of it is the rest of the line. -/
theorem exists_opens {line rev : Text} {q : CodePoint} (h : Mode.after .gap line = .span q rev) :
    ∃ front, Opens line front q rev.reverse := by
  induction line using List.reverseRecOn generalizing rev with
  | nil => cases h
  | append_singleton line c ih =>
    rw [after_append] at h
    rcases Mode.next_eq_span_iff.1 h with ⟨hgap, hc, rfl, rfl⟩ | ⟨seen, hspan, hc, rfl⟩
    · exact ⟨line, rfl, hgap, hc, List.not_mem_nil⟩
    · obtain ⟨front, ho⟩ := ih hspan
      refine ⟨front, ?_, ho.gap, ho.quote, ?_⟩
      · rw [List.reverse_cons, ho.line_eq, List.append_assoc, List.cons_append]
      · rw [List.reverse_cons, List.mem_append, List.mem_singleton]
        rintro (hm | rfl)
        · exact ho.unclosed hm
        · exact hc rfl

namespace Opens

variable {line front body : Text} {q : CodePoint} (h : Opens line front q body)
include h

theorem after_eq : Mode.after .gap line = .span q body.reverse := by
  have hquote : Mode.next .gap q = .span q [] :=
    Mode.next_eq_span_iff.2 (.inl ⟨rfl, h.quote, rfl, rfl⟩)
  rw [h.line_eq, after_append, h.gap]
  show (Mode.next .gap q).after body = .span q body.reverse
  rw [hquote, after_span h.unclosed, List.append_nil]

/-! ## How such a line goes on -/

/-- As long as its quote does not come the span takes all that comes, less the white space at the
end. -/
theorem tokenize_append {more : Text} (hmore : q ∉ more) :
    tokenize (line ++ more) = tokenize front ++ [trimRight (body ++ more)] := by
  have hopen : q ∉ body ++ more := List.not_mem_append h.unclosed hmore
  have hl : Leads (q :: (body ++ more)) (trimRight (body ++ more)) [] :=
    Leads.unclosed (b := []) rfl h.quote hopen
  rw [h.line_eq, List.append_assoc, tokenize_append_of_gap h.gap, List.cons_append, hl.tokenize_eq]
  rfl

/-- At its quote the span ends, and what comes after is read as a line of its own. -/
theorem tokenize_append_close {more : Text} (hmore : q ∉ more) (rest : Text) :
    tokenize (line ++ (more ++ q :: rest)) =
      tokenize front ++ (body ++ more) :: tokenize rest := by
  have hopen : q ∉ body ++ more := List.not_mem_append h.unclosed hmore
  have hl : Leads (q :: (body ++ more) ++ q :: rest) (body ++ more) rest :=
    Leads.closed (b := []) rfl h.quote hopen
  have hline : q :: body ++ (more ++ q :: rest) = q :: (body ++ more) ++ q :: rest := by simp
  rw [h.line_eq, List.append_assoc, tokenize_append_of_gap h.gap, hline, hl.tokenize_eq]

theorem tokenize_eq : tokenize line = tokenize front ++ [trimRight body] := by
  have hnil := h.tokenize_append List.not_mem_nil
  rwa [List.append_nil, List.append_nil] at hnil

/-- White space that comes next, before something else, stays in the token of the span, however the
line goes on. -/
theorem keeps_blank {w : CodePoint} (hw : isBlank w = true) {more : Text}
    (hmore : allBlank more = false) :
    ∃ tail tokens,
      tokenize (line ++ w :: more) = tokenize front ++ (body ++ w :: tail) :: tokens := by
  have hne : q ≠ w := by
    rintro rfl
    rw [isQuote_not_blank h.quote] at hw
    cases hw
  by_cases hq : q ∈ more
  · obtain ⟨tail, rest, rfl, htail⟩ := List.eq_append_cons_of_mem hq
    exact ⟨tail, tokenize rest,
      h.tokenize_append_close (List.not_mem_cons_of_ne_of_not_mem hne htail) rest⟩
  · have htokens := h.tokenize_append (List.not_mem_cons_of_ne_of_not_mem hne hq)
    refine ⟨trimRight more, [], ?_⟩
    rw [htokens, List.append_cons body, trimRight_append hmore, ← List.append_cons]

end Opens

/-- A line ends within a span just when a quote opens one that is not closed. -/
theorem endsOpen_iff {line : Text} : EndsOpen line ↔ ∃ front q body, Opens line front q body := by
  constructor
  · intro h
    unfold EndsOpen at h
    cases hm : Mode.after .gap line with
    | gap =>
      rw [hm] at h
      cases h
    | word rev =>
      rw [hm] at h
      cases h
    | span q rev =>
      obtain ⟨front, ho⟩ := exists_opens hm
      exact ⟨front, q, rev.reverse, ho⟩
  · rintro ⟨front, q, body, ho⟩
    unfold EndsOpen
    rw [ho.after_eq]
    trivial

/-! ## The white space at which a line may be cut -/

/-- At white space a line is read as two lines, unless the first of them ends within a span and the
second is not blank. -/
theorem tokenize_append_blank_iff (a b : Text) {w : CodePoint} (hw : isBlank w = true) :
    tokenize (a ++ w :: b) = tokenize a ++ tokenize b ↔ ¬ EndsOpen a ∨ allBlank b = true := by
  constructor
  · intro hsplit
    cases hb : allBlank b
    · left
      intro hopen
      obtain ⟨front, q, body, ho⟩ := endsOpen_iff.1 hopen
      obtain ⟨tail, tokens, hkept⟩ := ho.keeps_blank hw hb
      rw [hkept, ho.tokenize_eq, List.append_assoc] at hsplit
      -- One and the same token would hold the separator and end before it.
      have hspan : body ++ w :: tail = trimRight body :=
        (List.cons.inj (List.append_cancel_left hsplit)).1
      have hlen := (trimRight_isPrefix body).length_le
      rw [← hspan, List.length_append, List.length_cons] at hlen
      omega
    · right
      rfl
  · rintro (hopen | hb)
    · exact tokenize_append_blank hopen hw b
    · have hblank : allBlank (w :: b) = true := by
        rw [allBlank, List.all_cons, hw]
        exact hb
      rw [tokenize_append_allBlank a hblank, tokenize_eq_nil_iff.2 hb, List.append_nil]

/-- A separator that is no ASCII blank. -/
def wideSpace : CodePoint := '\u2003'

/-- The quote within the word opens no span, the other one does. -/
def openLine : Text := "it's 'so"

/-- In a span the end of it, by itself two words. -/
def closingLine : Text := "to' say"

theorem tokenize_append_blank_iff_swapped :
    isBlank wideSpace = true ∧
      tokenize (openLine ++ wideSpace :: closingLine) ≠ tokenize openLine ++ tokenize closingLine ∧
      tokenize (openLine ++ wideSpace :: " ") = tokenize openLine ++ tokenize " " ∧
      tokenize (closingLine ++ wideSpace :: openLine) = tokenize closingLine ++ tokenize openLine :=
  have hw : isBlank wideSpace = true := by decide
  have hopen : ¬ (¬ EndsOpen openLine ∨ allBlank closingLine = true) := by decide
  ⟨hw, fun hsplit => hopen ((tokenize_append_blank_iff openLine closingLine hw).1 hsplit),
    (tokenize_append_blank_iff openLine " " hw).2 (.inr (by decide)),
    (tokenize_append_blank_iff closingLine openLine hw).2 (.inl (by decide))⟩

end CommandShell.Token
