import CommandShell.Proofs.Lexing
import Mathlib.Tactic.TFAE

/-!
Tokens that can be written so that they are read back.

`join` writes a token as it is, or between quotes where it has to. There are no escapes, so a token
that has to stand between quotes can be written only if it lacks one of the two (`Writable`).
Two facts make these tokens just the ones that lines consist of:
* `Leads.quote`: a line that starts with a written token, and goes on with white space if at all,
  begins with that token;
* `Leads.writable`: whatever a line begins with can be written, also the text of a span that is
  never closed.
Each is carried along the line by its first token (`tokenize_join`, `writable_of_mem_tokenize`),
and `tokenize_join_tfae` puts them together.
-/

namespace CommandShell.Token

open Text

/-! ## Tokens that can be written -/

/-- The token would not be read back as it stands: it is empty, holds white space or starts with a
quote. -/
def NeedsQuotes (t : Text) : Prop := t = [] ∨ (∃ c ∈ t, isBlank c = true) ∨ startsQuoted t = true

/-- If the token has to stand between quotes, it lacks one of the two. -/
def Writable (t : Text) : Prop := NeedsQuotes t → doubleQuote ∉ t ∨ singleQuote ∉ t

instance : DecidablePred NeedsQuotes := fun t =>
  inferInstanceAs (Decidable (t = [] ∨ (∃ c ∈ t, isBlank c = true) ∨ startsQuoted t = true))

instance : DecidablePred Writable := fun t =>
  inferInstanceAs (Decidable (NeedsQuotes t → doubleQuote ∉ t ∨ singleQuote ∉ t))

/-- A bare word does not start with a quote and holds no white space. -/
theorem isBare_cons_iff {c : CodePoint} {w : Text} :
    isBare (c :: w) = true ↔ isQuote c = false ∧ ∀ d ∈ c :: w, isBlank d = false := by
  unfold isBare
  rw [Bool.and_eq_true, Bool.not_eq_true', Bool.not_eq_true', List.any_eq_false]
  simp only [Bool.not_eq_true]

theorem isBare_eq_false_iff {t : Text} : isBare t = false ↔ NeedsQuotes t := by
  cases t with
  | nil => exact iff_of_true rfl (.inl rfl)
  | cons c w =>
    rw [← Bool.not_eq_true, isBare_cons_iff]
    unfold NeedsQuotes
    constructor
    · intro h
      by_cases hq : isQuote c = true
      · exact .inr (.inr hq)
      · refine .inr (.inl ?_)
        by_contra hb
        refine h ⟨by simpa using hq, fun d hd => ?_⟩
        by_contra hd'
        exact hb ⟨d, hd, by simpa using hd'⟩
    · rintro (h | ⟨d, hd, hb⟩ | hs) ⟨hq, hw⟩
      · cases h
      · rw [hw d hd] at hb
        cases hb
      · rw [show startsQuoted (c :: w) = isQuote c from rfl, hq] at hs
        cases hs

theorem isQuote_iff {q : CodePoint} : isQuote q = true ↔ q = doubleQuote ∨ q = singleQuote := by
  unfold isQuote
  rw [Bool.or_eq_true, beq_iff_eq, beq_iff_eq]

theorem writable_of_not_mem {t : Text} {q : CodePoint} (hq : isQuote q = true) (h : q ∉ t) :
    Writable t := by
  intro _
  rcases isQuote_iff.1 hq with rfl | rfl
  · exact .inl h
  · exact .inr h

/-! ## One token at the front of a line -/

/-- A token that can be written is read back, if nothing or white space comes after it. -/
theorem Leads.quote {t rest : Text} (h : Writable t)
    (hr : ∀ d ∈ rest.head?, isBlank d = true) : Leads (quote t ++ rest) t rest := by
  have hspan {q : CodePoint} (hq : isQuote q = true) (hbody : q ∉ t) :
      Leads (q :: t ++ [q] ++ rest) t rest := by
    rw [List.append_assoc]
    exact Leads.closed (b := []) rfl hq hbody
  unfold Token.quote
  cases hb : isBare t
  · rw [if_neg Bool.false_ne_true]
    have hlacks := h (isBare_eq_false_iff.1 hb)
    by_cases hd : doubleQuote ∈ t
    · rw [if_pos hd]
      exact hspan rfl (hlacks.resolve_left (not_not_intro hd))
    · rw [if_neg hd]
      exact hspan rfl hd
  · rw [if_pos rfl]
    cases t with
    | nil => cases hb
    | cons c w =>
      obtain ⟨hq, hw⟩ := isBare_cons_iff.1 hb
      exact Leads.word (b := []) rfl hq hw hr

/-- What a line begins with can be written. -/
theorem Leads.writable {line token rest : Text} (h : Leads line token rest) : Writable token := by
  cases h with
  | word hb hc hw hr =>
    intro hneeds
    rw [← isBare_eq_false_iff, isBare_cons_iff.2 ⟨hc, hw⟩] at hneeds
    cases hneeds
  | closed hb hq hbody => exact writable_of_not_mem hq hbody
  | unclosed hb hq hbody =>
    exact writable_of_not_mem hq fun hm => hbody ((trimRight_isPrefix _).subset hm)

/-! ## All tokens of a line -/

theorem join_singleton (t : Text) : join [t] = quote t := List.intercalate_singleton

theorem join_cons_cons (t u : Text) (ts : List Text) :
    join (t :: u :: ts) = quote t ++ (" " ++ join (u :: ts)) := by
  unfold join
  rw [List.map_cons, List.map_cons, List.intercalate_cons_cons, List.append_assoc]

/-- Tokens that can be written are read back from the line that `join` makes of them. -/
theorem tokenize_join {ts : List Text} (h : ∀ t ∈ ts, Writable t) : tokenize (join ts) = ts := by
  induction ts with
  | nil => rfl
  | cons t ts ih =>
    have ht : Writable t := h t List.mem_cons_self
    have hts := ih fun u hu => h u (List.mem_cons_of_mem t hu)
    cases ts with
    | nil =>
      have hl : Leads (quote t ++ []) t [] := .quote ht fun d hd => by cases hd
      rw [List.append_nil] at hl
      rw [join_singleton, hl.tokenize_eq]
      rfl
    | cons u ts =>
      have hl : Leads (quote t ++ (" " ++ join (u :: ts))) t (" " ++ join (u :: ts)) :=
        .quote ht fun d hd => by cases hd; rfl
      rw [join_cons_cons, hl.tokenize_eq, tokenize_allBlank_append rfl, hts]

/-- Every token of a line can be written. -/
theorem writable_of_mem_tokenize {line token : Text} (h : token ∈ tokenize line) :
    Writable token := by
  cases hb : allBlank line
  · obtain ⟨first, rest, hl⟩ := exists_leads hb
    rw [hl.tokenize_eq] at h
    rcases List.mem_cons.1 h with rfl | h
    · exact hl.writable
    · have := hl.length_lt
      exact writable_of_mem_tokenize h
  · rw [tokenize_eq_nil_iff.2 hb] at h
    cases h
termination_by line.length

/-- Some line consists of the tokens just when `join` writes one, and just when each of them can be
written. So every line may be written anew from its tokens. -/
theorem tokenize_join_tfae (ts : List Text) :
    [∃ line, tokenize line = ts, tokenize (join ts) = ts, ∀ t ∈ ts, Writable t].TFAE ∧
      ∀ line, tokenize (join (tokenize line)) = tokenize line := by
  refine ⟨?_, fun line => tokenize_join fun t => writable_of_mem_tokenize⟩
  tfae_have 1 → 3 := by
    rintro ⟨line, rfl⟩ t ht
    exact writable_of_mem_tokenize ht
  tfae_have 3 → 2 := tokenize_join
  tfae_have 2 → 1 := fun h => ⟨join ts, h⟩
  tfae_finish

/-- A token with a blank and both quotes is no token of any line. -/
example : ¬ Writable "it's \"so\"" := by decide

end CommandShell.Token
