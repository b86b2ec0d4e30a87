import CommandShell.Builtin.Alias
import CommandShell.Proofs.Lexing

/-!
The binding that the alias command reads.

The command reads its line again, less the first token, and splits it into a name and a target
(`readBinding`). Both are parts of what was typed, and together they are no longer than it
(`length_readBinding_le`). Words put in front of what was typed change the binding, and so much
that the report of the new alias tells: if neither a name nor a target is empty, the two reports
differ (`listed_ne_of_append`).
-/

namespace CommandShell

namespace Alias

theorem splitAtEquals_isInfix (t : Text) :
    (splitAtEquals t).1 <:+: t ∧ (splitAtEquals t).2 <:+: t := by
  unfold splitAtEquals
  refine ⟨(List.takeWhile_prefix _).isInfix, ?_⟩
  exact ((List.tail_suffix _).trans (List.dropWhile_suffix _)).isInfix

theorem unquote_isInfix (target : Text) : unquote target <:+: target := by
  unfold unquote
  split
  · rename_i t ht
    split
    · have : t ∈ Token.tokenize target := by rw [ht]; exact List.mem_singleton_self t
      exact (Token.trim_isInfix t).trans (Token.infix_of_mem_tokenize this)
    · exact List.infix_refl _
  · exact List.infix_refl _

/-- A typed binding as it is separated into a name and a target, before either is trimmed. -/
def separate (rest : Text) : Text × Text :=
  if equalsSign ∈ (Token.splitFirst rest).1 && !Token.startsQuoted rest then splitAtEquals rest
  else Token.splitFirst rest

theorem readBinding_eq (rest : Text) :
    readBinding rest = (Text.trim (separate rest).1, unquote (Text.trim (separate rest).2)) := rfl

theorem separate_isInfix (rest : Text) :
    (separate rest).1 <:+: rest ∧ (separate rest).2 <:+: rest := by
  unfold separate
  split
  · exact splitAtEquals_isInfix rest
  · exact Token.splitFirst_isInfix rest

/-- The name and the target of a new alias are parts of the typed text. -/
theorem readBinding_isInfix (rest : Text) :
    (readBinding rest).1 <:+: rest ∧ (readBinding rest).2 <:+: rest := by
  obtain ⟨hname, htarget⟩ := separate_isInfix rest
  rw [readBinding_eq]
  exact ⟨(Token.trim_isInfix _).trans hname,
    (unquote_isInfix _).trans ((Token.trim_isInfix _).trans htarget)⟩

/-! ## Lengths -/

theorem length_splitAtEquals_le (t : Text) :
    (splitAtEquals t).1.length + (splitAtEquals t).2.length ≤ t.length := by
  have hlen := congrArg List.length
    (List.takeWhile_append_dropWhile (p := (· != equalsSign)) (l := t))
  rw [List.length_append] at hlen
  unfold splitAtEquals
  dsimp only
  rw [List.length_tail]
  omega

/-- A binding is no longer than what it is read from. -/
theorem length_readBinding_le (rest : Text) :
    (readBinding rest).1.length + (readBinding rest).2.length ≤ rest.length := by
  have hseparate : (separate rest).1.length + (separate rest).2.length ≤ rest.length := by
    unfold separate
    split
    · exact length_splitAtEquals_le rest
    · exact Token.length_splitFirst_le rest
  have hname := (Token.trim_isInfix (separate rest).1).length_le
  have htarget := (Token.trim_isInfix (separate rest).2).length_le
  have hunquoted := (unquote_isInfix (Text.trim (separate rest).2)).length_le
  rw [readBinding_eq]
  dsimp only
  omega

/-! ## Targets that lose their quotes -/

/-- A target keeps its text, or it is one quoted span and loses its quotes. -/
theorem unquote_cases {t : Text} (h : Text.trim t = t) :
    unquote t = t ∨ Token.startsQuoted t = true ∧ (∃ token, Token.tokenize t = [token]) ∧
      ∃ q body, Token.isQuote q = true ∧ q ∉ body ∧ unquote t = Text.trim body ∧
        (t = q :: body ∨ t = q :: body ++ [q]) := by
  cases htokens : Token.tokenize t with
  | nil => exact .inl (by unfold unquote; rw [htokens])
  | cons token tokens =>
    cases tokens with
    | cons u us => exact .inl (by unfold unquote; rw [htokens])
    | nil =>
      cases hq : Token.startsQuoted t
      · refine .inl ?_
        unfold unquote
        rw [htokens]
        simp [hq]
      · have hunquote : unquote t = Text.trim token := by
          unfold unquote
          rw [htokens]
          simp [hq]
        refine .inr ⟨rfl, ⟨token, rfl⟩, ?_⟩
        obtain ⟨rest, hleads, hrest⟩ := Token.exists_leads_of_tokenize htokens
        obtain ⟨q, body, hquote, hbody, hspan⟩ := hleads.of_startsQuoted hq
        refine ⟨q, body, hquote, hbody, ?_⟩
        rcases hspan with ⟨rfl, rfl⟩ | ⟨rfl, rfl, -⟩
        · -- Only white space could come after the closing quote, and it has been cut.
          have hblank := Token.tokenize_eq_nil_iff.1 hrest
          have hlen := (Token.trim_isInfix (q :: token ++ [q])).length_le
          rw [show q :: token ++ q :: rest = q :: token ++ [q] ++ rest by simp,
            Token.trim_append_allBlank _ hblank] at h
          rw [h, List.length_append] at hlen
          have hnil : rest = [] := List.eq_nil_of_length_eq_zero (by omega)
          exact ⟨hunquote, .inr (by rw [hnil])⟩
        · exact ⟨by rw [hunquote, Token.trim_trimRight], .inl rfl⟩

/-- What is one quoted span spells no target. -/
theorem readBinding_of_unquote_ne {t : Text} (h : Text.trim t = t) (hne : unquote t ≠ t) :
    (readBinding t).2 = [] := by
  obtain ⟨hq, ⟨token, htoken⟩, -⟩ := (unquote_cases h).resolve_left hne
  obtain ⟨rest, hleads, hrest⟩ := Token.exists_leads_of_tokenize htoken
  have hnil : Text.trim rest = [] := by
    unfold Text.trim
    rw [Token.trimLeft_of_allBlank (Token.tokenize_eq_nil_iff.1 hrest)]
    rfl
  have hseparate : separate t = Token.splitFirst t := if_neg (by simp [hq])
  rw [readBinding_eq, hseparate, hleads.splitFirst_eq]
  dsimp only
  rw [hnil]
  rfl

/-! ## Bindings with text in front -/

/-- The target of a trimmed binding, before it loses its quotes, is the end of the binding. -/
theorem separate_suffix {rest : Text} (h : Text.trim rest = rest) :
    Text.trim (separate rest).2 <:+ rest := by
  unfold separate
  split
  · exact Token.trim_suffix h ((List.tail_suffix _).trans (List.dropWhile_suffix _))
  · cases hb : Text.allBlank rest
    · obtain ⟨first, more, hl⟩ := Token.exists_leads hb
      rw [hl.splitFirst_eq, Token.trim_trim]
      exact Token.trim_suffix h hl.rest_suffix
    · rw [Token.splitFirst_of_allBlank hb]
      exact List.nil_suffix

/-- A quote that comes only at the end of a binding stays at the end of its target. -/
theorem readBinding_append_quote {front : Text} {q : CodePoint} (hq : Token.isQuote q = true)
    (h : Text.trim (front ++ [q]) = front ++ [q]) (hm : q ∉ front)
    (hne : (readBinding (front ++ [q])).2 ≠ []) :
    ∃ u, (readBinding (front ++ [q])).2 = u ++ [q] := by
  obtain ⟨a, ha⟩ := separate_suffix h
  rw [readBinding_eq] at hne ⊢
  generalize ht : Text.trim (separate (front ++ [q])).2 = target at hne ha ⊢
  have htrim : Text.trim target = target := by rw [← ht, Token.trim_trim]
  rcases List.eq_nil_or_concat' target with rfl | ⟨u, c, rfl⟩
  · exact absurd rfl hne
  · rw [← List.append_assoc] at ha
    obtain ⟨rfl, hlast⟩ := List.append_inj' ha rfl
    obtain ⟨rfl, -⟩ := List.cons.inj hlast
    have hmu : c ∉ u := fun hc => hm (List.mem_append_right a hc)
    rcases unquote_cases htrim with hkept | ⟨-, -, q, body, -, hbody, hunquote, hspan⟩
    · exact ⟨u, hkept⟩
    · dsimp only at hne ⊢
      rw [hunquote] at hne ⊢
      -- The span is not closed: its quote would be `c`, which comes only once.
      cases u with
      | nil =>
        rcases hspan with hspan | hspan
        · obtain ⟨-, rfl⟩ := List.cons.inj hspan
          exact absurd rfl hne
        · have hlen := congrArg List.length hspan
          simp at hlen
      | cons d u =>
        rcases hspan with hspan | hspan
        · obtain ⟨-, rfl⟩ := List.cons.inj hspan
          have hc := Token.trim_singleton (Token.isQuote_not_blank hq)
          exact ⟨Text.trimLeft u, Token.trim_append hc (List.cons_ne_nil _ _) u⟩
        · obtain ⟨hfront, hlast⟩ := List.append_inj' hspan rfl
          obtain ⟨rfl, -⟩ := List.cons.inj hlast
          obtain ⟨rfl, -⟩ := List.cons.inj hfront
          exact absurd List.mem_cons_self hmu

/-- With words put in front of it, a trimmed binding is the end of the target, quotes included. -/
theorem separate_append {front rest : Text} (hfront : Text.allBlank front = false)
    (hopen : ¬ Token.EndsOpen front) {w : CodePoint} (hw : Text.isBlank w = true)
    (h : Text.trim rest = rest) (hne : rest ≠ []) :
    ∃ u, Text.trim (separate (front ++ w :: rest)).2 = u ++ rest := by
  obtain ⟨first, more, hl⟩ := Token.exists_leads hfront
  have hsplit := (hl.append_blank hopen hw rest).splitFirst_eq
  suffices hz : ∃ z, Text.trim (separate (front ++ w :: rest)).2 = Text.trim (z ++ w :: rest) by
    obtain ⟨z, hz⟩ := hz
    refine ⟨Text.trimLeft (z ++ [w]), ?_⟩
    rw [hz, ← Token.trim_append h hne, List.append_assoc, List.singleton_append]
  unfold separate
  rw [hsplit]
  split
  · rename_i heq
    rw [Bool.and_eq_true, decide_eq_true_eq] at heq
    obtain ⟨a, b, rfl, ha⟩ := List.eq_append_cons_of_mem (hl.token_isInfix.subset heq.1)
    refine ⟨b, ?_⟩
    unfold splitAtEquals
    rw [List.append_assoc, List.cons_append, (Token.Leads.takeWhile_span ha _).2]
    rfl
  · exact ⟨more, Token.trim_trim _⟩

/-- With words put in front of a typed binding, the target is at least as long as what was typed, or
it has lost the quote that what was typed ends with. -/
theorem readBinding_append_cases {front rest : Text} (hfront : Text.allBlank front = false)
    (hopen : ¬ Token.EndsOpen front) {w : CodePoint} (hw : Text.isBlank w = true)
    (h : Text.trim rest = rest) (htyped : (readBinding rest).2 ≠ []) :
    rest.length ≤ (readBinding (front ++ w :: rest)).2.length ∨
      ∃ v q, rest = v ++ [q] ∧ Token.isQuote q = true ∧ q ∉ v ∧
        q ∉ (readBinding (front ++ w :: rest)).2 := by
  have hne : rest ≠ [] := by
    rintro rfl
    exact htyped rfl
  obtain ⟨u, hu⟩ := separate_append hfront hopen hw h hne
  rw [show (readBinding (front ++ w :: rest)).2 = unquote (u ++ rest) by rw [← hu]; rfl]
  have htrim : Text.trim (u ++ rest) = u ++ rest := by rw [← hu, Token.trim_trim]
  rcases unquote_cases htrim with hkept | ⟨-, -, q, body, hq, hbody, hunquote, hspan⟩
  · left
    rw [hkept, List.length_append]
    omega
  cases u with
  | nil =>
    -- What was typed is one span by itself, so it spells no target.
    rw [List.nil_append] at htrim hunquote hspan
    refine absurd (readBinding_of_unquote_ne htrim fun hkept => ?_) htyped
    have hlen := (Token.trim_isInfix body).length_le
    rw [← hunquote, hkept] at hlen
    rcases hspan with hspan | hspan
    · rw [hspan, List.length_cons] at hlen
      omega
    · rw [hspan, List.length_append, List.length_cons] at hlen
      omega
  | cons c u =>
    rw [hunquote]
    rcases hspan with hspan | hspan
    · left
      rw [List.cons_append] at hspan
      obtain ⟨-, rfl⟩ := List.cons.inj hspan
      rw [Token.trim_append h hne, List.length_append]
      omega
    · right
      obtain ⟨v, d, rfl⟩ := (List.eq_nil_or_concat' rest).resolve_left hne
      rw [← List.append_assoc] at hspan
      obtain ⟨hbodies, hlast⟩ := List.append_inj' hspan rfl
      obtain ⟨rfl, -⟩ := List.cons.inj hlast
      rw [List.cons_append] at hbodies
      obtain ⟨-, rfl⟩ := List.cons.inj hbodies
      refine ⟨v, d, rfl, hq, fun hd => hbody (List.mem_append_right u hd), fun hd => hbody ?_⟩
      exact (Token.trim_isInfix (u ++ v)).subset hd

/-- Reports of targets that end differently are different. -/
theorem listed_ne_of_last_ne {name name' t t' : Text} {c c' : CodePoint} (h : c ≠ c') :
    listed name (t ++ [c]) ≠ listed name' (t' ++ [c']) := by
  intro heq
  unfold listed at heq
  have htargets := (List.append_inj' heq rfl).1
  rw [← List.append_assoc, ← List.append_assoc] at htargets
  exact h (List.cons.inj (List.append_inj' htargets rfl).2).1

/-- A typed binding, and the same with words put in front: if neither name nor target is empty, the
two are told apart by what is said of them. -/
theorem listed_ne_of_append {front rest : Text} (hfront : Text.allBlank front = false)
    (hopen : ¬ Token.EndsOpen front) {w : CodePoint} (hw : Text.isBlank w = true)
    (h : Text.trim rest = rest) (htyped : (readBinding rest).2 ≠ [])
    (hname : (readBinding (front ++ w :: rest)).1 ≠ [])
    (htarget : (readBinding (front ++ w :: rest)).2 ≠ []) :
    listed (readBinding rest).1 (readBinding rest).2 ≠
      listed (readBinding (front ++ w :: rest)).1 (readBinding (front ++ w :: rest)).2 := by
  rcases readBinding_append_cases hfront hopen hw h htyped with
    hlonger | ⟨v, q, rfl, hq, hv, hlost⟩
  · -- Then the second report is longer.
    have hshort := length_readBinding_le rest
    have hpos := List.length_pos_iff.2 hname
    intro heq
    have hlength := congrArg List.length heq
    unfold listed at hlength
    simp only [List.length_append] at hlength
    omega
  · -- Then only the first report ends with the quote.
    obtain ⟨x, hx⟩ := readBinding_append_quote hq h hv htyped
    obtain ⟨y, e, hy⟩ := (List.eq_nil_or_concat' _).resolve_left htarget
    rw [hx, hy]
    refine listed_ne_of_last_ne ?_
    rintro rfl
    rw [hy] at hlost
    exact hlost (List.mem_append_right y List.mem_cons_self)

end Alias

end CommandShell
