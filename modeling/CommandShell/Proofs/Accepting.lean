import CommandShell.Proofs.AliasCall
import CommandShell.Proofs.Respelling

/-!
Lines that come about when a completion is accepted.

What a completion replaces is told by the white space in front of the typed text alone. That this is
one word, and that nothing follows it, is seen to where names are looked for.
* `hasBlank_trimLeft_iff`: names are looked for as long as no word of the text is complete;
* `mem_ofTyped_iff`: then a completion replaces all but the white space in front;
* `Invocation.ofLine_eq_iff`: a name is read back from the line that it makes up just if a token can
  be written as it is, since any other token is shorter than what it is written as
  (`Token.Leads.isBare_or_length_lt`).
`completions_accepted` puts them together.
-/

namespace CommandShell

open Text

/-! ## What is typed -/

/-- A word of the text is complete: white space comes after it. -/
def HasCompleteWord (typed : Text) : Prop :=
  ∃ front c mid w back, typed = front ++ c :: mid ++ w :: back ∧
    isBlank c = false ∧ isBlank w = true

/-- White space after the beginning of the first word comes after a complete word. -/
theorem hasBlank_trimLeft_iff {typed : Text} :
    hasBlank (trimLeft typed) = true ↔ HasCompleteWord typed := by
  constructor
  · intro h
    obtain ⟨front, -, htyped⟩ := Token.exists_eq_append_trimLeft typed
    cases ht : trimLeft typed with
    | nil =>
      rw [ht] at h
      cases h
    | cons c word =>
      have hc : isBlank c = false := by
        have := List.head?_dropWhile_not isBlank typed
        rwa [show typed.dropWhile isBlank = c :: word from ht] at this
      rw [ht, hasBlank, List.any_cons, hc, Bool.false_or, List.any_eq_true] at h
      obtain ⟨w, hw, hblank⟩ := h
      obtain ⟨mid, back, rfl⟩ := List.append_of_mem hw
      refine ⟨front, c, mid, w, back, ?_, hc, hblank⟩
      rw [htyped, ht, List.append_assoc, List.cons_append]
  · rintro ⟨front, c, mid, w, back, rfl, hc, hw⟩
    have hfront : allBlank (front ++ c :: mid) = false := by
      simp [allBlank, hc]
    rw [Token.trimLeft_append hfront]
    simp [hasBlank, hw]

namespace Completion

variable {c : Completion} {typed : Text} {candidates : List Text}

theorem mem_ofTyped_iff : c ∈ ofTyped typed candidates ↔
    c.name ∈ completions typed candidates ∧ c.replaced = (trimLeft typed).length := by
  obtain ⟨name, replaced⟩ := c
  simp only [ofTyped, List.mem_map, mk.injEq]
  constructor
  · rintro ⟨name, hname, rfl, rfl⟩
    exact ⟨hname, rfl⟩
  · rintro ⟨hname, rfl⟩
    exact ⟨name, hname, rfl, rfl⟩

/-- Once a word is complete, nothing is offered. -/
theorem ofTyped_of_hasCompleteWord (h : HasCompleteWord typed) : ofTyped typed candidates = [] := by
  unfold ofTyped completions
  rw [if_pos (hasBlank_trimLeft_iff.2 h)]
  rfl

/-- What a completion leaves of the typed text. -/
def kept (c : Completion) (typed : Text) : Text := typed.take (typed.length - c.replaced)

/-- What a completion replaces. -/
def taken (c : Completion) (typed : Text) : Text := typed.drop (typed.length - c.replaced)

/-- The line after the completion is accepted. -/
def accepted (c : Completion) (typed : Text) : Text := c.kept typed ++ c.name

/-- A completion keeps the white space in front and replaces what comes after it. -/
theorem kept_taken_of_mem (h : c ∈ ofTyped typed candidates) :
    c.taken typed = trimLeft typed ∧ allBlank (c.kept typed) = true ∧
      ∀ d ∈ trimLeft typed, isBlank d = false := by
  have hopen : hasBlank (trimLeft typed) = false := by
    refine Bool.eq_false_iff.2 fun hblank => ?_
    rw [ofTyped_of_hasCompleteWord (hasBlank_trimLeft_iff.1 hblank)] at h
    cases h
  obtain ⟨front, hfront, htyped⟩ := Token.exists_eq_append_trimLeft typed
  obtain ⟨-, hreplaced⟩ := mem_ofTyped_iff.1 h
  have hlength : typed.length - c.replaced = front.length := by
    have := congrArg List.length htyped
    rw [List.length_append] at this
    omega
  refine ⟨?_, ?_, ?_⟩
  · rw [taken, hlength]
    conv => lhs; rw [htyped]
    exact List.drop_left
  · rw [kept, hlength, htyped, List.take_left]
    exact hfront
  · simpa [hasBlank] using hopen

end Completion

/-! ## Names that are lines -/

namespace Token

/-- What a line begins with is a bare word, or shorter than the line. -/
theorem Leads.isBare_or_length_lt {line token rest : Text} (h : Leads line token rest) :
    isBare token = true ∨ token.length < line.length := by
  cases h with
  | word hb hc hw hr => exact .inl (isBare_cons_iff.2 ⟨hc, hw⟩)
  | closed hb hq hbody =>
    right
    simp only [List.length_append, List.length_cons]
    omega
  | @unclosed b body q hb hq hbody =>
    right
    have hlength := (trimRight_isPrefix body).length_le
    simp only [List.length_append, List.length_cons]
    omega

theorem isBare_iff {t : Text} :
    isBare t = true ↔ t ≠ [] ∧ (∀ d ∈ t, isBlank d = false) ∧ startsQuoted t = false := by
  cases t with
  | nil => exact iff_of_false Bool.false_ne_true fun h => h.1 rfl
  | cons c w =>
    rw [isBare_cons_iff, and_iff_right (List.cons_ne_nil c w), and_comm]
    rfl

theorem tokenize_of_isBare {t : Text} (h : isBare t = true) : tokenize t = [t] := by
  have hquote : quote t = t := if_pos h
  have hwritable : Writable t := fun hneeds => by
    rw [← isBare_eq_false_iff, h] at hneeds
    cases hneeds
  rwa [← Invocation.tokenize_quote_iff, hquote] at hwritable

end Token

namespace Invocation

open Token (tokenize startsQuoted)

/-- A line is a call of the name that stands in it after white space, and of nothing else, just if
the name holds no white space and does not start with a quote. -/
theorem ofLine_eq_iff {front : Text} (hfront : allBlank front = true) (name : Text) :
    ofLine (front ++ name) =
        { command := name, args := [], flags := Table.empty, raw := front ++ name } ↔
      (∀ d ∈ name, isBlank d = false) ∧ startsQuoted name = false := by
  have htokens : tokenize (front ++ name) = tokenize name :=
    Token.tokenize_allBlank_append hfront name
  by_cases hne : name = []
  · subst hne
    refine iff_of_true ?_ ⟨List.forall_mem_nil _, rfl⟩
    unfold ofLine
    rw [htokens]
    rfl
  constructor
  · intro h
    have hcommand : (ofLine (front ++ name)).command = name := congrArg command h
    have hfirst := tokenize_of_command_ne (by rwa [hcommand])
    rw [hcommand, htokens] at hfirst
    -- The name is the first token of itself, so it is not shorter than what it is read from.
    obtain ⟨rest, hl, -⟩ := Token.exists_leads_of_tokenize hfirst
    have hbare := hl.isBare_or_length_lt.resolve_right (lt_irrefl _)
    exact (Token.isBare_iff.1 hbare).2
  · intro hplain
    rw [Token.tokenize_of_isBare (Token.isBare_iff.2 ⟨hne, hplain⟩)] at htokens
    rw [ofLine_of_tokenize htokens]
    rfl

end Invocation

/-- An invocation calls the command that its name stands for. -/
theorem Session.called?_eq_lookup? {s : Session} {i : Invocation} (h : i.command ≠ []) :
    s.called? i = s.registry.lookup? i.command := by
  unfold called? Registry.lookup? Registry.resolve
  rw [if_neg h]
  cases s.registry.aliases.get? i.command <;> rfl

/-! ## Accepted lines -/

/-- What it means that a completion may be accepted at the end of what is typed. -/
structure Completion.Acceptable (s : Session) (typed : Text) (c : Completion) : Prop where
  /-- It replaces no more than there is. -/
  replaced_le : c.replaced ≤ typed.length
  kept_blank : allBlank (c.kept typed) = true
  taken_not_blank : ∀ d ∈ c.taken typed, isBlank d = false
  /-- The line is a call of the name alone, just if the name can be typed as it is. -/
  ofLine_eq_iff : Invocation.ofLine (c.accepted typed) =
      { command := c.name, args := [], flags := Table.empty, raw := c.accepted typed } ↔
    (∀ d ∈ c.name, isBlank d = false) ∧ Token.startsQuoted c.name = false
  /-- Then it calls the command that the name stands for. -/
  called : c.name ≠ [] → (∀ d ∈ c.name, isBlank d = false) → Token.startsQuoted c.name = false →
    s.called? (Invocation.ofLine (c.accepted typed)) = s.registry.lookup? c.name

/-- Whatever completion is offered replaces one word, and all that is left of the typed text is the
white space in front. If the completed name can be typed as it is, the line then calls what the name
stands for, without arguments and flags. Once a word is complete, nothing is offered. -/
theorem completions_accepted (s : Session) (typed : Text) :
    (∀ c ∈ Completion.ofTyped typed s.registry.names, c.Acceptable s typed) ∧
      (HasCompleteWord typed → Completion.ofTyped typed s.registry.names = []) := by
  refine ⟨fun c hc => ?_, Completion.ofTyped_of_hasCompleteWord⟩
  obtain ⟨htaken, hkept, hword⟩ := Completion.kept_taken_of_mem hc
  obtain ⟨-, hreplaced⟩ := Completion.mem_ofTyped_iff.1 hc
  have hline := Invocation.ofLine_eq_iff hkept c.name
  refine ⟨?_, hkept, by rwa [htaken], hline, fun hne hblank hquote => ?_⟩
  · rw [hreplaced]
    exact (Token.trimLeft_suffix typed).length_le
  · have hcall := hline.2 ⟨hblank, hquote⟩
    rw [Completion.accepted, hcall]
    exact Session.called?_eq_lookup? hne

theorem completions_accepted_indented :
    Session.binder.Reachable ∧
      ⟨"alias", 2⟩ ∈ Completion.ofTyped "\u2003\tAL" Session.binder.registry.names ∧
      Completion.Acceptable Session.binder "\u2003\tAL" ⟨"alias", 2⟩ ∧
      HasCompleteWord " al\u2003" ∧
      Completion.ofTyped " al\u2003" Session.binder.registry.names = [] :=
  have hoffered : ⟨"alias", 2⟩ ∈ Completion.ofTyped "\u2003\tAL" Session.binder.registry.names := by
    decide +kernel
  have hcomplete : HasCompleteWord " al\u2003" := ⟨" ", 'a', "l", '\u2003', [], rfl, rfl, rfl⟩
  ⟨Session.reachable_binder, hoffered, (completions_accepted _ _).1 _ hoffered, hcomplete,
    (completions_accepted _ _).2 hcomplete⟩

end CommandShell
