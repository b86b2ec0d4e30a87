import CommandShell.Completion
import Mathlib.Data.List.DropRight
import Mathlib.Data.List.TakeWhile

/-!
The completions of a name of which the beginning is typed.

Typed text and names are put in lower case before they are compared, each by itself. All of lower
case but the capital sigma goes code point by code point, so what is typed of a name stays the
beginning of the name (`lowerFrom_append`). A capital sigma looks at what comes after it: it may end
the typed text as a final sigma and stand within a word of the name. This is the only way to lose a
name (`lowerBetween_eq_iff`), and `mem_completions_iff` says exactly when it happens.

None of the proofs looks into the tables of letters.
-/

namespace CommandShell

namespace Text

/-! ## Ends of words -/

/-- A cased letter comes last, ignorable code points apart. -/
def endsCased (t : Text) : Bool := startsCased t.reverse

/-- The text ends with a capital sigma that becomes a final sigma if nothing comes after: a cased
letter stands before it, and none but ignorable code points behind. -/
def EndsInFinalSigma (t : Text) : Prop :=
  ∃ word tail, t = word ++ capitalSigma :: tail ∧ endsCased word = true ∧
    ∀ c ∈ tail, isCaseIgnorable c = true

/-- Whether a cased letter comes last after one more code point. -/
def casedAfter (inWord : Bool) (c : CodePoint) : Bool :=
  if isCaseIgnorable c then inWord else isCased c

theorem startsCased_append_of_ignorable {t : Text} (h : ∀ c ∈ t, isCaseIgnorable c = true)
    (rest : Text) : startsCased (t ++ rest) = startsCased rest := by
  unfold startsCased
  rw [List.dropWhile_append_of_pos h]

theorem startsCased_append_of_not_ignorable {t : Text}
    (h : ¬ ∀ c ∈ t, isCaseIgnorable c = true) (rest : Text) :
    startsCased (t ++ rest) = startsCased t := by
  have hne : t.dropWhile isCaseIgnorable ≠ [] := by rwa [ne_eq, List.dropWhile_eq_nil_iff]
  obtain ⟨c, u, hu⟩ := List.exists_cons_of_ne_nil hne
  unfold startsCased
  rw [List.dropWhile_append, hu]
  rfl

theorem endsCased_concat (t : Text) (c : CodePoint) :
    endsCased (t ++ [c]) = casedAfter (endsCased t) c := by
  unfold endsCased casedAfter
  rw [List.reverse_append, List.reverse_singleton, List.singleton_append]
  cases hc : isCaseIgnorable c
  · rw [startsCased, List.dropWhile_cons_of_neg (by simp [hc])]
    rfl
  · exact startsCased_append_of_ignorable (t := [c]) (by simpa using hc) t.reverse

/-- The state that lower case carries along a text. -/
theorem foldl_casedAfter (t : Text) : t.foldl casedAfter false = endsCased t := by
  induction t using List.reverseRecOn with
  | nil => rfl
  | append_singleton t c ih => rw [List.foldl_concat, ih, endsCased_concat]

/-! ## Lower case in parts -/

/-- Lower case of a stretch of a text, where `inWord` says whether a cased letter stands before it
and `rest` is what comes after it. -/
def lowerBetween (inWord : Bool) (rest : Text) : Text → Text
  | [] => []
  | c :: t =>
    let low : Text :=
      if c = capitalSigma then [.char (if inWord && !startsCased (t ++ rest) then 'ς' else 'σ')]
      else lowerOne c
    low ++ lowerBetween (casedAfter inWord c) rest t

/-- A text is put in lower case stretch by stretch. -/
theorem lowerFrom_append (inWord : Bool) (t rest : Text) :
    lowerFrom inWord (t ++ rest) =
      lowerBetween inWord rest t ++ lowerFrom (t.foldl casedAfter inWord) rest := by
  induction t generalizing inWord with
  | nil => rfl
  | cons c t ih =>
    rw [List.cons_append, lowerFrom, lowerBetween, List.append_assoc, List.foldl_cons, ← ih]
    rfl

theorem lower_eq_lowerBetween (t : Text) : lower t = lowerBetween false [] t := by
  have h := lowerFrom_append false t []
  rwa [List.append_nil, lowerFrom, List.append_nil] at h

/-- How long a stretch becomes does not depend on what comes after it. -/
theorem length_lowerBetween (inWord : Bool) (rest rest' t : Text) :
    (lowerBetween inWord rest t).length = (lowerBetween inWord rest' t).length := by
  induction t generalizing inWord with
  | nil => rfl
  | cons c t ih =>
    rw [lowerBetween, lowerBetween, List.length_append, List.length_append, ih]
    congr 1
    split <;> rfl

/-- The stretch ends with a capital sigma that becomes a final sigma if nothing comes after. -/
def FinalSigmaAfter (inWord : Bool) (t : Text) : Prop :=
  ∃ word tail, t = word ++ capitalSigma :: tail ∧ word.foldl casedAfter inWord = true ∧
    ∀ c ∈ tail, isCaseIgnorable c = true

theorem finalSigmaAfter_false {t : Text} : FinalSigmaAfter false t ↔ EndsInFinalSigma t := by
  unfold FinalSigmaAfter EndsInFinalSigma
  simp only [foldl_casedAfter]

theorem finalSigmaAfter_cons {inWord : Bool} {c : CodePoint} {t : Text} :
    FinalSigmaAfter inWord (c :: t) ↔
      (c = capitalSigma ∧ inWord = true ∧ ∀ d ∈ t, isCaseIgnorable d = true) ∨
        FinalSigmaAfter (casedAfter inWord c) t := by
  constructor
  · rintro ⟨word, tail, ht, hword, htail⟩
    cases word with
    | nil =>
      obtain ⟨rfl, rfl⟩ := List.cons.inj ht
      exact .inl ⟨rfl, hword, htail⟩
    | cons d word =>
      obtain ⟨rfl, rfl⟩ := List.cons.inj ht
      exact .inr ⟨word, tail, rfl, hword, htail⟩
  · rintro (⟨rfl, hword, htail⟩ | ⟨word, tail, rfl, hword, htail⟩)
    · exact ⟨[], t, rfl, hword, htail⟩
    · exact ⟨c :: word, tail, rfl, hword, htail⟩

/-- A capital sigma comes out the same at the end of a text and before `rest`, unless it is final in
the one place and within a word in the other. -/
theorem sigma_eq_iff {inWord : Bool} {t rest : Text} :
    (inWord && !startsCased (t ++ rest)) = (inWord && !startsCased t) ↔
      ¬ (inWord = true ∧ (∀ c ∈ t, isCaseIgnorable c = true) ∧ startsCased rest = true) := by
  cases inWord with
  | false => simp
  | true =>
    by_cases ht : ∀ c ∈ t, isCaseIgnorable c = true
    · have hnil : startsCased t = false := by
        have h := startsCased_append_of_ignorable ht []
        rwa [List.append_nil] at h
      rw [startsCased_append_of_ignorable ht, hnil, and_iff_right rfl, and_iff_right ht]
      cases startsCased rest <;> decide
    · rw [startsCased_append_of_not_ignorable ht]
      exact iff_of_true rfl fun h => ht h.2.1

/-- What comes after a stretch changes its lower case just if the stretch ends with a final sigma
and the word goes on. -/
theorem lowerBetween_eq_iff {inWord : Bool} {t rest : Text} :
    lowerBetween inWord rest t = lowerBetween inWord [] t ↔
      ¬ (FinalSigmaAfter inWord t ∧ startsCased rest = true) := by
  induction t generalizing inWord with
  | nil =>
    refine iff_of_true rfl ?_
    rintro ⟨⟨word, tail, ht, -⟩, -⟩
    cases word <;> cases ht
  | cons c t ih =>
    rw [lowerBetween, lowerBetween, finalSigmaAfter_cons]
    by_cases hc : c = capitalSigma
    · have hhead : (if inWord && !startsCased (t ++ rest) then 'ς' else 'σ') =
          (if inWord && !startsCased (t ++ []) then 'ς' else 'σ') ↔
            (inWord && !startsCased (t ++ rest)) = (inWord && !startsCased t) := by
        rw [List.append_nil]
        cases inWord && !startsCased (t ++ rest) <;> cases inWord && !startsCased t <;> decide
      simp only [hc, if_true, List.cons_append, List.nil_append, List.cons.injEq,
        CodePoint.char.injEq, true_and]
      rw [hhead, sigma_eq_iff, ih, ← not_or, ← and_assoc, ← or_and_right]
    · simp only [hc, if_false, List.append_cancel_left_eq, false_and, false_or]
      exact ih

/-- In lower case the beginning of a text stays its beginning, unless it ends with a final sigma and
the word goes on. -/
theorem lower_isPrefix_iff {t rest : Text} :
    lower t <+: lower (t ++ rest) ↔ ¬ (EndsInFinalSigma t ∧ startsCased rest = true) := by
  rw [← finalSigmaAfter_false, ← lowerBetween_eq_iff, lower_eq_lowerBetween]
  show _ <+: lowerFrom false (t ++ rest) ↔ _
  rw [lowerFrom_append]
  constructor
  · rintro ⟨u, hu⟩
    exact (List.append_inj hu (length_lowerBetween false [] rest t)).1.symm
  · intro h
    rw [h]
    exact List.prefix_append _ _

end Text

/-! ## Completions -/

open Text

/-- A word by itself is completed to the candidates that begin like it, letter case apart. -/
theorem mem_completions_of_word {typed name : Text} (hword : ∀ c ∈ typed, isBlank c = false)
    {candidates : List Text} :
    name ∈ completions typed candidates ↔ name ∈ candidates ∧ lower typed <+: lower name := by
  have htyped : trimLeft typed = typed := by
    cases typed with
    | nil => rfl
    | cons c t => exact trimLeft_cons_of_not_blank t (hword c List.mem_cons_self)
  have hblank : hasBlank typed = false := by simpa [hasBlank] using hword
  unfold completions
  simp only [htyped, hblank, Bool.false_eq_true, if_false, List.mem_filter,
    List.isPrefixOf_iff_prefix]

/-- If the beginning of a candidate is typed, the candidate is offered, unless a capital sigma ends
the typed text as a final sigma and stands within a word of the candidate. -/
theorem mem_completions_iff {candidates : List Text} {typed rest : Text}
    (hname : typed ++ rest ∈ candidates) (hword : ∀ c ∈ typed, isBlank c = false) :
    typed ++ rest ∈ completions typed candidates ↔
      ¬ (EndsInFinalSigma typed ∧ startsCased rest = true) := by
  rw [mem_completions_of_word hword, and_iff_right hname, lower_isPrefix_iff]

theorem mem_completions_iff_body :
    ("ΣΏ" ++ "ΜΑ" : Text) ∈ [("ΣΏΜΑ" : Text), "ΜΟΎΣΑ"] ∧
      (∀ c ∈ ("ΣΏ" : Text), isBlank c = false) ∧
      (("ΣΏ" ++ "ΜΑ" : Text) ∈ completions "ΣΏ" ["ΣΏΜΑ", "ΜΟΎΣΑ"] ↔
        ¬ (EndsInFinalSigma "ΣΏ" ∧ startsCased "ΜΑ" = true)) :=
  have hname : ("ΣΏ" ++ "ΜΑ" : Text) ∈ [("ΣΏΜΑ" : Text), "ΜΟΎΣΑ"] := by decide
  have hword : ∀ c ∈ ("ΣΏ" : Text), isBlank c = false := by decide
  ⟨hname, hword, mem_completions_iff hname hword⟩

/-- A name is not offered when all of it but its last letter is typed. -/
theorem not_mem_completions_muse :
    ("ΜΟΎΣ" : Text) ≠ [] ∧ (∀ c ∈ ("ΜΟΎΣ" : Text), isBlank c = false) ∧
      ("ΜΟΎΣ" : Text) <+: "ΜΟΎΣΑ" ∧ ("ΜΟΎΣΑ" : Text) ∉ completions "ΜΟΎΣ" ["ΣΏΜΑ", "ΜΟΎΣΑ"] :=
  ⟨by decide, by decide, ⟨"Α", rfl⟩, by decide +kernel⟩

end CommandShell
