import CommandShell.Proofs.Binding
import CommandShell.Proofs.Depth
import Mathlib.Data.Finset.Card
import Mathlib.Data.List.Infix

/-!
Macros inside macros.

While macros run, their lines may define further macros and aliases. Still every name and every
line that can come up is part of a text that the session holds at the start (`Within`, kept by
`kept_within`). There are only so many such parts (`length_parts_le`), and a macro that is running
cannot be started again; so macros can nest only so deep.
-/

namespace CommandShell

open Text

/-! ## Parts of texts -/

/-- The text is part of one of the texts. -/
def IsPart (ts : List Text) (x : Text) : Prop := ∃ t ∈ ts, x <:+: t

theorem IsPart.of_isInfix {ts : List Text} {x y : Text} (h : IsPart ts x) (hy : y <:+: x) :
    IsPart ts y := by
  obtain ⟨t, ht, hx⟩ := h
  exact ⟨t, ht, hy.trans hx⟩

/-- The parts of texts, listed. -/
def parts (ts : List Text) : List Text := ts.flatMap fun t => t.tails.flatMap List.inits

theorem mem_parts {ts : List Text} {x : Text} : x ∈ parts ts ↔ IsPart ts x := by
  simp only [parts, List.mem_flatMap, List.mem_tails, List.mem_inits, IsPart,
    List.infix_iff_prefix_suffix]
  constructor
  · rintro ⟨t, ht, u, hu, hx⟩
    exact ⟨t, ht, u, hx, hu⟩
  · rintro ⟨t, ht, u, hx, hu⟩
    exact ⟨t, ht, u, hu, hx⟩

theorem length_flatMap_le {α β : Type} {f : α → List β} {l : List α} {n : Nat}
    (h : ∀ a ∈ l, (f a).length ≤ n) : (l.flatMap f).length ≤ l.length * n := by
  induction l with
  | nil => simp
  | cons a l ih =>
    have ha := h a List.mem_cons_self
    have hl := ih fun b hb => h b (List.mem_cons_of_mem a hb)
    rw [List.flatMap_cons, List.length_append, List.length_cons, Nat.succ_mul]
    omega

/-- A text of length `n` has at most `(n + 1) * (n + 1)` parts. -/
theorem length_parts_le (ts : List Text) (more : List Text) :
    (parts ts).length + 1 ≤
      (ts ++ more).foldr (fun t n => (t.length + 1) * (t.length + 1) + n) 1 := by
  induction ts with
  | nil =>
    induction more with
    | nil => exact Nat.le_refl _
    | cons t more ih => exact ih.trans (Nat.le_add_left _ _)
  | cons t ts ih =>
    have ht : (t.tails.flatMap List.inits).length ≤ (t.length + 1) * (t.length + 1) := by
      rw [← List.length_tails]
      refine length_flatMap_le fun u hu => ?_
      rw [List.length_inits, List.length_tails]
      have := ((List.mem_tails u t).1 hu).length_le
      omega
    rw [parts, List.flatMap_cons, List.length_append, List.cons_append, List.foldr_cons]
    unfold parts at ih
    omega

/-! ## What is read from a line is part of it -/

theorem Argument.mem_of_positional {ts : List Text} {t : Text}
    (h : t ∈ positionals (read ts)) : t ∈ ts := by
  fun_induction read ts with
  | case1 => exact h
  | case2 => cases h
  | case3 => exact h
  | case4 f v ts _ _ ih => exact List.mem_cons_of_mem f (ih h)
  | case5 f v ts _ _ ih => exact List.mem_cons_of_mem f (List.mem_cons_of_mem v (ih h))
  | case6 u v ts _ ih =>
    rcases List.mem_cons.1 h with rfl | h
    · exact List.mem_cons_self
    · exact List.mem_cons_of_mem u (ih h)

theorem Invocation.infix_of_mem_args {line a : Text} (h : a ∈ (ofLine line).args) :
    a <:+: line := by
  cases ht : Token.tokenize line with
  | nil =>
    unfold ofLine at h
    rw [ht] at h
    cases h
  | cons c ts =>
    rw [ofLine_of_tokenize ht] at h
    refine Token.infix_of_mem_tokenize ?_
    rw [ht]
    exact List.mem_cons_of_mem c (Argument.mem_of_positional h)

/-! ## All that comes up is part of the first texts -/

/-- The aliases and macros of the session are made of parts of the texts. -/
structure Within (ts : List Text) (s : Session) : Prop where
  aliases : ∀ {name target}, s.registry.aliases.get? name = some target →
    IsPart ts name ∧ IsPart ts target
  macros : ∀ {name lines}, s.macros.get? name = some lines →
    IsPart ts name ∧ ∀ line ∈ lines, IsPart ts line

/-- What is read from an invocation is part of the texts, and there is a line to read it from. -/
def Invocation.IsWithin (ts : List Text) (i : Invocation) : Prop :=
  (∀ a ∈ i.args, IsPart ts a) ∧ IsPart ts i.raw ∧ (i.command ≠ [] → i.raw ≠ [])

theorem Invocation.ofLine_isWithin {ts : List Text} {line : Text} (h : IsPart ts line) :
    (ofLine line).IsWithin ts := by
  have hraw : (ofLine line).raw = line := ofTokens_raw line _
  refine ⟨fun a ha => h.of_isInfix (infix_of_mem_args ha), by rwa [hraw], ?_⟩
  rw [hraw]
  rintro hc rfl
  exact hc rfl

/-- An alias adds what stands in its target. -/
theorem Within.resolve_isWithin {ts : List Text} {s : Session} (hs : Within ts s)
    {i : Invocation} (hi : i.IsWithin ts) :
    (∀ a ∈ (s.registry.resolve i).args, IsPart ts a) ∧ IsPart ts (s.registry.resolve i).raw := by
  rw [Registry.resolve_raw]
  refine ⟨?_, hi.2.1⟩
  unfold Registry.resolve
  split
  · exact hi.1
  · rename_i target ht
    intro a ha
    rcases List.mem_append.1 ha with ha | ha
    · exact (hs.aliases ht).2.of_isInfix (Invocation.infix_of_mem_args ha)
    · exact hi.1 a ha

theorem Within.of_aliases_eq {ts : List Text} {s t : Session} (hs : Within ts s)
    (ha : t.registry.aliases = s.registry.aliases) (hm : t.macros.macros = s.macros.macros) :
    Within ts t where
  aliases h := hs.aliases (by rwa [ha] at h)
  macros h := by
    unfold MacroBook.get? at h
    rw [hm] at h
    exact hs.macros h

theorem mem_of_lookup {α : Type} {t : Table α} {k : Text} {v : α} (h : t.get? k = some v) :
    (k, v) ∈ t.entries := by
  obtain ⟨l₁, l₂, hl, -⟩ := List.lookup_eq_some_iff.1 h
  rw [hl]
  exact List.mem_append_right l₁ List.mem_cons_self

/-- At the start all that the session holds is part of its own texts. -/
theorem within_texts (s : Session) : Within s.texts s where
  aliases h := by
    have hm := mem_of_lookup h
    refine ⟨⟨_, ?_, List.infix_refl _⟩, ⟨_, ?_, List.infix_refl _⟩⟩
    · simp only [Session.texts, List.mem_append]
      exact .inl (.inl (.inl (List.mem_map_of_mem hm)))
    · simp only [Session.texts, List.mem_append]
      exact .inl (.inl (.inr (List.mem_map_of_mem hm)))
  macros h := by
    have hm := mem_of_lookup h
    refine ⟨⟨_, ?_, List.infix_refl _⟩, fun line hl => ⟨line, ?_, List.infix_refl _⟩⟩
    · simp only [Session.texts, List.mem_append]
      exact .inl (.inr (List.mem_map_of_mem hm))
    · simp only [Session.texts, List.mem_append]
      exact .inr (List.mem_flatten.2 ⟨_, List.mem_map_of_mem hm, hl⟩)

/-- A change takes its names and lines from the invocation. -/
theorem Within.change {ts : List Text} {s s' : Session} {b : Body} {i : Invocation}
    (hs : Within ts s) (ha : ∀ a ∈ i.args, IsPart ts a) (hl : IsPart ts i.line)
    (h : Change i s b s') : Within ts s' := by
  cases h with
  | leave => exact hs.of_aliases_eq rfl rfl
  | forget => exact hs.of_aliases_eq rfl rfl
  | @bind name target bound hr hb =>
    obtain ⟨-, hv⟩ := Session.bindAlias_value hb
    have hrest := hl.of_isInfix (Token.splitFirst_isInfix i.line).2
    have hparts := Alias.readBinding_isInfix (Token.splitFirst i.line).2
    rw [hr] at hparts
    rw [hv]
    refine ⟨fun {n t} hn => ?_, fun hm => hs.macros hm⟩
    rw [Registry.setAlias, Table.get?_set] at hn
    split at hn
    · rename_i he
      cases hn
      rw [he]
      exact ⟨hrest.of_isInfix hparts.1, hrest.of_isInfix hparts.2⟩
    · exact hs.aliases hn
  | unbind =>
    refine ⟨fun {n t} hn => ?_, fun hm => hs.macros hm⟩
    simp only [Session.removeAlias, Session.withRegistry, Registry.removeAlias, Logged.map_value,
      Table.get?_erase] at hn
    split at hn
    · cases hn
    · exact hs.aliases hn
  | @define name lines h =>
    obtain ⟨word, hargs⟩ := h
    refine ⟨fun hn => hs.aliases hn, fun {n ls} hm => ?_⟩
    simp only [MacroBook.define, MacroBook.get?, Table.get?_set] at hm
    split at hm
    · rename_i he
      cases hm
      rw [he]
      have hmem : ∀ x ∈ name :: lines, x ∈ i.args := by
        intro x hx
        rw [hargs]
        exact List.mem_cons_of_mem word hx
      exact ⟨ha _ (hmem _ List.mem_cons_self),
        fun line hline => ha _ (hmem _ (List.mem_cons_of_mem name hline))⟩
    · exact hs.macros hm
  | delete name =>
    refine ⟨fun hn => hs.aliases hn, fun {n ls} hm => ?_⟩
    simp only [MacroBook.delete, MacroBook.get?, Table.get?_erase] at hm
    split at hm
    · cases hm
    · exact hs.macros hm
  | switch h =>
    obtain ⟨r, ps, hv, haliases⟩ := Session.switchPlugin_value h
    rw [hv]
    exact hs.of_aliases_eq haliases rfl

/-- Every run within the texts stays within them. -/
theorem kept_within (ts : List Text) : Session.Kept (Invocation.IsWithin ts) (Within ts) where
  change {i s b s'} hi hs hn h := by
    obtain ⟨ha, hraw⟩ := hs.resolve_isWithin hi
    refine hs.change ha ?_ h
    unfold Invocation.line
    rw [if_neg]
    · exact hraw
    · rw [Registry.resolve_raw]
      exact hi.2.2 hn
  lines hs hm line hl := Invocation.ofLine_isWithin ((hs.macros hm).2 line hl)
  enter hs _ := hs.of_aliases_eq rfl rfl
  leave hs _ := hs.of_aliases_eq rfl rfl

end CommandShell
