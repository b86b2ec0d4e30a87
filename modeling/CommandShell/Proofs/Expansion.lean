import CommandShell.Registry
import CommandShell.Proofs.Lexing

/-!
Aliases and the text of a line.

Resolving reads the target of an alias and the typed line apart and puts the two together
(`Registry.resolve`). Here it is compared with reading one line, the target followed by what was
typed after the name.
* `read_append`: the arguments of a list of tokens are those of its parts, unless it is cut
  between a flag and its value (`Argument.Absorbs`);
* `overlay_flags`: flags that are put over others are the flags of both lists, one after the
  other;
* `resolve_sameCall_iff`: the two readings agree exactly when no flag at the end of the target
  takes the first typed token.
-/

namespace CommandShell

/-! ## Registries and what their aliases are -/

namespace Registry

/-- The registries that come about by registering commands and by binding and removing aliases. -/
inductive Built : Registry → Prop
  | empty : Built {}
  | register {r : Registry} (h : Built r) (c : Command) : Built (r.register c).value
  | bindAlias {r : Registry} (h : Built r) {name target : Text} {bound : Logged Registry}
      (hb : r.bindAlias name target = .ok bound) : Built bound.value
  | removeAlias {r : Registry} (h : Built r) (name : Text) : Built (r.removeAlias name).value

theorem bindAlias_eq_ok {r : Registry} {name target : Text} {bound : Logged Registry}
    (h : r.bindAlias name target = .ok bound) :
    aliasFault? name target = none ∧ bound = r.setAlias name target := by
  unfold bindAlias at h
  split at h
  · cases h
  · rename_i hf
    cases h
    exact ⟨hf, rfl⟩

/-- Every alias has passed the check that it is bound under. -/
theorem Built.aliasFault_eq_none {r : Registry} (h : r.Built) {name target : Text}
    (ha : r.aliases.get? name = some target) : aliasFault? name target = none := by
  induction h with
  | empty => cases ha
  | register _ c ih => exact ih ha
  | bindAlias _ hb ih =>
    obtain ⟨hf, rfl⟩ := bindAlias_eq_ok hb
    rw [setAlias, Table.get?_set] at ha
    split at ha
    · rename_i hn
      cases ha
      rw [hn]
      exact hf
    · exact ih ha
  | removeAlias _ n ih =>
    rw [Registry.removeAlias, Table.get?_erase] at ha
    split at ha
    · cases ha
    · exact ih ha

theorem aliasFault_eq_none {name target : Text} (h : aliasFault? name target = none) :
    name ≠ [] ∧ (Invocation.ofLine target).command ≠ [] := by
  unfold aliasFault? isBadName at h
  split at h
  · cases h
  · rename_i hn
    split at h
    · cases h
    · rename_i ht
      refine ⟨?_, ht⟩
      rintro rfl
      exact hn rfl

end Registry

/-! ## Arguments in two parts -/

namespace Argument

/-- A flag at the end of the first tokens takes the first of the others as its value. -/
def Absorbs (ts us : List Text) : Prop :=
  (∃ f ∈ ts.getLast?, isFlagToken f = true) ∧ ∃ u ∈ us.head?, isFlagToken u = false

instance (ts us : List Text) : Decidable (Absorbs ts us) :=
  inferInstanceAs (Decidable (_ ∧ _))

theorem absorbs_cons_cons (t v : Text) (ts us : List Text) :
    Absorbs (t :: v :: ts) us ↔ Absorbs (v :: ts) us := by
  unfold Absorbs
  rw [List.getLast?_cons_cons]

/-- A list of tokens may be cut anywhere but between a flag and its value. -/
theorem read_append {ts us : List Text} (h : ¬ Absorbs ts us) :
    read (ts ++ us) = read ts ++ read us := by
  fun_induction read ts with
  | case1 => rfl
  | case2 t ht =>
    cases us with
    | nil => simp [read, ht]
    | cons u us =>
      have hu : isFlagToken u = true := by
        by_contra hu
        exact h ⟨⟨t, rfl, ht⟩, u, rfl, by simpa using hu⟩
      simp [read, ht, hu]
  | case3 t ht =>
    exact read_cons_positional us (by simpa using ht)
  | case4 t v ts ht hv ih =>
    rw [absorbs_cons_cons] at h
    simp only [List.cons_append] at ih ⊢
    rw [read, if_pos ht, if_pos hv, ih h]
  | case5 t v ts ht hv ih =>
    have hts : ¬ Absorbs ts us := by
      cases ts with
      | nil => rintro ⟨⟨f, hf, -⟩, -⟩; cases hf
      | cons w ts => rwa [absorbs_cons_cons, absorbs_cons_cons] at h
    simp only [List.cons_append]
    rw [read, if_pos ht, if_neg hv, ih hts]
  | case6 t v ts ht ih =>
    rw [absorbs_cons_cons] at h
    have ht' : isFlagToken t = false := by simpa using ht
    simp only [List.cons_append] at ih ⊢
    rw [read_cons_positional _ ht', ih h]

theorem positionals_append (as bs : List Argument) :
    positionals (as ++ bs) = positionals as ++ positionals bs := List.filterMap_append

/-- Cut between a flag and its value, the value counts as a positional argument of its own. -/
theorem length_positionals_of_absorbs {ts us : List Text} (h : Absorbs ts us) :
    (positionals (read ts) ++ positionals (read us)).length
      = (positionals (read (ts ++ us))).length + 1 := by
  obtain ⟨⟨f, hf, hff⟩, u, hu, huf⟩ := h
  obtain ⟨us, rfl⟩ := List.head?_eq_some_iff.1 hu
  obtain ⟨ts, rfl⟩ := List.getLast?_eq_some_iff.1 hf
  have hcut : ∀ vs, read (ts ++ f :: vs) = read ts ++ read (f :: vs) := by
    intro vs
    refine read_append ?_
    rintro ⟨-, v, hv, hvf⟩
    cases hv
    rw [hff] at hvf
    cases hvf
  have hlast : positionals (read [f]) = [] := by
    simp [read, hff, positionals, positional?]
  have hpair : positionals (read (f :: u :: us)) = positionals (read us) := by
    rw [read, if_pos hff, if_neg (by simp [huf])]
    rfl
  have hhead : positionals (read (u :: us)) = u :: positionals (read us) := by
    rw [read_cons_positional us huf]
    rfl
  rw [List.append_assoc, List.singleton_append, hcut, hcut, positionals_append,
    positionals_append, hlast, hpair, hhead]
  simp only [List.append_nil, List.length_append, List.length_cons]
  omega

/-- Flags that are put over others are the flags of both lists, one after the other. -/
theorem overlay_flags (as bs : List Argument) :
    (flags as).overlay (flags bs) = flags (as ++ bs) := by
  unfold flags Table.overlay
  rw [Table.setAll_ofList, List.filterMap_append]
  exact (Table.setAll_append _ _ _).symm

end Argument

/-! ## Aliases as text -/

namespace Invocation

/-- Two invocations with the same command, arguments and flags, flags in the same order. Only the
lines that they were read from may differ. -/
def SameCall (i j : Invocation) : Prop :=
  i.command = j.command ∧ i.args = j.args ∧ i.flags = j.flags

theorem SameCall.eq_with_raw {i j : Invocation} (h : SameCall i j) :
    i = { j with raw := i.raw } := by
  obtain ⟨command, args, flags, raw⟩ := i
  obtain ⟨rfl, rfl, rfl⟩ := h
  rfl

theorem ofLine_of_tokenize {line c : Text} {ts : List Text}
    (h : Token.tokenize line = c :: ts) :
    ofLine line = ⟨c, Argument.positionals (Argument.read ts),
      Argument.flags (Argument.read ts), line⟩ := by
  unfold ofLine
  rw [h]
  rfl

theorem tokenize_of_command_ne {line : Text} (h : (ofLine line).command ≠ []) :
    Token.tokenize line = (ofLine line).command :: (Token.tokenize line).tail := by
  cases ht : Token.tokenize line with
  | nil =>
    refine absurd ?_ h
    unfold ofLine
    rw [ht]
    rfl
  | cons c ts =>
    rw [ofLine_of_tokenize ht]
    rfl

theorem tokenize_of_splitFirst {line first rest : Text} (h : Token.splitFirst line = (first, rest))
    (hne : first ≠ []) : Token.tokenize line = first :: Token.tokenize rest := by
  have hb : Text.allBlank line = false := by
    cases hb : Text.allBlank line
    · rfl
    · rw [Token.splitFirst_of_allBlank hb] at h
      cases h
      exact absurd rfl hne
  rw [Token.tokenize_splitFirst hb, h]

/-- The tokens of a target and of the text put after it. -/
theorem tokenize_target_append {target : Text} (h : ¬ Token.EndsOpen target) (rest : Text) :
    Token.tokenize (target ++ " " ++ rest) = Token.tokenize target ++ Token.tokenize rest := by
  rw [List.append_assoc]
  exact Token.tokenize_append_blank h rfl rest

end Invocation

namespace Registry

section Expansion

variable {r : Registry} (hr : r.Built) {name target line rest : Text}
  (ha : r.aliases.get? name = some target) (hopen : ¬ Token.EndsOpen target)
  (hl : Token.splitFirst line = (name, rest))

include hr ha hl

/-- A call of an alias, with the tokens of the target and of the rest of the line read apart. -/
theorem resolve_ofLine :
    r.resolve (.ofLine line) =
      { command := (Invocation.ofLine target).command
        args := Argument.positionals (Argument.read (Token.tokenize target).tail)
          ++ Argument.positionals (Argument.read (Token.tokenize rest))
        flags := (Argument.flags (Argument.read (Token.tokenize target).tail)).overlay
          (Argument.flags (Argument.read (Token.tokenize rest)))
        raw := line } := by
  obtain ⟨hname, hcommand⟩ := aliasFault_eq_none (hr.aliasFault_eq_none ha)
  have htyped := Invocation.tokenize_of_splitFirst hl hname
  have htarget := Invocation.tokenize_of_command_ne hcommand
  rw [Invocation.ofLine_of_tokenize htyped, resolve]
  simp only [ha]
  rw [Invocation.ofLine_of_tokenize htarget]

include hopen

omit hl in
/-- The target with the rest of the line put after it, all tokens read at once. -/
theorem ofLine_target_append (rest : Text) :
    Invocation.ofLine (target ++ " " ++ rest) =
      { command := (Invocation.ofLine target).command
        args := Argument.positionals
          (Argument.read ((Token.tokenize target).tail ++ Token.tokenize rest))
        flags := Argument.flags
          (Argument.read ((Token.tokenize target).tail ++ Token.tokenize rest))
        raw := target ++ " " ++ rest } := by
  obtain ⟨-, hcommand⟩ := aliasFault_eq_none (hr.aliasFault_eq_none ha)
  have htarget := Invocation.tokenize_of_command_ne hcommand
  have hjoined := Invocation.tokenize_target_append hopen rest
  rw [htarget, List.cons_append] at hjoined
  exact Invocation.ofLine_of_tokenize hjoined

/-- Unless a flag at the end of the target would take the first typed token as its value, both
readings give the same call. -/
theorem resolve_sameCall
    (habs : ¬ Argument.Absorbs (Token.tokenize target).tail (Token.tokenize rest)) :
    (r.resolve (.ofLine line)).SameCall (.ofLine (target ++ " " ++ rest)) := by
  rw [resolve_ofLine hr ha hl, ofLine_target_append hr ha hopen rest]
  rw [Argument.read_append habs, Argument.positionals_append, Argument.overlay_flags]
  exact ⟨rfl, rfl, rfl⟩

/-- Resolving a call of an alias and reading the target of the alias with the rest of the line put
after it give the same call, unless a flag at the end of the target would take the first of the
typed tokens as its value. -/
theorem resolve_sameCall_iff :
    (r.resolve (.ofLine line)).SameCall (.ofLine (target ++ " " ++ rest)) ↔
      ¬ Argument.Absorbs (Token.tokenize target).tail (Token.tokenize rest) := by
  refine ⟨?_, resolve_sameCall hr ha hopen hl⟩
  intro hsame habs
  rw [resolve_ofLine hr ha hl, ofLine_target_append hr ha hopen rest] at hsame
  obtain ⟨-, hargs, -⟩ := hsame
  have hlen := Argument.length_positionals_of_absorbs habs
  dsimp only at hargs
  rw [hargs] at hlen
  omega

end Expansion

/-- With `verbose` standing for `call -v`, the line `verbose mom` calls with the argument `mom`, and
the line `call -v mom` with the flag `v` set to it. -/
theorem resolve_sameCall_iff_verbose :
    (setAlias {} "verbose" "call -v").value.Built ∧
      (setAlias {} "verbose" "call -v").value.aliases.get? "verbose" = some "call -v" ∧
      ¬ Token.EndsOpen "call -v" ∧
      Token.splitFirst "verbose mom" = (("verbose" : Text), ("mom" : Text)) ∧
      (((setAlias {} "verbose" "call -v").value.resolve (.ofLine "verbose mom")).SameCall
          (.ofLine ("call -v" ++ " " ++ "mom")) ↔
        ¬ Argument.Absorbs (Token.tokenize "call -v").tail (Token.tokenize "mom")) :=
  have hb : bindAlias {} "verbose" "call -v" = .ok (setAlias {} "verbose" "call -v") := rfl
  have hl : Token.splitFirst "verbose mom" = (("verbose" : Text), ("mom" : Text)) := by decide
  ⟨.bindAlias .empty hb, rfl, by decide, hl,
    resolve_sameCall_iff (.bindAlias .empty hb) rfl (by decide) hl⟩

end Registry

end CommandShell
