import CommandShell.Proofs.Arguments
import CommandShell.Proofs.Expansion
import CommandShell.Proofs.Quoting

/-!
Invocations that are written as lines and read again.

An invocation that was not read from a line stands for the line that its tokens make up
(`Invocation.tokens`): the name, the arguments, then the flags. Reading that line gives the same
call just for the invocations of `Spellable`:
* `read_tokens`: tokens of such an invocation are read as its arguments and its flags, so no flag
  takes a token that is not its value;
* `spellable_ofLine`: whatever a line is read as is one of them.
`sameCall_join_iff` puts them together.
-/

namespace CommandShell

namespace Argument

/-- A dash in front makes a token a flag. -/
theorem isFlagToken_dash (name : Text) : isFlagToken ("-" ++ name) = true := rfl

/-- The name of a flag does not begin with a dash. -/
theorem isFlagToken_flagName (token : Text) : isFlagToken (flagName token) = false := by
  have hhead := List.head?_dropWhile_not (· == ('-' : CodePoint)) token
  unfold isFlagToken flagName
  cases h : (token.dropWhile (· == ('-' : CodePoint))).head? with
  | none => rfl
  | some c =>
    rw [h] at hhead
    simpa using hhead

/-- A name without a dash in front is read back when one is put there. -/
theorem flagName_dash {name : Text} (h : isFlagToken name = false) :
    flagName ("-" ++ name) = name := by
  show List.dropWhile (· == ('-' : CodePoint)) (('-' : CodePoint) :: name) = name
  rw [List.dropWhile_cons_of_pos (by simp)]
  cases name with
  | nil => rfl
  | cons c name =>
    refine List.dropWhile_cons_of_neg ?_
    simpa [isFlagToken] using h

/-- Tokens without a dash in front are positional arguments. -/
theorem read_positionals {args : List Text} (h : ∀ a ∈ args, isFlagToken a = false)
    (ts : List Text) : read (args ++ ts) = args.map .positional ++ read ts := by
  induction args with
  | nil => rfl
  | cons a args ih =>
    obtain ⟨ha, hargs⟩ := List.forall_mem_cons.1 h
    rw [List.cons_append, read_cons_positional _ ha, ih hargs]
    rfl

/-- The tokens of one flag. -/
def flagSpelling : Text × FlagValue → List Text
  | (name, .text t) => ["-" ++ name, t]
  | (name, .switch _) => ["-" ++ name]

/-- A flag that is read as it is written: its name has no dash in front, and it is switched on or
has a text without a dash in front. -/
def Plain : Text × FlagValue → Prop
  | (name, .text t) => isFlagToken name = false ∧ isFlagToken t = false
  | (name, .switch on) => isFlagToken name = false ∧ on = true

theorem read_flagSpelling_append {e : Text × FlagValue} (he : Plain e) {ts : List Text}
    (hts : ∀ t ∈ ts.head?, isFlagToken t = true) :
    read (flagSpelling e ++ ts) = .flag e.1 e.2 :: read ts := by
  obtain ⟨name, value⟩ := e
  -- What comes after is a flag itself, so it is not taken as a value.
  have hcut : ¬ Absorbs (flagSpelling (name, value)) ts := by
    rintro ⟨-, t, ht, hflag⟩
    rw [hts t ht] at hflag
    cases hflag
  rw [read_append hcut]
  cases value with
  | text t =>
    obtain ⟨hname, ht⟩ := he
    show read ["-" ++ name, t] ++ read ts = _
    rw [read, if_pos (isFlagToken_dash name), if_neg (by simp [ht]), flagName_dash hname]
    rfl
  | switch on =>
    obtain ⟨hname, rfl⟩ := he
    show read ["-" ++ name] ++ read ts = _
    rw [read, if_pos (isFlagToken_dash name), flagName_dash hname]
    rfl

/-- Flags that are written one after the other are read as they are. -/
theorem read_flatMap_flagSpelling {es : List (Text × FlagValue)} (h : ∀ e ∈ es, Plain e) :
    read (es.flatMap flagSpelling) = es.map fun e => .flag e.1 e.2 := by
  induction es with
  | nil => rfl
  | cons e es ih =>
    obtain ⟨he, hes⟩ := List.forall_mem_cons.1 h
    have hhead : ∀ t ∈ (es.flatMap flagSpelling).head?, isFlagToken t = true := by
      intro t ht
      cases es with
      | nil => cases ht
      | cons e' es =>
        obtain ⟨name, value⟩ := e'
        cases value <;> cases ht <;> rfl
    rw [List.flatMap_cons, read_flagSpelling_append he hhead, ih hes]
    rfl

end Argument

namespace Invocation

open Argument Token

/-- What an invocation has to satisfy so that a line can spell it: no argument, name or value of a
flag begins with a dash, a flag has a text or is switched on, and each token of its line is read
back. -/
structure Spellable (i : Invocation) : Prop where
  args : ∀ a ∈ i.args, isFlagToken a = false
  names : ∀ name ∈ i.flags.keys, isFlagToken name = false
  texts : ∀ t, .text t ∈ i.flags.values → isFlagToken t = false
  on : .switch false ∉ i.flags.values
  tokens : ∀ t ∈ i.tokens, tokenize (quote t) = [t]

theorem tokens_eq (i : Invocation) :
    i.tokens = i.command :: (i.args ++ i.flags.entries.flatMap flagSpelling) := by
  have hflags : flagTokens i.flags = i.flags.entries.flatMap flagSpelling := by
    unfold flagTokens
    congr 1
    funext ⟨name, value⟩
    cases value <;> rfl
  unfold tokens
  rw [hflags, List.cons_append]

theorem Spellable.plain {i : Invocation} (h : i.Spellable) : ∀ e ∈ i.flags.entries, Plain e := by
  rintro ⟨name, value⟩ he
  have hname := h.names name (List.mem_map_of_mem he)
  have hvalue : value ∈ i.flags.values := List.mem_map_of_mem he
  cases value with
  | text t => exact ⟨hname, h.texts t hvalue⟩
  | switch on =>
    cases on with
    | true => exact ⟨hname, rfl⟩
    | false => exact absurd hvalue h.on

/-- A token is read back from what is written for it just when it can be written. -/
theorem tokenize_quote_iff {t : Text} : tokenize (quote t) = [t] ↔ Writable t := by
  constructor
  · intro h
    have hmem : t ∈ tokenize (quote t) := by
      rw [h]
      exact List.mem_singleton_self t
    exact writable_of_mem_tokenize hmem
  · intro h
    have hone : ∀ u ∈ [t], Writable u := by simpa using h
    have hjoin := tokenize_join hone
    rwa [join_singleton] at hjoin

/-- The tokens of a spellable invocation are read as its arguments and its flags. -/
theorem read_tokens {i : Invocation} (h : i.Spellable) :
    Argument.read (i.args ++ i.flags.entries.flatMap flagSpelling) =
      i.args.map .positional ++ i.flags.entries.map fun e => .flag e.1 e.2 := by
  rw [read_positionals h.args, read_flatMap_flagSpelling h.plain]

/-- Reading the line of a spellable invocation gives the same call. -/
theorem Spellable.sameCall {i : Invocation} (h : i.Spellable) :
    (ofLine (join i.tokens)).SameCall i := by
  have htokens : tokenize (join i.tokens) = i.tokens :=
    tokenize_join fun t ht => tokenize_quote_iff.1 (h.tokens t ht)
  rw [tokens_eq] at htokens
  rw [tokens_eq, ofLine_of_tokenize htokens, read_tokens h]
  refine ⟨rfl, ?_, ?_⟩
  · show positionals _ = i.args
    unfold positionals
    simp [List.filterMap_append, List.filterMap_map, positional?, Function.comp_def]
  · show Argument.flags _ = i.flags
    unfold Argument.flags
    simp [List.filterMap_append, List.filterMap_map, Argument.flag?, Function.comp_def]
    exact i.flags.ofList_entries

/-! ## What lines are read as -/

/-- With one dash in front the name of a flag can be written if its token can. -/
theorem writable_dash_flagName {f : Text} (h : Writable f) : Writable ("-" ++ flagName f) := by
  have hpart : flagName f <:+ f := List.dropWhile_suffix _
  have hlost {q : CodePoint} (hq : q ∉ f) (hdash : q ≠ '-') : q ∉ "-" ++ flagName f := by
    intro hm
    rcases List.mem_cons.1 hm with he | hm
    · exact hdash he
    · exact hq (hpart.subset hm)
  rintro (hnil | ⟨c, hc, hblank⟩ | hquoted)
  · cases hnil
  · rcases List.mem_cons.1 hc with rfl | hc
    · cases hblank
    · have hneeds : NeedsQuotes f := .inr (.inl ⟨c, hpart.subset hc, hblank⟩)
      exact (h hneeds).imp (hlost · (by decide)) (hlost · (by decide))
  · cases hquoted

/-- What is read as a flag is plain, and its tokens can be written if those that are read can. -/
theorem plain_of_mem_read {ts : List Text} (hts : ∀ t ∈ ts, Writable t) {name : Text}
    {value : FlagValue} (h : .flag name value ∈ Argument.read ts) :
    Plain (name, value) ∧ ∀ t ∈ flagSpelling (name, value), Writable t := by
  obtain ⟨group, hspells, hgroup⟩ := exists_spells_of_mem_read h
  cases hspells with
  | @switch f hf =>
    have hname := writable_dash_flagName (hts f (hgroup f (by simp)))
    exact ⟨⟨isFlagToken_flagName f, rfl⟩, by simpa [flagSpelling] using hname⟩
  | @valued f v hf hv =>
    have hname := writable_dash_flagName (hts f (hgroup f (by simp)))
    have hvalue := hts v (hgroup v (by simp))
    exact ⟨⟨isFlagToken_flagName f, hv⟩, by simpa [flagSpelling] using ⟨hname, hvalue⟩⟩

theorem of_mem_positionals_read {ts : List Text} {t : Text}
    (h : t ∈ positionals (Argument.read ts)) : isFlagToken t = false ∧ t ∈ ts := by
  obtain ⟨a, ha, hpositional⟩ := List.mem_filterMap.1 h
  obtain ⟨group, hspells, hgroup⟩ := exists_spells_of_mem_read ha
  cases hspells with
  | positional ht =>
    cases hpositional
    exact ⟨ht, hgroup _ (by simp)⟩
  | switch | valued => cases hpositional

theorem mem_read_of_mem_entries {ts : List Text} {e : Text × FlagValue}
    (h : e ∈ (Argument.flags (Argument.read ts)).entries) :
    .flag e.1 e.2 ∈ Argument.read ts := by
  have hread := (Table.mem_of_mem_setAll h).resolve_left List.not_mem_nil
  obtain ⟨a, ha, hflag⟩ := List.mem_filterMap.1 hread
  cases a with
  | positional => cases hflag
  | flag name value =>
    cases hflag
    exact ha

/-- The call that tokens spell is spellable if the tokens can be written. -/
theorem spellable_of_tokens {c : Text} {ts : List Text} (hc : Writable c)
    (hts : ∀ t ∈ ts, Writable t) (raw : Text) :
    Spellable ⟨c, positionals (Argument.read ts), Argument.flags (Argument.read ts), raw⟩ := by
  have hplain {e : Text × FlagValue} (he : e ∈ (Argument.flags (Argument.read ts)).entries) :=
    plain_of_mem_read hts (mem_read_of_mem_entries he)
  refine ⟨fun a ha => (of_mem_positionals_read ha).1, ?_, ?_, ?_, ?_⟩
  · rintro name hname
    obtain ⟨⟨name, value⟩, he, rfl⟩ := List.mem_map.1 hname
    have hname := (hplain he).1
    cases value <;> exact hname.1
  · rintro t ht
    obtain ⟨⟨name, value⟩, he, rfl⟩ := List.mem_map.1 ht
    exact (hplain he).1.2
  · rintro hoff
    obtain ⟨⟨name, value⟩, he, rfl⟩ := List.mem_map.1 hoff
    exact Bool.false_ne_true (hplain he).1.2
  · rintro t ht
    rw [tokenize_quote_iff]
    rw [tokens_eq, List.mem_cons, List.mem_append, List.mem_flatMap] at ht
    rcases ht with rfl | ht | ⟨e, he, ht⟩
    · exact hc
    · exact hts t (of_mem_positionals_read ht).2
    · exact (hplain he).2 t ht

theorem spellable_ofLine (line : Text) : (ofLine line).Spellable := by
  cases h : tokenize line with
  | nil =>
    have hline : ofLine line = { command := [], raw := line } := by
      unfold ofLine
      rw [h]
      rfl
    have hempty : ∀ t : Text, t ∈ ([] : List Text) → Writable t := fun _ ht => by cases ht
    rw [hline]
    exact spellable_of_tokens (by decide) hempty line
  | cons c ts =>
    have hwritable : ∀ t ∈ c :: ts, Writable t := fun t ht => writable_of_mem_tokenize (h ▸ ht)
    obtain ⟨hc, hts⟩ := List.forall_mem_cons.1 hwritable
    rw [ofLine_of_tokenize h]
    exact spellable_of_tokens hc hts line

theorem Spellable.congr {i j : Invocation} (h : i.Spellable) (hij : i.SameCall j) :
    j.Spellable := by
  obtain ⟨command, args, flags, raw⟩ := i
  obtain ⟨hcommand, hargs, hflags⟩ := hij
  obtain ⟨command', args', flags', raw'⟩ := j
  cases hcommand
  cases hargs
  cases hflags
  exact ⟨h.args, h.names, h.texts, h.on, h.tokens⟩

/-- The line that the tokens of an invocation make up is read as the same call just if the
invocation is spellable. Whatever a line is read as is spellable, so it may be written anew and read
again. -/
theorem sameCall_join_iff :
    (∀ i : Invocation, (ofLine (join i.tokens)).SameCall i ↔ i.Spellable) ∧
      ∀ line, (ofLine line).Spellable ∧
        (ofLine (join (ofLine line).tokens)).SameCall (ofLine line) := by
  refine ⟨fun i => ⟨(spellable_ofLine (join i.tokens)).congr, Spellable.sameCall⟩, fun line => ?_⟩
  exact ⟨spellable_ofLine line, (spellable_ofLine line).sameCall⟩

end Invocation

end CommandShell
