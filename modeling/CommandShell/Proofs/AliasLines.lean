import CommandShell.Proofs.AliasCall
import CommandShell.Proofs.Respelling
import CommandShell.Proofs.WellFormed

/-!
Lines that bind an alias, and lines that take one away.

The alias command reads its line a second time, in its own way (`Alias.readBinding`), where the
other commands read arguments. A target that is written as a token comes through this reading as it
is, be it after an equals sign or after a blank (`readBinding_equals`, `readBinding_blank`), so both
lines bind the name to just that target (`execute_alias_binds`).

The unalias command reads arguments, and no argument of a line begins with a dash. So a name that
begins with one is never taken away, whatever is executed (`Session.kept_dashed`), and all other
names are taken away by the line that spells them (`execute_unalias_iff`).
-/

namespace CommandShell

/-! ## Commands that are called by their own names -/

namespace Session

/-- The word calls a command with this body, and is no alias. -/
def Offers (s : Session) (word : Text) (b : Body) : Prop :=
  s.registry.aliases.get? word = none ∧ (s.registry.commands.get? word).map (·.body) = some b

/-- What it means that executing a line reports `report` and makes the name stand for `target?`, or
for nothing at all. The other aliases, and whatever else there is but the history, stay as they
are. -/
structure Rebinds (s : Session) (line name : Text) (target? : Option Text) (report : Text) :
    Prop where
  reported : (s.execute line).outcome = .finished (.done report)
  bound : (s.execute line).session.registry.aliases.get? name = target?
  others : ∀ n, n ≠ name →
    (s.execute line).session.registry.aliases.get? n = s.registry.aliases.get? n
  rest : ∃ aliases, (s.execute line).session =
    { s.remember line with registry := { s.registry with aliases } }

variable {s : Session} {word line : Text} {b : Body}

/-- A line whose command is offered is answered by its body. -/
theorem Offers.execute_say (h : s.Offers word b) (hword : word ≠ [])
    (hline : (Invocation.ofLine line).command = word) {s' : Session} {es : List Event} {text : Text}
    (hr : b.respond (.ofLine line) (s.remember line) = ⟨s', es, .reply (.say text)⟩) :
    (s.execute line).outcome = .finished (.done text) ∧ (s.execute line).session = s' := by
  obtain ⟨hnot, hbody⟩ := h
  obtain ⟨c, hc, rfl⟩ := Option.map_eq_some_iff.1 hbody
  have hresolve : s.registry.resolve (.ofLine line) = .ofLine line :=
    Registry.resolve_of_not_alias (by rw [hline, hnot])
  rw [execute_call (c := c) (by rwa [hline]) (by rw [hresolve, hline, hc]), hresolve,
    perform_reply hr]
  exact ⟨rfl, rfl⟩

end Session

/-! ## Words and written tokens -/

namespace Token

open Text

theorem trim_of_not_blank {t : Text} (h : ∀ c ∈ t, isBlank c = false) : trim t = t := by
  cases t with
  | nil => rfl
  | cons c w =>
    have hright := trimRight_word_append h []
    rw [List.append_nil] at hright
    unfold trim
    rw [trimLeft_cons_of_not_blank w (h c List.mem_cons_self), hright]
    exact List.append_nil _

/-- A token that has to stand between quotes is written with one at each end. -/
theorem quote_cases (t : Text) :
    isBare t = true ∧ quote t = t ∨ ∃ q, isQuote q = true ∧ quote t = q :: t ++ [q] := by
  unfold quote
  split
  · exact .inl ⟨‹_›, rfl⟩
  · split
    · exact .inr ⟨singleQuote, rfl, rfl⟩
    · exact .inr ⟨doubleQuote, rfl, rfl⟩

theorem quote_ne_nil (t : Text) : quote t ≠ [] := by
  rcases quote_cases t with ⟨hb, h⟩ | ⟨q, -, h⟩
  · rw [h]
    rintro rfl
    cases hb
  · rw [h]
    exact List.cons_ne_nil _ _

theorem trim_quote (t : Text) : trim (quote t) = quote t := by
  rcases quote_cases t with ⟨hb, h⟩ | ⟨q, hq, h⟩
  · rw [h]
    cases t with
    | nil => rfl
    | cons c w => exact trim_of_not_blank (isBare_cons_iff.1 hb).2
  · have hblank := isQuote_not_blank hq
    rw [h, trim_append (trim_singleton hblank) (List.cons_ne_nil _ _),
      trimLeft_cons_of_not_blank _ hblank]

/-- What begins with a word begins with a token that begins with the word. -/
theorem leads_word_append {c : CodePoint} {w : Text} (hc : isQuote c = false)
    (hw : ∀ d ∈ c :: w, isBlank d = false) (rest : Text) :
    Leads (c :: w ++ rest) (c :: w ++ rest.takeWhile (!isBlank ·))
      (rest.dropWhile (!isBlank ·)) := by
  have hrest := List.takeWhile_append_dropWhile (p := (!isBlank ·)) (l := rest)
  conv => arg 1; rw [← hrest, ← List.append_assoc]
  refine Leads.word (b := []) rfl hc ?_ ?_
  · intro d hd
    rcases List.mem_append.1 (by simpa using hd : d ∈ (c :: w) ++ rest.takeWhile (!isBlank ·)) with
      hd | hd
    · exact hw d hd
    · simpa using List.mem_takeWhile_imp hd
  · intro d hd
    have hhead := List.head?_dropWhile_not (!isBlank ·) rest
    rw [Option.mem_def.1 hd] at hhead
    simpa using hhead

/-- A word is read off the front of a line as it is. -/
theorem leads_word_blank (word : Text) (hw : isBare word = true) (rest : Text) :
    Leads (word ++ " " ++ rest) word (" " ++ rest) := by
  have hquote : quote word = word := if_pos hw
  have hwritable : Writable word := fun hneeds => by
    rw [← isBare_eq_false_iff, hw] at hneeds
    cases hneeds
  have hleads : Leads (quote word ++ (" " ++ rest)) word (" " ++ rest) :=
    .quote hwritable fun d hd => by cases hd; rfl
  rwa [hquote, ← List.append_assoc] at hleads

end Token

/-! ## Bindings that are written out -/

namespace Alias

open Text (trim isBlank)
open Token (Leads quote tokenize)

/-- A target that is written as a token is taken as it is. -/
theorem unquote_quote {target : Text} (htrim : trim target = target)
    (hread : tokenize (quote target) = [target]) : unquote (quote target) = target := by
  unfold unquote
  rw [hread]
  rcases Token.quote_cases target with ⟨hb, h⟩ | ⟨q, hq, h⟩
  · rw [h]
    dsimp only
    rw [htrim, ite_self]
  · have hquoted : Token.startsQuoted (quote target) = true := by
      rw [h]
      exact hq
    dsimp only
    rw [hquoted, if_pos rfl, htrim]

section Binding

variable {name target : Text} (hfit : Registry.FitAlias name target)
  (hquote : Token.startsQuoted name = false)

include hfit hquote

/-- The first token of a written binding begins with the name. -/
theorem leads_binding (rest : Text) :
    Leads (name ++ rest) (name ++ rest.takeWhile (!isBlank ·)) (rest.dropWhile (!isBlank ·)) := by
  obtain ⟨c, w, rfl⟩ := List.exists_cons_of_ne_nil hfit.name_ne_nil
  exact Token.leads_word_append hquote hfit.not_blank rest

theorem startsQuoted_binding (rest : Text) : Token.startsQuoted (name ++ rest) = false := by
  obtain ⟨c, w, rfl⟩ := List.exists_cons_of_ne_nil hfit.name_ne_nil
  exact hquote

omit hquote in
/-- Nothing is cut from the ends of a written binding. -/
theorem trim_binding (separator : CodePoint) :
    trim (name ++ separator :: quote target) = name ++ separator :: quote target := by
  obtain ⟨c, w, rfl⟩ := List.exists_cons_of_ne_nil hfit.name_ne_nil
  have htrim := Token.trim_append (Token.trim_quote target) (Token.quote_ne_nil target)
    (c :: w ++ [separator])
  rw [List.append_assoc, List.singleton_append] at htrim
  rw [htrim, List.cons_append,
    Text.trimLeft_cons_of_not_blank _ (hfit.not_blank c List.mem_cons_self)]
  simp

variable (hequals : equalsSign ∉ name) (htrim : trim target = target)
  (hread : tokenize (quote target) = [target])

include hequals htrim hread

omit hquote hequals in
theorem readBinding_of_separate {line : Text} (hseparate : separate line = (name, quote target)) :
    readBinding line = (name, target) := by
  rw [readBinding_eq, hseparate]
  dsimp only
  rw [Token.trim_of_not_blank hfit.not_blank, Token.trim_quote, unquote_quote htrim hread]

/-- A binding with an equals sign is read as it is written. -/
theorem readBinding_equals :
    readBinding (name ++ equalsSign :: quote target) = (name, target) := by
  have hfirst := (leads_binding hfit hquote (equalsSign :: quote target)).splitFirst_eq
  have hmem : equalsSign ∈ (Token.splitFirst (name ++ equalsSign :: quote target)).1 := by
    rw [hfirst, List.takeWhile_cons_of_pos (by decide)]
    exact List.mem_append_right _ List.mem_cons_self
  have hseparate : separate (name ++ equalsSign :: quote target) = (name, quote target) := by
    obtain ⟨htake, hdrop⟩ := Leads.takeWhile_span hequals (quote target)
    unfold separate splitAtEquals
    rw [if_pos (by simp [hmem, startsQuoted_binding hfit hquote]), htake, hdrop]
    rfl
  exact readBinding_of_separate hfit htrim hread hseparate

/-- A binding with a blank is read as it is written. -/
theorem readBinding_blank (separator : CodePoint) (hs : isBlank separator = true) :
    readBinding (name ++ separator :: quote target) = (name, target) := by
  have hafter : trim (separator :: quote target) = quote target := by
    have hblank : Text.allBlank [separator] = true := by simp [Text.allBlank, hs]
    exact (Token.trim_allBlank_append hblank _).trans (Token.trim_quote target)
  have hfirst := (leads_binding hfit hquote (separator :: quote target)).splitFirst_eq
  rw [List.takeWhile_cons_of_neg (by simp [hs]), List.dropWhile_cons_of_neg (by simp [hs]),
    List.append_nil, hafter] at hfirst
  have hseparate : separate (name ++ separator :: quote target) = (name, quote target) := by
    unfold separate
    rw [hfirst]
    exact if_neg (by simp [hequals])
  exact readBinding_of_separate hfit htrim hread hseparate

end Binding

theorem answer_of_fit {name target : Text} (hfit : Registry.FitAlias name target) (s : Session) :
    ∃ events, answer (name, target) s =
      ⟨{ s with registry := (s.registry.setAlias name target).value }, events,
        .reply (.say ("alias " ++ listed name target))⟩ := by
  have htarget : target ≠ [] := by
    obtain ⟨first, rest, ht, -⟩ := hfit.target_tokens
    rintro rfl
    cases ht
  have hbind : s.bindAlias name target =
      .ok (s.withRegistry (s.registry.setAlias name target)) := by
    unfold Session.bindAlias Registry.bindAlias
    rw [Registry.aliasFault?_eq_none_iff.2 hfit]
    rfl
  unfold answer
  rw [if_neg (by simp [hfit.name_ne_nil, htarget]), hbind]
  exact ⟨_, rfl⟩

end Alias

/-! ## Lines that bind -/

namespace Session

variable {s : Session} {name target rest : Text}

/-- A line that spells a binding binds it. -/
theorem Offers.rebinds (h : s.Offers "alias" .alias) (hfit : Registry.FitAlias name target)
    (hread : Alias.readBinding rest = (name, target)) (htrim : Text.trim rest = rest)
    (hargs : (Invocation.ofLine ("alias" ++ " " ++ rest)).args ≠ []) :
    s.Rebinds ("alias" ++ " " ++ rest) name (some target)
      ("alias " ++ Alias.listed name target) := by
  have hleads := Token.leads_word_blank "alias" rfl rest
  have hline : (Invocation.ofLine ("alias" ++ " " ++ rest)).command = "alias" := by
    rw [Invocation.ofLine_of_tokenize hleads.tokenize_eq]
  have hraw : (Invocation.ofLine ("alias" ++ " " ++ rest)).line = "alias" ++ " " ++ rest :=
    Invocation.line_of_raw (Invocation.ofTokens_raw _ _) (by simp [Text.ofString])
  have hrest : (Token.splitFirst ("alias" ++ " " ++ rest)).2 = rest := by
    rw [hleads.splitFirst_eq]
    show Text.trim (" " ++ rest) = rest
    rw [Token.trim_allBlank_append rfl, htrim]
  obtain ⟨events, hanswer⟩ := Alias.answer_of_fit hfit
    (s.remember ("alias" ++ " " ++ rest))
  have hrespond := Alias.respond_of_args hargs (s.remember ("alias" ++ " " ++ rest))
  rw [hraw, hrest, hread, hanswer] at hrespond
  obtain ⟨houtcome, hsession⟩ := h.execute_say (by decide) hline hrespond
  have hkept := s.registry_remember ("alias" ++ " " ++ rest)
  refine ⟨houtcome, ?_, fun n hn => ?_, ?_⟩
  · rw [hsession]
    exact (Table.get?_set _ _ _ _).trans (if_pos rfl)
  · rw [hsession, ← hkept]
    exact (Table.get?_set _ _ _ _).trans (if_neg hn)
  · exact ⟨_, by rw [hsession, ← hkept]; rfl⟩

/-- A line that goes on with a name has an argument, unless the name begins with a dash. -/
theorem args_ne_nil_of_binding (hfit : Registry.FitAlias name target)
    (hquote : Token.startsQuoted name = false) (hdash : Argument.isFlagToken name = false)
    (more : Text) : (Invocation.ofLine ("alias" ++ " " ++ (name ++ more))).args ≠ [] := by
  have hleads := Token.leads_word_blank "alias" rfl (name ++ more)
  have hfirst := Alias.leads_binding hfit hquote more
  have hblank : Token.tokenize (" " ++ (name ++ more)) = Token.tokenize (name ++ more) :=
    Token.tokenize_allBlank_append rfl _
  have htokens := hleads.tokenize_eq
  rw [hblank, hfirst.tokenize_eq] at htokens
  have hpositional :
      Argument.isFlagToken (name ++ more.takeWhile (!Text.isBlank ·)) = false := by
    obtain ⟨c, w, rfl⟩ := List.exists_cons_of_ne_nil hfit.name_ne_nil
    exact hdash
  rw [Invocation.ofLine_of_tokenize htokens, Argument.read_cons_positional _ hpositional]
  exact List.cons_ne_nil _ _

end Session

/-- Both lines that bind an alias, one with an equals sign and one with a blank, bind the name to
exactly the target that they are written with, and say the same. The target may be any that is
trimmed, begins with a command name and can be written as a token. -/
theorem execute_alias_binds {s : Session} (h : s.Offers "alias" .alias) {name target : Text}
    (hfit : Registry.FitAlias name target) (hequals : Alias.equalsSign ∉ name)
    (hquote : Token.startsQuoted name = false) (hdash : Argument.isFlagToken name = false)
    (htrim : Text.trim target = target)
    (hread : Token.tokenize (Token.quote target) = [target]) :
    s.Rebinds ("alias " ++ name ++ "=" ++ Token.quote target) name (some target)
        ("alias " ++ Alias.listed name target) ∧
      s.Rebinds ("alias " ++ name ++ " " ++ Token.quote target) name (some target)
        ("alias " ++ Alias.listed name target) := by
  have hline (separator : CodePoint) : "alias " ++ name ++ [separator] ++ Token.quote target =
      ("alias" ++ " " ++ (name ++ separator :: Token.quote target) : Text) := by
    simp [Text.ofString]
  have hargs (separator : CodePoint) := Session.args_ne_nil_of_binding hfit hquote hdash
    (separator :: Token.quote target)
  constructor
  · have hbinding := Alias.readBinding_equals hfit hquote hequals htrim hread
    have hrebinds := h.rebinds hfit hbinding (Alias.trim_binding hfit _) (hargs _)
    rwa [← hline] at hrebinds
  · have hbinding := Alias.readBinding_blank hfit hquote hequals htrim hread ' ' rfl
    have hrebinds := h.rebinds hfit hbinding (Alias.trim_binding hfit _) (hargs _)
    rwa [← hline] at hrebinds

/-- A target with a flag, single quotes, an equals sign, a run of blanks and a line break. -/
def Alias.crowdedTarget : Text := "grep -c  'a = b'\n\tx"

theorem execute_alias_binds_crowded :
    Session.binder.Reachable ∧ Session.binder.Offers "alias" .alias ∧
      Registry.FitAlias "g" Alias.crowdedTarget ∧ Alias.equalsSign ∉ ("g" : Text) ∧
      Token.startsQuoted "g" = false ∧ Argument.isFlagToken "g" = false ∧
      Text.trim Alias.crowdedTarget = Alias.crowdedTarget ∧
      Token.tokenize (Token.quote Alias.crowdedTarget) = [Alias.crowdedTarget] ∧
      Session.binder.Rebinds ("alias " ++ "g" ++ "=" ++ Token.quote Alias.crowdedTarget) "g"
        (some Alias.crowdedTarget) ("alias " ++ Alias.listed "g" Alias.crowdedTarget) ∧
      Session.binder.Rebinds ("alias " ++ "g" ++ " " ++ Token.quote Alias.crowdedTarget) "g"
        (some Alias.crowdedTarget) ("alias " ++ Alias.listed "g" Alias.crowdedTarget) :=
  have hfit : Registry.FitAlias "g" Alias.crowdedTarget :=
    ⟨by decide, by decide, "grep", ["-c", "a = b", "x"], by decide, by decide⟩
  have htrim : Text.trim Alias.crowdedTarget = Alias.crowdedTarget := by decide
  have hread : Token.tokenize (Token.quote Alias.crowdedTarget) = [Alias.crowdedTarget] := by decide
  ⟨Session.reachable_binder, ⟨rfl, rfl⟩, hfit, by decide, rfl, rfl, htrim, hread,
    execute_alias_binds ⟨rfl, rfl⟩ hfit (by decide) rfl rfl htrim hread⟩

/-! ## Lines that take an alias away -/

namespace Alias

/-- Without an argument the usage is told. -/
theorem respondRemove_of_no_args {i : Invocation} (h : i.args = []) (s : Session) :
    respondRemove i s = .say s "Usage: unalias <name>" := by
  unfold respondRemove
  rw [h]

/-- An alias is taken away by its name. -/
theorem respondRemove_of_name {i : Invocation} {name : Text} (h : i.args = [name]) {s : Session}
    (hs : s.registry.aliases.contains name = true) :
    respondRemove i s = .done (s.removeAlias name) ("Alias '" ++ name ++ "' removed") := by
  unfold respondRemove
  rw [h]
  exact if_pos hs

end Alias

namespace Session

open Argument (isFlagToken)

/-- No argument of a call begins with a dash if none of what was typed does. -/
theorem resolve_args_plain {r : Registry} {i : Invocation}
    (h : ∀ a ∈ i.args, isFlagToken a = false) :
    ∀ a ∈ (r.resolve i).args, isFlagToken a = false := by
  unfold Registry.resolve
  split
  · exact h
  · rename_i target ht
    intro a ha
    rcases List.mem_append.1 ha with ha | ha
    · exact (Invocation.spellable_ofLine target).args a ha
    · exact h a ha

/-- Lines keep an alias whose name begins with a dash. -/
theorem kept_dashed {name : Text} (hname : isFlagToken name = true) :
    Kept (fun i => ∀ a ∈ i.args, isFlagToken a = false)
      fun s => name ∈ s.registry.aliases.keys where
  change := by
    intro i s b s' hi hs _ hc
    cases hc with
    | leave | forget | define | delete => exact hs
    | bind _ hb =>
      obtain ⟨-, hv⟩ := bindAlias_value hb
      rw [hv, Registry.setAlias, Table.keys_set]
      split
      · exact hs
      · exact List.mem_append_left _ hs
    | @unbind n hn =>
      have hne : name ≠ n := by
        rintro rfl
        rw [resolve_args_plain hi name hn] at hname
        cases hname
      show name ∈ (s.registry.aliases.erase n).keys
      rw [Table.keys_erase, List.mem_filter]
      exact ⟨hs, bne_iff_ne.2 hne⟩
    | switch hp =>
      obtain ⟨r, ps, hv, ha⟩ := switchPlugin_value hp
      rw [hv]
      show name ∈ r.aliases.keys
      rwa [ha]
  lines _ _ line _ := (Invocation.spellable_ofLine line).args
  enter hs _ := hs
  leave hs _ := hs

theorem contains_execute_of_dashed {name : Text} (hname : isFlagToken name = true) {s : Session}
    (hs : s.registry.aliases.contains name = true) (line : Text) :
    (s.execute line).session.registry.aliases.contains name = true := by
  rw [Table.contains_iff] at hs ⊢
  rw [← s.registry_remember line] at hs
  exact (kept_dashed hname).route (Invocation.spellable_ofLine line).args hs

section Removal

variable {s : Session} (h : s.Offers "unalias" .unalias) {name : Text}
  (hread : Token.tokenize (Token.quote name) = [name])

include hread

/-- The line that spells a name is read as the name alone. -/
theorem tokenize_unalias : Token.tokenize ("unalias " ++ Token.quote name) =
    [("unalias" : Text), name] := by
  have hleads := Token.leads_word_blank "unalias" rfl (Token.quote name)
  have hblank : Token.tokenize (" " ++ Token.quote name) = [name] :=
    (Token.tokenize_allBlank_append rfl _).trans hread
  have htokens := hleads.tokenize_eq
  rwa [hblank] at htokens

include h

/-- The line takes the alias of the name away, unless the name begins with a dash. -/
theorem Offers.rebinds_none (hs : s.registry.aliases.contains name = true)
    (hname : isFlagToken name = false) :
    s.Rebinds ("unalias " ++ Token.quote name) name none ("Alias '" ++ name ++ "' removed") := by
  have hline := Invocation.ofLine_of_tokenize (tokenize_unalias hread)
  have hargs : (Invocation.ofLine ("unalias " ++ Token.quote name)).args = [name] := by
    rw [hline, Argument.read_cons_positional _ hname]
    rfl
  have hkept := s.registry_remember ("unalias " ++ Token.quote name)
  obtain ⟨houtcome, hsession⟩ := h.execute_say (by decide) (by rw [hline])
    (Alias.respondRemove_of_name hargs (by rwa [hkept]))
  refine ⟨houtcome, ?_, fun n hn => ?_, ?_⟩
  · rw [hsession]
    exact (Table.get?_erase _ _ _).trans (if_pos rfl)
  · rw [hsession, ← hkept]
    exact (Table.get?_erase _ _ _).trans (if_neg hn)
  · exact ⟨_, by rw [hsession, ← hkept]; rfl⟩

/-- A name that begins with a dash is read as a flag, so the line has no argument. -/
theorem Offers.execute_dashed (hname : isFlagToken name = true) :
    (s.execute ("unalias " ++ Token.quote name)).outcome =
      .finished (.done "Usage: unalias <name>") := by
  have hline := Invocation.ofLine_of_tokenize (tokenize_unalias hread)
  have hargs : (Invocation.ofLine ("unalias " ++ Token.quote name)).args = [] := by
    rw [hline, Argument.read, if_pos hname]
    rfl
  exact (h.execute_say (by decide) (by rw [hline]) (Alias.respondRemove_of_no_args hargs _)).1

end Removal

end Session

/-- The line that spells the name of an alias takes the alias away just when the name does not begin
with a dash. For one that does, the line tells the usage, and no line whatever takes the alias
away. -/
theorem execute_unalias_iff {s : Session} (h : s.Offers "unalias" .unalias) {name target : Text}
    (ha : s.registry.aliases.get? name = some target)
    (hread : Token.tokenize (Token.quote name) = [name]) :
    (s.Rebinds ("unalias " ++ Token.quote name) name none ("Alias '" ++ name ++ "' removed") ↔
        Argument.isFlagToken name = false) ∧
      (Argument.isFlagToken name = true →
        (s.execute ("unalias " ++ Token.quote name)).outcome =
            .finished (.done "Usage: unalias <name>") ∧
          ∀ line, (s.execute line).session.registry.aliases.contains name = true) := by
  have hs : s.registry.aliases.contains name = true := by
    unfold Table.contains
    rw [ha]
    rfl
  have hstays (hname : Argument.isFlagToken name = true) (line : Text) :=
    Session.contains_execute_of_dashed hname hs line
  refine ⟨⟨fun hgone => ?_, h.rebinds_none hread hs⟩, fun hname =>
    ⟨h.execute_dashed hread hname, hstays hname⟩⟩
  cases hname : Argument.isFlagToken name with
  | false => rfl
  | true =>
    have hthere := hstays hname ("unalias " ++ Token.quote name)
    unfold Table.contains at hthere
    rw [hgone.bound] at hthere
    cases hthere

/-- A session in which a line has bound an alias whose name begins with a dash. -/
def Session.dashed : Session :=
  ((((bare ⟨⟨2026, 10, 19, 12, 34, 56⟩, 0⟩).register
    { name := "alias", body := .alias }).value.register
    { name := "unalias", body := .unalias }).value.execute "alias -ll echo hi").session

theorem Session.reachable_dashed : dashed.Reachable :=
  (((Reachable.bare _).step (.register _)).step (.register _)).step (.execute _)

theorem execute_unalias_iff_dashed :
    Session.dashed.Offers "unalias" .unalias ∧
      Session.dashed.registry.aliases.get? "-ll" = some "echo hi" ∧
      Token.tokenize (Token.quote "-ll") = [("-ll" : Text)] ∧
      (Session.dashed.Rebinds ("unalias " ++ Token.quote "-ll") "-ll" none
          ("Alias '" ++ "-ll" ++ "' removed") ↔ Argument.isFlagToken "-ll" = false) ∧
      (Session.dashed.execute ("unalias " ++ Token.quote "-ll")).outcome =
          .finished (.done "Usage: unalias <name>") ∧
        ∀ line, (Session.dashed.execute line).session.registry.aliases.contains "-ll" = true :=
  have hoffers : Session.dashed.Offers "unalias" .unalias := ⟨by decide +kernel, rfl⟩
  have ha : Session.dashed.registry.aliases.get? "-ll" = some "echo hi" := by decide +kernel
  have hread : Token.tokenize (Token.quote "-ll") = [("-ll" : Text)] := by decide
  have h := execute_unalias_iff hoffers ha hread
  ⟨hoffers, ha, hread, h.1, h.2 rfl⟩

/-- An alias that a line has bound is not taken away by the line that spells its name. -/
theorem execute_unalias_dashed_ne :
    Session.dashed.Reachable ∧ Session.dashed.Offers "unalias" .unalias ∧
      Session.dashed.registry.aliases.contains "-ll" = true ∧
      Token.tokenize (Token.quote "-ll") = [("-ll" : Text)] ∧
      ¬ Session.dashed.Rebinds "unalias -ll" "-ll" none "Alias '-ll' removed" :=
  ⟨Session.reachable_dashed, ⟨by decide +kernel, rfl⟩, by decide +kernel, by decide,
    fun h => absurd h.reported (by decide +kernel)⟩

end CommandShell
