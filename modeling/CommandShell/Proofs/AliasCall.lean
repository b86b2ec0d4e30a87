import CommandShell.Proofs.Reachable
import CommandShell.Proofs.Replay

/-!
A call of an alias and a call of its target.

Both are the same call but for the line that was typed (`Registry.resolve_sameCall`). All bodies
of the shell but one answer by the arguments and flags of a call (`Body.respond_eq_of_sameCall`).
The alias command reads the typed line again, so what the target of the alias says after the
name of the command is lost. `execute_alias_iff` says when that shows: whenever the target brings
words of its own along, unless both readings are refused in the same way.
-/

namespace CommandShell

/-! ## Answers of the alias command -/

namespace Alias

/-- The answer to a call that spells a binding. -/
def answer (binding : Text × Text) (s : Session) : Response :=
  if binding.1.isEmpty || binding.2.isEmpty then .say s usage
  else
    match s.bindAlias binding.1 binding.2 with
    | .error fault => .fail s fault.failure
    | .ok bound => .done bound ("alias " ++ listed binding.1 binding.2)

theorem respond_of_args {i : Invocation} (h : i.args ≠ []) (s : Session) :
    respond i s = answer (readBinding (Token.splitFirst i.line).2) s := by
  unfold respond answer
  refine (if_neg (by simpa using h)).trans ?_
  cases readBinding (Token.splitFirst i.line).2 with
  | mk name target => rfl

/-- Without arguments the aliases are listed, whatever the line says. -/
theorem respond_of_no_args {i j : Invocation} (hi : i.args = []) (hj : j.args = [])
    (s : Session) : respond i s = respond j s := by
  unfold respond
  rw [hi, hj, if_pos List.isEmpty_nil, if_pos List.isEmpty_nil]

/-- What a call comes to if its binding is refused. -/
def refusal? (binding : Text × Text) : Option Result :=
  if binding.1.isEmpty || binding.2.isEmpty then some (.done usage)
  else (Registry.aliasFault? binding.1 binding.2).map fun fault => .failed fault.message

/-- What a call comes to by its binding. -/
def result (binding : Text × Text) : Result :=
  (refusal? binding).getD (.done ("alias " ++ listed binding.1 binding.2))

theorem parts_ne_nil_of_refusal {binding : Text × Text} (h : refusal? binding = none) :
    binding.1 ≠ [] ∧ binding.2 ≠ [] := by
  unfold refusal? at h
  split at h
  · cases h
  · rename_i hempty
    rw [Bool.or_eq_true, List.isEmpty_iff, List.isEmpty_iff, not_or] at hempty
    exact hempty

/-- The answer to a binding comes to its result, and changes nothing if it is refused. -/
theorem answer_eq (binding : Text × Text) (s : Session) :
    ∃ s' es reply, answer binding s = ⟨s', es, .reply reply⟩ ∧
      (∀ name, (settle name (.reply reply)).1 = .finished (result binding)) ∧
      ((refusal? binding).isSome = true → s' = s) := by
  unfold answer result refusal?
  split
  · exact ⟨s, [], _, rfl, fun _ => rfl, fun _ => rfl⟩
  · unfold Session.bindAlias Registry.bindAlias
    cases Registry.aliasFault? binding.1 binding.2 with
    | some fault =>
      have hsettle (name : Text) :
          (settle name (.reply (.failure fault.failure))).1 = .finished (.failed fault.message) :=
        congrArg (Outcome.ofShown .failed) fault.report_failure
      exact ⟨s, [], _, rfl, hsettle, fun _ => rfl⟩
    | none => exact ⟨_, _, _, rfl, fun _ => rfl, fun h => by cases h⟩

/-- A refusal does not read like the report of a new alias. -/
theorem refusal_ne_report {binding : Text × Text} {r : Result} (h : refusal? binding = some r)
    (text : Text) : r ≠ .done ("alias " ++ text) := by
  unfold refusal? at h
  split at h
  · cases h
    intro hr
    cases hr
  · obtain ⟨fault, -, rfl⟩ := Option.map_eq_some_iff.1 h
    exact Result.noConfusion

/-- Bindings whose reports differ come to the same only if both are refused. -/
theorem result_eq_iff {b b' : Text × Text}
    (hreport : refusal? b = none → refusal? b' = none → listed b.1 b.2 ≠ listed b'.1 b'.2) :
    result b = result b' ↔ ∃ r, refusal? b = some r ∧ refusal? b' = some r := by
  unfold result
  constructor
  · intro heq
    cases h : refusal? b with
    | some r =>
      cases h' : refusal? b' with
      | some r' =>
        rw [h, h'] at heq
        exact ⟨r, rfl, congrArg some heq.symm⟩
      | none =>
        rw [h, h'] at heq
        exact absurd heq (refusal_ne_report h _)
    | none =>
      cases h' : refusal? b' with
      | some r' =>
        rw [h, h'] at heq
        exact absurd heq.symm (refusal_ne_report h' _)
      | none =>
        rw [h, h'] at heq
        exact absurd (List.append_cancel_left (Result.done.inj heq)) (hreport h h')
  · rintro ⟨r, h, h'⟩
    rw [h, h']
    rfl

end Alias

/-! ## Bodies and the typed line -/

theorem Invocation.line_of_raw {i : Invocation} {raw : Text} (h : i.raw = raw) (hne : raw ≠ []) :
    i.line = raw := by
  unfold line
  rw [h, if_neg hne]

/-- The body looks at the line that was typed, or may do so. -/
def Body.readsLine : Body → Bool
  | .alias | .external _ => true
  | _ => false

theorem Body.respond_eq_of_sameCall {b : Body} (hb : b.readsLine = false) {i j : Invocation}
    (h : i.SameCall j) (s : Session) : b.respond i s = b.respond j s := by
  rw [h.eq_with_raw]
  match b with
  | .help | .clear | .exit _ | .history | .unalias | .whoami _ | .uptime _ | .date | .time | .echo
  | .macroBook | .runMacro | .plugin | .weather | .crypto | .placeholder _ _ => rfl
  | .alias => cases hb
  | .external _ => cases hb

/-- What it takes for a call of an alias and the call of its target, with the rest of the line put
after it, to do the same. The alias command reads its binding from `rest` in the one call and from
all words after the command name in the other. A body from outside may tell the two lines apart. -/
def Body.SeesThrough (b : Body) (target rest : Text) (i j : Invocation) : Prop :=
  match b with
  | .alias =>
    i.args = [] ∨ (Token.tokenize target).tail = [] ∨
      ∃ r, Alias.refusal? (Alias.readBinding rest) = some r ∧
        Alias.refusal? (Alias.readBinding (Token.splitFirst (target ++ " " ++ rest)).2) = some r
  | .external answer =>
    (settle i.command (.reply (answer i))).1 = (settle j.command (.reply (answer j))).1
  | _ => True

/-- Two runs come to the same, in sessions that are equal but for their histories. -/
def Run.SameEffect (m m' : Run Outcome) : Prop :=
  m.outcome = m'.outcome ∧ m.session.EqButHistory m'.session

/-! ## The words that the target brings -/

section Words

variable {target rest : Text} (hopen : ¬ Token.EndsOpen target)
  (hcommand : (Invocation.ofLine target).command ≠ [])

include hopen hcommand

/-- What the first token of a target leaves, and what it leaves of the target with the rest of the
line put after it. -/
theorem exists_leads_target (rest : Text) :
    ∃ more, Token.tokenize more = (Token.tokenize target).tail ∧
      (Token.EndsOpen more → Token.EndsOpen target) ∧
      (Token.splitFirst (target ++ " " ++ rest)).2 = Text.trim (more ++ " " ++ rest) := by
  obtain ⟨more, hl, hmore⟩ :=
    Token.exists_leads_of_tokenize (Invocation.tokenize_of_command_ne hcommand)
  have hsplit : Token.splitFirst (target ++ (" " ++ rest)) =
      ((Invocation.ofLine target).command, Text.trim (more ++ (" " ++ rest))) :=
    (hl.append_blank hopen (w := ' ') rfl rest).splitFirst_eq
  refine ⟨more, hmore, hl.endsOpen, ?_⟩
  rw [List.append_assoc, hsplit, List.append_assoc]

/-- A target without words of its own leaves the rest of the line to the command. -/
theorem splitFirst_append_of_tail_eq_nil (htail : (Token.tokenize target).tail = [])
    (hrest : Text.trim rest = rest) : (Token.splitFirst (target ++ " " ++ rest)).2 = rest := by
  obtain ⟨more, hmore, -, hsplit⟩ := exists_leads_target hopen hcommand rest
  have hblank : Text.allBlank (more ++ " ") = true :=
    Token.allBlank_append.2 ⟨Token.tokenize_eq_nil_iff.1 (hmore.trans htail), rfl⟩
  rw [hsplit, Token.trim_allBlank_append hblank, hrest]

/-- The words that a target brings come in front of the rest of the line. -/
theorem splitFirst_append_of_tail_ne_nil (htail : (Token.tokenize target).tail ≠ [])
    (hrest : Text.trim rest = rest) (hne : rest ≠ []) :
    ∃ front, Text.allBlank front = false ∧ ¬ Token.EndsOpen front ∧
      (Token.splitFirst (target ++ " " ++ rest)).2 = front ++ " " ++ rest := by
  obtain ⟨more, hmore, hends, hsplit⟩ := exists_leads_target hopen hcommand rest
  rw [← hmore] at htail
  have hblank : Text.allBlank more = false := Token.allBlank_eq_false_iff.2 htail
  refine ⟨Text.trimLeft more, ?_, ?_, ?_⟩
  · rwa [Token.allBlank_eq_false_iff, Token.tokenize_trimLeft]
  · rw [Token.endsOpen_trimLeft]
    exact fun h => hopen (hends h)
  · rw [hsplit, Token.trim_append hrest hne, Token.trimLeft_append hblank]

/-- Two bindings that are not refused are told apart by their reports, if one is the other with the
words of the target in front. -/
theorem report_ne_of_tail_ne_nil (htail : (Token.tokenize target).tail ≠ [])
    (hrest : Text.trim rest = rest)
    (htyped : Alias.refusal? (Alias.readBinding rest) = none)
    (hspelled : Alias.refusal?
      (Alias.readBinding (Token.splitFirst (target ++ " " ++ rest)).2) = none) :
    Alias.listed (Alias.readBinding rest).1 (Alias.readBinding rest).2 ≠
      Alias.listed (Alias.readBinding (Token.splitFirst (target ++ " " ++ rest)).2).1
        (Alias.readBinding (Token.splitFirst (target ++ " " ++ rest)).2).2 := by
  have ht := (Alias.parts_ne_nil_of_refusal htyped).2
  have hne : rest ≠ [] := by
    rintro rfl
    exact ht rfl
  obtain ⟨front, hfront, hends, hsplit⟩ :=
    splitFirst_append_of_tail_ne_nil hopen hcommand htail hrest hne
  rw [hsplit, List.append_assoc] at hspelled ⊢
  obtain ⟨hname, htarget⟩ := Alias.parts_ne_nil_of_refusal hspelled
  exact Alias.listed_ne_of_append (w := ' ') hfront hends rfl hrest ht hname htarget

end Words

/-! ## Two calls, one effect -/

/-- In one session both calls come to the same. -/
def PerformsSame (run : MacroRunner) (b : Body) (i j : Invocation) (s : Session) : Prop :=
  (settle i.command (perform run b i s).outcome).1 =
      (settle j.command (perform run b j s).outcome).1 ∧
    (perform run b i s).session.EqButHistory (perform run b j s).session

theorem performsSame_of_respond_eq {run : MacroRunner} {b : Body} {i j : Invocation} {s : Session}
    (hij : i.SameCall j) (h : b.respond i s = b.respond j s) : PerformsSame run b i j s := by
  have hp : perform run b i s = perform run b j s := by
    unfold perform
    rw [h]
  unfold PerformsSame
  rw [hp, hij.1]
  exact ⟨rfl, .refl _⟩

section Calls

variable (run : MacroRunner) {target rest : Text} (hopen : ¬ Token.EndsOpen target)
  (hcommand : (Invocation.ofLine target).command ≠ []) (hrest : Text.trim rest = rest)
  {i j : Invocation} (hij : i.SameCall j) (hi : (Token.splitFirst i.line).2 = rest)
  (hj : j.line = target ++ " " ++ rest) (s : Session)

include hopen hcommand hrest hij hi hj

/-- The alias command performs the same for both calls just when it sees through the alias. -/
theorem performsSame_alias_iff :
    PerformsSame run .alias i j s ↔ Body.SeesThrough .alias target rest i j := by
  unfold Body.SeesThrough
  by_cases hargs : i.args = []
  · have hargs' : j.args = [] := by rw [← hij.2.1, hargs]
    exact iff_of_true
      (performsSame_of_respond_eq hij (Alias.respond_of_no_args hargs hargs' s)) (.inl hargs)
  have hrespond := Alias.respond_of_args hargs s
  have hrespond' := Alias.respond_of_args (i := j) (by rwa [← hij.2.1]) s
  rw [hi] at hrespond
  rw [hj] at hrespond'
  by_cases htail : (Token.tokenize target).tail = []
  · refine iff_of_true (performsSame_of_respond_eq hij ?_) (.inr (.inl htail))
    show Alias.respond i s = Alias.respond j s
    rw [hrespond, hrespond', splitFirst_append_of_tail_eq_nil hopen hcommand htail hrest]
  have hresult := Alias.result_eq_iff (report_ne_of_tail_ne_nil hopen hcommand htail hrest)
  obtain ⟨s', es, reply, ha, hsettle, hrefused⟩ := Alias.answer_eq (Alias.readBinding rest) s
  obtain ⟨t', fs, reply', ha', hsettle', hrefused'⟩ := Alias.answer_eq
    (Alias.readBinding (Token.splitFirst (target ++ " " ++ rest)).2) s
  unfold PerformsSame
  rw [perform_reply (b := .alias) (hrespond.trans ha),
    perform_reply (b := .alias) (hrespond'.trans ha')]
  dsimp only
  rw [hsettle, hsettle', Outcome.finished.injEq, hresult]
  constructor
  · rintro ⟨hr, -⟩
    exact .inr (.inr hr)
  · intro h
    obtain ⟨r, hr, hr'⟩ := (h.resolve_left hargs).resolve_left htail
    rw [hrefused (by rw [hr]; rfl), hrefused' (by rw [hr']; rfl)]
    exact ⟨⟨r, hr, hr'⟩, .refl s⟩

/-- A body performs the same for both calls just when it sees through the alias. -/
theorem performsSame_iff (b : Body) :
    PerformsSame run b i j s ↔ b.SeesThrough target rest i j := by
  cases hb : b.readsLine
  · have hsame : PerformsSame run b i j s :=
      performsSame_of_respond_eq hij (Body.respond_eq_of_sameCall hb hij s)
    refine iff_of_true hsame ?_
    unfold Body.SeesThrough
    split
    · cases hb
    · cases hb
    · trivial
  · match b with
    | .alias => exact performsSame_alias_iff run hopen hcommand hrest hij hi hj s
    | .external answer =>
      unfold PerformsSame
      rw [perform_reply (b := .external answer) rfl, perform_reply (b := .external answer) rfl]
      exact and_iff_left (Session.EqButHistory.refl s)

end Calls

/-! ## Executing both lines -/

theorem Session.execute_call {s : Session} {line : Text} {c : Command}
    (hline : (Invocation.ofLine line).command ≠ [])
    (hc : s.registry.commands.get? (s.registry.resolve (.ofLine line)).command = some c) :
    s.execute line = .ofCall c (s.registry.resolve (.ofLine line)) s.clock.measures
      (perform (runMacroWith Session.router) c.body (s.registry.resolve (.ofLine line))
        (s.remember line)) := by
  have hkept : (s.remember line).registry = s.registry ∧ (s.remember line).clock = s.clock := by
    obtain ⟨history, running, h⟩ := s.agrees_remember line
    rw [h]
    exact ⟨rfl, rfl⟩
  unfold Session.execute
  rw [route_unfolds, routeWith_call hline (c := c) (by rw [hkept.1, hc]), hkept.1, hkept.2]

/-- One call in two sessions that differ in their histories, unless the history is listed. -/
theorem Session.perform_remember {s : Session} {b : Body} {i : Invocation} (line line' : Text)
    (hlist : b.isHistory = true → i.hasFlag "c" = true)
    (hquiet : Quiet (perform (runMacroWith router) b i (s.remember line)).events) :
    (perform (runMacroWith router) b i (s.remember line)).outcome =
        (perform (runMacroWith router) b i (s.remember line')).outcome ∧
      (perform (runMacroWith router) b i (s.remember line)).session.EqButHistory
        (perform (runMacroWith router) b i (s.remember line')).session := by
  have hrunning : (s.remember line').macros.running = (s.remember line).macros.running := by
    rw [running_remember, running_remember]
  have hm := (matched_router.runMacroWith running_router).perform (q := True)
    ⟨(s.agrees_remember line).symm.trans (s.agrees_remember line'), .inl hrunning⟩
    (fun _ => hlist) fun _ => hquiet
  refine ⟨hm.outcome.eq trivial, hm.session.eqButHistory ?_⟩
  have hkept := running_perform (running_runMacroWith running_router) b i
  rw [hkept, hkept, hrunning]

/-- Executing a line that calls an alias, and executing the target of the alias with the rest of the
line put after it. Where the target is not open at its end, its command is no alias, no flag at its
end would take the first typed token, and the history is not listed, both come to the same result
and the same session, the history apart, just when the command sees through the alias. -/
theorem execute_alias_iff {s : Session} (hs : s.Reachable) {name target line rest : Text}
    (ha : s.registry.aliases.get? name = some target) (hopen : ¬ Token.EndsOpen target)
    {c : Command} (hc : s.registry.commands.get? (Invocation.ofLine target).command = some c)
    (hnot : s.registry.aliases.get? (Invocation.ofLine target).command = none)
    (hl : Token.splitFirst line = (name, rest))
    (habs : ¬ Argument.Absorbs (Token.tokenize target).tail (Token.tokenize rest))
    (hquiet : Quiet (s.execute line).events) :
    (s.execute line).SameEffect (s.execute (target ++ " " ++ rest)) ↔
      c.body.SeesThrough target rest (s.registry.resolve (.ofLine line))
        (.ofLine (target ++ " " ++ rest)) := by
  have hbuilt := hs.proper.built
  obtain ⟨hname, hcommand⟩ := Registry.aliasFault_eq_none (hbuilt.aliasFault_eq_none ha)
  have hij := Registry.resolve_sameCall hbuilt ha hopen hl habs
  have hresolve := Registry.resolve_ofLine hbuilt ha hl
  have hspelled := Registry.ofLine_target_append hbuilt ha hopen rest
  have htyped : (Invocation.ofLine line).command ≠ [] := by
    rw [Invocation.ofLine_of_tokenize (Invocation.tokenize_of_splitFirst hl hname)]
    exact hname
  have hj : s.registry.resolve (.ofLine (target ++ " " ++ rest)) =
      .ofLine (target ++ " " ++ rest) :=
    Registry.resolve_of_not_alias (by rw [hspelled, hnot])
  have hi : (Token.splitFirst (s.registry.resolve (.ofLine line)).line).2 = rest := by
    have hne : line ≠ [] := by
      rintro rfl
      exact hname (Prod.mk.inj hl).1.symm
    have hraw : (s.registry.resolve (.ofLine line)).raw = line := by rw [hresolve]
    rw [Invocation.line_of_raw hraw hne, hl]
  have hraw : (Invocation.ofLine (target ++ " " ++ rest)).line = target ++ " " ++ rest := by
    refine Invocation.line_of_raw (by rw [hspelled]) fun hnil => ?_
    have hblank := (List.append_eq_nil_iff.1 (List.append_eq_nil_iff.1 hnil).1).2
    cases hblank
  have hrest : Text.trim rest = rest := by
    have htrim := Token.trim_splitFirst line
    rwa [hl] at htrim
  rw [Session.execute_call htyped (c := c) (by rw [hresolve, hc])] at hquiet ⊢
  rw [Session.execute_call (c := c) (by rw [hspelled]; exact hcommand)
    (by rw [hj, hspelled, hc]), hj]
  obtain ⟨hlist, hbody⟩ := quiet_ofCall hquiet
  -- First the session changes, then the call.
  obtain ⟨houtcome, hsession⟩ :=
    Session.perform_remember line (target ++ " " ++ rest) hlist hbody
  rw [← performsSame_iff (runMacroWith Session.router) hopen hcommand hrest hij hi hraw
    (s.remember (target ++ " " ++ rest)) c.body]
  show (settle _ _).1 = (settle _ _).1 ∧ _ ↔ _
  rw [houtcome]
  exact and_congr_right fun _ => ⟨hsession.symm.trans, hsession.trans⟩

/-- A session in which `bind` stands for `alias greet`. -/
def Session.binder : Session where
  registry :=
    { commands := Table.ofList [("alias", { name := "alias", body := .alias })]
      aliases := Table.ofList [("bind", "alias greet")] }
  clock := ⟨⟨2026, 10, 19, 12, 34, 56⟩, 0⟩

theorem Session.reachable_binder : binder.Reachable :=
  have hbind : ((bare binder.clock).register { name := "alias", body := .alias }).value.bindAlias
      "bind" "alias greet" = .ok ⟨binder, [.aliasBound "bind" "alias greet"]⟩ := rfl
  ((Reachable.bare binder.clock).step (.register _)).step (.bindAlias hbind)

theorem execute_alias_iff_bind :
    Session.binder.Reachable ∧
      Session.binder.registry.aliases.get? "bind" = some "alias greet" ∧
      ¬ Token.EndsOpen "alias greet" ∧
      Session.binder.registry.commands.get? (Invocation.ofLine "alias greet").command =
        some { name := "alias", body := .alias } ∧
      Session.binder.registry.aliases.get? (Invocation.ofLine "alias greet").command = none ∧
      Token.splitFirst "bind echo hi" = (("bind" : Text), ("echo hi" : Text)) ∧
      ¬ Argument.Absorbs (Token.tokenize "alias greet").tail (Token.tokenize "echo hi") ∧
      Quiet (Session.binder.execute "bind echo hi").events ∧
      ((Session.binder.execute "bind echo hi").SameEffect
          (Session.binder.execute ("alias greet" ++ " " ++ "echo hi")) ↔
        Body.SeesThrough .alias "alias greet" "echo hi"
          (Session.binder.registry.resolve (.ofLine "bind echo hi"))
          (.ofLine ("alias greet" ++ " " ++ "echo hi"))) :=
  have hl : Token.splitFirst "bind echo hi" = (("bind" : Text), ("echo hi" : Text)) := by decide
  have habs :
      ¬ Argument.Absorbs (Token.tokenize "alias greet").tail (Token.tokenize "echo hi") := by
    decide
  have hquiet : Quiet (Session.binder.execute "bind echo hi").events := by decide +kernel
  ⟨Session.reachable_binder, rfl, by decide, rfl, rfl, hl, habs, hquiet,
    execute_alias_iff Session.reachable_binder rfl (by decide) rfl rfl hl habs hquiet⟩

/-- The call of the alias binds `echo`, and the call of its target binds `greet`. -/
theorem execute_bind_ne :
    ¬ (Session.binder.execute "bind echo hi").SameEffect
      (Session.binder.execute "alias greet echo hi") :=
  fun h => absurd h.1 (by decide +kernel)

end CommandShell
