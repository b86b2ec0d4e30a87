import CommandShell.FrontEnd
import CommandShell.Proofs.History
import CommandShell.Proofs.Replay

/-!
A batch and a dialogue do the same with the same lines.

A batch looks whether the shell is to end after each line, a dialogue before each line, and a
dialogue also ends when there is nothing more to read. In a shell all bodies are built in
(`builtIn_ofSettings`), so each line comes to a result; and the shell is to end just when a call
that asks for it has started, in whatever macro, and whatever became of the line
(`exiting_execute`). So both hand the session the same lines, those of `Session.untilExit`:
* `BuiltIn.executeAll_untilExit`: a batch is the execution of these lines, one after another;
* `BuiltIn.converse_eq`: a dialogue is the batch, with the farewell if no line asked to end.
`frontEnds_agree` puts this together for the shell of any settings.
-/

namespace CommandShell

/-! ## Shells in which all bodies are built in -/

/-- The body is not from outside. -/
def Body.IsBuiltIn (b : Body) : Prop := b.outside? = none

theorem Body.IsBuiltIn.calm {b : Body} (h : b.IsBuiltIn) : b.Calm := by
  intro answer ho
  rw [show b.outside? = none from h] at ho
  cases ho

/-- All commands that the plugin offers are built in. -/
def Plugin.BuiltIn (p : Plugin) : Prop :=
  ∀ items, p.commands = .given items → ∀ c, .command c ∈ items → c.body.IsBuiltIn

theorem Plugin.BuiltIn.load {p : Plugin} (h : p.BuiltIn) (info : PluginInfo) :
    ∀ c ∈ (p.load info).value.commands, c.body.IsBuiltIn := by
  intro c hc
  unfold Plugin.load at hc
  split at hc
  · cases hc
  · change c ∈ (p.collectCommands info.name).value at hc
    unfold Plugin.collectCommands at hc
    split at hc
    · cases hc
    · cases hc
    · rename_i items hp
      obtain ⟨offered, hmem, ho⟩ := List.mem_filterMap.1 hc
      cases offered with
      | command d =>
        cases ho
        exact h items hp c hmem
      | other literal => cases ho

theorem Plugin.builtIn_of_command {p : Plugin} {c : Command} (h : p.commands = .given [.command c])
    (hc : c.body.IsBuiltIn) : p.BuiltIn := by
  intro items hi d hd
  rw [h] at hi
  cases hi
  rw [Offered.command.inj (List.mem_singleton.1 hd)]
  exact hc

theorem Demo.builtIn_plugins : ∀ entry ∈ Demo.plugins, entry.2.2.BuiltIn := by
  rw [Demo.plugins, List.forall_mem_cons, List.forall_mem_singleton]
  exact ⟨Plugin.builtIn_of_command rfl rfl, Plugin.builtIn_of_command rfl rfl⟩

theorem builtIn_builtinCommands (user : Text) (leaves : Bool) (started : Float) :
    ∀ c ∈ builtinCommands user leaves started ++ [pluginCommand], c.body.IsBuiltIn := by
  simp [builtinCommands, uptimeCommand, pluginCommand, Body.IsBuiltIn, Body.outside?]

namespace Session

variable {s : Session}

/-- All commands of the session, and of its plugins, are built in. -/
abbrev BuiltIn (s : Session) : Prop := s.AllBodies Body.IsBuiltIn

theorem BuiltIn.calm (h : s.BuiltIn) : s.Calm where
  registered name c hc := (h.registered name c hc).calm
  loaded name p hp c hc := (h.loaded name p hp c hc).calm

theorem BuiltIn.outsideReply?_eq (h : s.BuiltIn) (i : Invocation) : s.outsideReply? i = none := by
  unfold outsideReply?
  cases hcalled : s.called? i with
  | none => rfl
  | some c =>
    have hb : c.body.outside? = none := h.registered _ c (called?_eq_some_iff.1 hcalled).2
    rw [Option.bind_some, hb]
    rfl

theorem BuiltIn.register (h : s.BuiltIn) {c : Command} (hc : c.body.IsBuiltIn) :
    (s.register c).value.BuiltIn where
  registered name d hd := by
    have hset : (s.register c).value.registry.commands = s.registry.commands.set c.name c := rfl
    rw [hset, Table.get?_set] at hd
    split at hd
    · cases hd
      exact hc
    · exact h.registered name d hd
  loaded := h.loaded

theorem BuiltIn.addPlugin (h : s.BuiltIn) {p : Plugin} (hp : p.BuiltIn) (info : PluginInfo) :
    (s.addPlugin p info).1.value.BuiltIn := by
  by_cases htaken : (s.plugins.get? info.name).isSome = true
  · rw [addPlugin_taken htaken]
    exact h
  · obtain ⟨hvalue, -⟩ := Prod.mk.inj
      (addPlugin_new (Option.not_isSome_iff_eq_none.1 htaken) (p := p))
    obtain ⟨aliases, haliases⟩ := (s.putPlugin (p.load info).value).value.bindOffered_value
      info.name (p.load info).value.aliases.entries
    have hput := h.putPlugin (fun _ _ => rfl) (hp.load info)
    rw [hvalue, haliases]
    exact ⟨hput.registered, hput.loaded⟩

/-- All commands that a shell starts with are built in. -/
theorem builtIn_ofSettings (settings : Settings) (clock : Clock) :
    (ofSettings settings clock).value.BuiltIn := by
  have hbare : (bare clock).BuiltIn :=
    { registered := fun _ _ hc => by cases hc
      loaded := fun _ _ hp => by cases hp }
  refine ofSettings_induct settings clock hbare ?_ ?_ ?_
  · intro c hc s hs
    exact hs.register (builtIn_builtinCommands _ _ _ c hc)
  · intro entry he s info hs
    exact hs.addPlugin (Demo.builtIn_plugins entry he) info
  · intro s name target bound hb hs
    obtain ⟨-, hv⟩ := bindAlias_value hb
    rw [hv]
    exact ⟨hs.registered, hs.loaded⟩

theorem BuiltIn.execute (h : s.BuiltIn) (line : Text) : (s.execute line).session.BuiltIn :=
  (kept_allBodies fun _ _ => rfl).route trivial (h.remember line)

/-- A line comes to a result if all bodies are built in. -/
theorem BuiltIn.exists_result (h : s.BuiltIn) (line : Text) :
    ∃ r, (s.execute line).outcome = .finished r := by
  have hs : (s.remember line).BuiltIn := h.remember line
  cases ho : (s.execute line).outcome with
  | finished r => exact ⟨r, rfl⟩
  | unshown fault =>
    obtain ⟨reply, hreply, -⟩ := (route_eq_unshown_iff _ _ fault).1 ho
    rw [hs.outsideReply?_eq] at hreply
    cases hreply
  | cancelled => exact absurd ho (routeWithin_ne_cancelled hs.calm _ _)
  | tooDeep => exact absurd ho (route_ne_tooDeep _ _)

end Session

/-! ## Lines up to the first that asks to end -/

theorem foldl_leaving (es : List Event) (x : Bool) :
    es.foldl (fun x e => x || e.isLeaving) x = (x || es.any Event.isLeaving) := by
  induction es generalizing x with
  | nil => exact (Bool.or_false x).symm
  | cons e es ih => rw [List.foldl_cons, ih, List.any_cons, Bool.or_assoc]

namespace Session

/-- After a line the shell is to end if it was before, or if a call on the way asked for it. -/
theorem exiting_execute (s : Session) (line : Text) :
    (s.execute line).session.exiting =
      (s.exiting || (s.execute line).events.any Event.isLeaving) := by
  have hkept : (s.remember line).exiting = s.exiting := by
    unfold remember
    split <;> rfl
  rw [← hkept, ← foldl_leaving]
  exact told_exiting.route (.ofLine line) (s.remember line)

theorem exiting_execute_of_not_exiting {s : Session} (he : s.exiting = false) (line : Text) :
    (s.execute line).session.exiting = (s.execute line).events.any Event.isLeaving := by
  rw [exiting_execute, he, Bool.false_or]

/-- The lines up to the first during which a call asks the shell to end, or all of them if there is
none. -/
def untilExit (s : Session) : List Text → List Text
  | [] => []
  | line :: lines =>
    line :: if (s.execute line).events.any Event.isLeaving then []
      else (s.execute line).session.untilExit lines

theorem untilExit_isPrefix (s : Session) (lines : List Text) : s.untilExit lines <+: lines := by
  induction lines generalizing s with
  | nil => exact List.nil_prefix
  | cons line lines ih =>
    rw [untilExit, List.cons_prefix_cons]
    refine ⟨rfl, ?_⟩
    split
    · exact List.nil_prefix
    · exact ih _

theorem length_executeAll (s : Session) (lines : List Text) :
    (s.executeAll lines).outcome.length = lines.length := by
  induction lines generalizing s with
  | nil => rfl
  | cons line lines ih => exact congrArg (· + 1) (ih _)

/-! ## One line of a batch and of a dialogue -/

section Line

variable {s : Session} {line : Text} {r : Result}

theorem untilExit_cons_leaving (hl : (s.execute line).events.any Event.isLeaving = true)
    (lines : List Text) : s.untilExit (line :: lines) = [line] := by
  rw [untilExit, if_pos hl]

theorem untilExit_cons_staying (hl : (s.execute line).events.any Event.isLeaving = false)
    (lines : List Text) :
    s.untilExit (line :: lines) = line :: (s.execute line).session.untilExit lines := by
  rw [untilExit, hl, if_neg Bool.false_ne_true]

theorem converse_exiting (he : s.exiting = true) (lines : List Text) :
    s.converse lines = { items := [], prompts := 0, unread := lines, session := s } := by
  cases lines <;> rw [converse, if_pos he]

variable (ho : (s.execute line).outcome = .finished r)

include ho

theorem runBatch_cons_leaving (he : (s.execute line).session.exiting = true) (lines : List Text) :
    s.runBatch (line :: lines) = ⟨[r], (s.execute line).session, (s.execute line).events⟩ := by
  rw [runBatch]
  dsimp only
  rw [ho]
  dsimp only
  rw [if_pos he]

theorem runBatch_cons_staying (he : (s.execute line).session.exiting = false) (lines : List Text) :
    s.runBatch (line :: lines) =
      let rest := (s.execute line).session.runBatch lines
      ⟨r :: rest.results, rest.session, (s.execute line).events ++ rest.events⟩ := by
  rw [runBatch]
  dsimp only
  rw [ho]
  dsimp only
  rw [he, if_neg Bool.false_ne_true]

theorem converse_cons (he : s.exiting = false) (lines : List Text) :
    s.converse (line :: lines) =
      let rest := (s.execute line).session.converse lines
      { rest with
        items := .result r :: rest.items
        prompts := rest.prompts + 1
        events := (s.execute line).events ++ rest.events } := by
  rw [converse, he, if_neg Bool.false_ne_true]
  dsimp only
  rw [ho]

end Line

end Session

/-! ## Whole runs -/

/-- What a dialogue prints at its end: the farewell, unless a call has asked the shell to end. -/
def parting (es : List Event) : List Item :=
  if es.any Event.isLeaving then [] else [.note farewell]

theorem parting_leaving {es : List Event} (h : es.any Event.isLeaving = true) : parting es = [] :=
  if_pos h

theorem parting_append {es : List Event} (h : es.any Event.isLeaving = false) (fs : List Event) :
    parting (es ++ fs) = parting fs := by
  unfold parting
  rw [List.any_append, h, Bool.false_or]

theorem farewell_mem_parting_iff {es : List Event} :
    Item.note farewell ∈ parting es ↔ ∀ e ∈ es, e.isLeaving = false := by
  unfold parting
  cases h : es.any Event.isLeaving with
  | true =>
    obtain ⟨e, he, hleaving⟩ := List.any_eq_true.1 h
    rw [if_pos rfl]
    exact ⟨fun hmem => absurd hmem List.not_mem_nil, fun hall => by simp [hall e he] at hleaving⟩
  | false =>
    rw [if_neg Bool.false_ne_true]
    refine ⟨fun _ e he => ?_, fun _ => List.mem_singleton_self _⟩
    simpa using List.any_eq_false.1 h e he

namespace Session

variable {s : Session}

/-- A batch is the execution of the lines up to the first that asks to end. -/
theorem BuiltIn.executeAll_untilExit (hs : s.BuiltIn) (he : s.exiting = false) (lines : List Text) :
    s.executeAll (s.untilExit lines) =
      let b := s.runBatch lines
      ⟨b.results.map .finished, b.session, b.events⟩ := by
  induction lines generalizing s with
  | nil => rfl
  | cons line lines ih =>
    obtain ⟨r, ho⟩ := hs.exists_result line
    have hexit := exiting_execute_of_not_exiting he line
    cases hl : (s.execute line).events.any Event.isLeaving with
    | true =>
      rw [untilExit_cons_leaving hl, runBatch_cons_leaving ho (hexit.trans hl), executeAll, ho]
      dsimp only [executeAll]
      rw [List.append_nil]
      rfl
    | false =>
      rw [untilExit_cons_staying hl, runBatch_cons_staying ho (hexit.trans hl), executeAll, ho,
        ih (hs.execute line) (hexit.trans hl)]
      rfl

/-- A dialogue prints the results of the batch and the farewell, if no line asked to end, and leaves
what the batch leaves. -/
theorem BuiltIn.converse_eq (hs : s.BuiltIn) (he : s.exiting = false) (lines : List Text) :
    s.converse lines =
      let b := s.runBatch lines
      { items := b.results.map .result ++ parting b.events
        prompts := b.results.length + (parting b.events).length
        unread := lines.drop b.results.length
        session := b.session
        events := b.events } := by
  induction lines generalizing s with
  | nil =>
    rw [converse, he, if_neg Bool.false_ne_true]
    rfl
  | cons line lines ih =>
    obtain ⟨r, ho⟩ := hs.exists_result line
    have hexit := exiting_execute_of_not_exiting he line
    rw [converse_cons ho he]
    cases hl : (s.execute line).events.any Event.isLeaving with
    | true =>
      rw [converse_exiting (hexit.trans hl), runBatch_cons_leaving ho (hexit.trans hl)]
      dsimp only
      rw [parting_leaving hl, List.append_nil]
      rfl
    | false =>
      rw [ih (hs.execute line) (hexit.trans hl), runBatch_cons_staying ho (hexit.trans hl)]
      dsimp only
      rw [parting_append hl, List.map_cons, List.cons_append, List.length_cons, List.drop_succ_cons,
        Nat.add_right_comm]

/-- What a batch does not execute comes after the lines that it hands over. -/
theorem BuiltIn.untilExit_append_drop (hs : s.BuiltIn) (he : s.exiting = false)
    (lines : List Text) :
    s.untilExit lines ++ lines.drop (s.runBatch lines).results.length = lines := by
  have hlength : (s.untilExit lines).length = (s.runBatch lines).results.length := by
    rw [← length_executeAll s, hs.executeAll_untilExit he lines]
    exact List.length_map _
  rw [← hlength]
  exact (List.prefix_append_drop (s.untilExit_isPrefix lines)).symm

end Session

/-- A result is an error just when it has a text for it. -/
theorem Batch.failed_iff (b : Batch) : b.failed = true ↔ ∃ r ∈ b.results, r.error? ≠ none := by
  unfold failed
  rw [List.any_eq_true]
  refine exists_congr fun r => and_congr_right fun _ => ?_
  cases r <;> simp [Result.isOk, Result.error?]

/-- What is printed at the beginning and at the end is no result. -/
theorem Dialogue.results_eq {d : Dialogue} {welcome : Text} {results : List Result}
    {es : List Event} (h : d.items = .welcome welcome :: (results.map .result ++ parting es)) :
    d.results = results := by
  unfold Dialogue.results
  rw [h, List.filterMap_cons_none rfl, List.filterMap_append, List.filterMap_map]
  unfold parting
  split
  · rw [List.filterMap_nil, List.append_nil]
    exact List.filterMap_some
  · exact (List.append_nil _).trans List.filterMap_some

/-- What a batch and a dialogue over the same lines have to do with each other. -/
structure Session.FrontEndsAgree (s : Session) (lines : List Text) (b : Batch) (d : Dialogue) :
    Prop where
  /-- The batch executes the lines up to the first that asks to end, and all come to results. -/
  batch : s.executeAll (s.untilExit lines) = ⟨b.results.map .finished, b.session, b.events⟩
  /-- The dialogue reads these lines and no more. -/
  read : s.untilExit lines ++ d.unread = lines
  results : d.results = b.results
  session : d.session = b.session
  events : d.events = b.events
  failed : b.failed = true ↔ ∃ r ∈ b.results, r.error? ≠ none
  /-- The farewell is printed unless a line asked to end. -/
  parting : Item.note farewell ∈ d.items ↔ ∀ e ∈ b.events, e.isLeaving = false

/-- A batch and a dialogue agree wherever all bodies are built in and the shell is not to end
yet. -/
theorem Session.BuiltIn.frontEndsAgree {s : Session} (hs : s.BuiltIn) (he : s.exiting = false)
    (settings : Settings) (lines : List Text) :
    s.FrontEndsAgree lines (s.runBatch lines) (s.runDialogue settings lines) := by
  have hdialogue := hs.converse_eq he lines
  unfold runDialogue
  rw [hdialogue]
  exact {
    batch := hs.executeAll_untilExit he lines
    read := hs.untilExit_append_drop he lines
    results := Dialogue.results_eq rfl
    session := rfl
    events := rfl
    failed := Batch.failed_iff _
    parting := by
      rw [← farewell_mem_parting_iff]
      simp }

/-- On a fresh session of the same settings, a batch and a dialogue hand over the same lines, get
the same results, and leave the same session. -/
theorem frontEnds_agree (settings : Settings) (clock : Clock) (lines : List Text) :
    let s := (Session.ofSettings settings clock).value
    s.FrontEndsAgree lines (s.runBatch lines) (s.runDialogue settings lines) :=
  (Session.builtIn_ofSettings settings clock).frontEndsAgree
    (Session.ofSettings_fresh settings clock).2 settings lines

/-- An exit inside a macro counts, though the macro fails after it. -/
example :
    let s := (Session.ofSettings {} ⟨⟨2026, 10, 19, 12, 34, 56⟩, 0⟩).value
    let lines : List Text := ["macro create bye exit fly", "run bye", "echo late"]
    s.untilExit lines = ["macro create bye exit fly", "run bye"] ∧
      (s.runBatch lines).failed = true ∧ (s.runDialogue {} lines).unread = ["echo late"] := by
  decide +kernel

end CommandShell
