import CommandShell.Proofs.Adding

/-!
Which command a name stands for.

Commands are registered by hand and by plugins, and a plugin that is added or switched registers
all its commands anew. So the registry of a session is told by the operations that led to it
(`Operation`), without the sessions in between: the plugin of a name is the first that was added
under it, in the state it was last switched to (`Operation.loaded?`), an operation puts a command
under the names that it touches (`Operation.command?`), and a name stands for the command that was
put there last (`Operation.LastPut`).
* `get?_run`, `plugins_run`: one operation, in terms of the operations before it;
* `explains_after`: any run of operations.
-/

namespace CommandShell

/-! ## Operations -/

/-- What is done to a registry and to the plugins that feed it. -/
inductive Operation where
  | register (c : Command)
  | add (p : Plugin) (info : PluginInfo)
  | switch (name : Text) (enabled : Bool)

namespace Operation

/-- The session after an operation. One that is refused leaves the session as it is. -/
def run (s : Session) : Operation → Session
  | .register c => (s.register c).value
  | .add p info => (s.addPlugin p info).1.value
  | .switch name enabled => ((s.switchPlugin name enabled).map (·.value)).getD s

/-- The plugin that an operation adds under a name, if the name is free. It comes in even if its
aliases cannot be bound to the end. -/
def adds? (name : Text) : Operation → Option LoadedPlugin
  | .add p info => if info.name = name then some (p.load info).value else none
  | _ => none

/-- The state that an operation switches the plugin of a name to, if there is one. -/
def switches? (name : Text) : Operation → Option Bool
  | .switch n enabled => if n = name then some enabled else none
  | _ => none

/-- The state that the plugin of a name was last switched to. -/
def lastSwitch? (ops : List Operation) (name : Text) : Option Bool :=
  ops.reverse.findSome? (·.switches? name)

/-- The plugin of a name after some operations: the first that was added under the name, in the
state that it was last switched to since. -/
def loaded? : List Operation → Text → Option LoadedPlugin
  | [], _ => none
  | op :: ops, name =>
    match op.adds? name with
    | some p => some { p with enabled := (lastSwitch? ops name).getD p.enabled }
    | none => loaded? ops name

/-- The plugin that an operation puts in its place, in the state that it then has. `before` is what
was done before the operation: a plugin is added only under a new name, and only a plugin that was
added can be switched. An add may do so and yet end with a fault (`Session.addPlugin_new_eq`). -/
def puts? (before : List Operation) : Operation → Option LoadedPlugin
  | .register _ => none
  | .add p info => if (loaded? before info.name).isSome then none else some (p.load info).value
  | .switch name enabled => (loaded? before name).map fun p => { p with enabled }

/-- The command that an operation puts under a name, if it touches the name. -/
def command? (before : List Operation) (n : Text) : Operation → Option Command
  | .register c => if c.name = n then some c else none
  | op => (op.puts? before).bind (·.command? n)

/-- An operation put the command under the name, and no later one touched it. -/
def LastPut (ops : List Operation) (n : Text) (c : Command) : Prop :=
  ∃ before op after, ops = before ++ op :: after ∧ op.command? before n = some c ∧
    ∀ mid later rest, after = mid ++ later :: rest → later.command? (before ++ op :: mid) n = none

/-- Some operation touched the name. -/
def Touched (ops : List Operation) (n : Text) : Prop :=
  ∃ before op after, ops = before ++ op :: after ∧ (op.command? before n).isSome = true

/-- The name that an operation is to add a plugin under. -/
def addedName? : Operation → Option Text
  | .add _ info => some info.name
  | _ => none

/-! ## One more operation -/

theorem lastSwitch?_concat (ops : List Operation) (op : Operation) (name : Text) :
    lastSwitch? (ops ++ [op]) name = (op.switches? name).or (lastSwitch? ops name) := by
  unfold lastSwitch?
  rw [List.reverse_append, List.findSome?_append]
  exact congrArg (Option.or · _) List.findSome?_singleton

/-- One more operation switches the plugin of a name if there is one, and may add it if not. -/
theorem loaded?_concat (ops : List Operation) (op : Operation) (name : Text) :
    loaded? (ops ++ [op]) name =
      match loaded? ops name with
      | some p => some { p with enabled := (op.switches? name).getD p.enabled }
      | none => op.adds? name := by
  induction ops with
  | nil =>
    show loaded? [op] name = op.adds? name
    unfold loaded?
    cases op.adds? name with
    | none => rfl
    | some p => rfl
  | cons first ops ih =>
    rw [List.cons_append, loaded?, loaded?]
    cases first.adds? name with
    | none => exact ih
    | some p =>
      dsimp only
      rw [lastSwitch?_concat]
      cases op.switches? name <;> rfl

theorem name_of_adds? {op : Operation} {name : Text} {p : LoadedPlugin}
    (h : op.adds? name = some p) : p.name = name := by
  cases op with
  | register | switch => cases h
  | add q info =>
    obtain ⟨hname, hp⟩ := Option.ite_none_right_eq_some.1 h
    rw [← hname, ← Option.some.inj hp, q.load_info]

theorem name_of_loaded? {ops : List Operation} {name : Text} {p : LoadedPlugin}
    (h : loaded? ops name = some p) : p.name = name := by
  induction ops with
  | nil => cases h
  | cons op ops ih =>
    rw [loaded?] at h
    cases ha : op.adds? name with
    | none =>
      rw [ha] at h
      exact ih h
    | some q =>
      rw [ha] at h
      rw [← Option.some.inj h]
      exact name_of_adds? (p := q) ha

/-- After one more operation the plugin of a name is the one that it puts there, or the one that was
there. -/
theorem loaded?_concat_eq (ops : List Operation) (op : Operation) (name : Text) :
    loaded? (ops ++ [op]) name =
      (op.puts? ops).elim (loaded? ops name) fun p =>
        if name = p.name then some p else loaded? ops name := by
  rw [loaded?_concat]
  cases op with
  | register c => cases loaded? ops name <;> rfl
  | add p info =>
    have hname : (p.load info).value.name = info.name := by rw [p.load_info]
    have hswitch : (add p info).switches? name = none := rfl
    rw [puts?, adds?, hswitch]
    by_cases he : info.name = name
    · subst he
      cases loaded? ops info.name with
      | none => simp [hname]
      | some q => simp
    · have he' : name ≠ (p.load info).value.name := fun e => he (by rw [e, hname])
      cases loaded? ops info.name <;> cases loaded? ops name <;> simp [he, he']
  | switch n enabled =>
    have hadd : (switch n enabled).adds? name = none := rfl
    rw [puts?, switches?, hadd]
    by_cases he : n = name
    · subst he
      cases hl : loaded? ops n with
      | none => rfl
      | some p => simp [name_of_loaded? hl]
    · rw [if_neg he]
      cases hn : loaded? ops n with
      | none => cases loaded? ops name <;> rfl
      | some p =>
        have hp : name ≠ p.name := fun e => he (by rw [e, name_of_loaded? hn])
        cases loaded? ops name <;> simp [hp]

section Step

variable {s : Session} {ops : List Operation}
  (h : ∀ name, s.plugins.get? name = loaded? ops name) (op : Operation)

include h

/-- The plugins after one more operation: it puts one in its place, or none. -/
theorem plugins_run :
    (run s op).plugins = (op.puts? ops).elim s.plugins fun p => s.plugins.set p.name p := by
  cases op with
  | register c => rfl
  | add p info =>
    have hname : (p.load info).value.name = info.name := by rw [p.load_info]
    rw [run, puts?]
    cases hl : loaded? ops info.name with
    | none =>
      rw [← h] at hl
      rw [(Session.addPlugin_new_value hl).1, ← hname]
      rfl
    | some q =>
      rw [Session.addPlugin_taken (by rw [h, hl]; rfl)]
      rfl
  | switch n enabled =>
    rw [run, puts?, Session.switchPlugin_eq, h]
    cases loaded? ops n with
    | none => rfl
    | some p => exact s.putPlugin_plugins _

/-- The command under a name after one more operation. -/
theorem get?_run (n : Text) :
    (run s op).registry.commands.get? n = (op.command? ops n).or (s.registry.commands.get? n) := by
  cases op with
  | register c =>
    show (s.registry.commands.set c.name c).get? n = _
    rw [Table.get?_set, command?]
    by_cases he : c.name = n
    · rw [if_pos he, if_pos he.symm]
      rfl
    · rw [if_neg he, if_neg fun e => he e.symm]
      rfl
  | add p info =>
    show (s.addPlugin p info).1.value.registry.commands.get? n =
      (((add p info).puts? ops).bind (·.command? n)).or _
    rw [puts?]
    cases hl : loaded? ops info.name with
    | none =>
      rw [← h] at hl
      exact (Session.addPlugin_new_value hl).2 n
    | some q =>
      rw [Session.addPlugin_taken (by rw [h, hl]; rfl)]
      rfl
  | switch name enabled =>
    show (((s.switchPlugin name enabled).map (·.value)).getD s).registry.commands.get? n =
      (((switch name enabled).puts? ops).bind (·.command? n)).or _
    rw [puts?, Session.switchPlugin_eq, h]
    cases loaded? ops name with
    | none => rfl
    | some p => exact s.get?_putPlugin _ n

/-- A plugin that is added under a new name comes last; every other keeps its place. -/
theorem keys_run (hk : s.plugins.keys = (ops.filterMap addedName?).eraseDups) :
    (run s op).plugins.keys = ((ops ++ [op]).filterMap addedName?).eraseDups := by
  have hmem (name : Text) : name ∈ s.plugins.keys ↔ (loaded? ops name).isSome = true := by
    rw [Table.mem_keys_iff, h]
  rw [plugins_run h, List.filterMap_append]
  cases op with
  | register c =>
    have hnames : [register c].filterMap addedName? = [] := rfl
    rw [hnames, List.append_nil, ← hk]
    rfl
  | add p info =>
    have hname : (p.load info).value.name = info.name := by rw [p.load_info]
    have hin : info.name ∈ ops.filterMap addedName? ↔ info.name ∈ s.plugins.keys := by
      rw [hk]
      exact List.mem_eraseDups.symm
    have hnames : [add p info].filterMap addedName? = [info.name] := rfl
    rw [hnames, List.eraseDups_append, ← hk, puts?]
    by_cases hl : (loaded? ops info.name).isSome = true
    · rw [if_pos hl, List.removeAll, List.filter_cons_of_neg]
      · exact (List.append_nil _).symm
      · simpa using hin.2 ((hmem _).2 hl)
    · rw [if_neg hl, List.removeAll, List.filter_cons_of_pos]
      · show (s.plugins.set _ _).keys = _
        rw [Table.keys_set, hname, if_neg fun hm => hl ((hmem _).1 hm)]
        rfl
      · simpa using fun hm => hl ((hmem _).1 (hin.1 hm))
  | switch n enabled =>
    have hnames : [switch n enabled].filterMap addedName? = [] := rfl
    rw [hnames, List.append_nil, ← hk, puts?]
    cases hl : loaded? ops n with
    | none => rfl
    | some p =>
      show (s.plugins.set p.name _).keys = _
      rw [Table.keys_set, name_of_loaded? hl, if_pos ((hmem n).2 (by rw [hl]; rfl))]

end Step

/-- An operation in a run is the last one, or it is in the run without the last one. -/
theorem split_concat {ops before after : List Operation} {op op' : Operation}
    (h : ops ++ [op] = before ++ op' :: after) :
    (before = ops ∧ op' = op ∧ after = []) ∨
      ∃ after', after = after' ++ [op] ∧ ops = before ++ op' :: after' := by
  rcases List.eq_nil_or_concat' after with rfl | ⟨after', last, rfl⟩
  · obtain ⟨rfl, hlast⟩ := List.append_inj' h rfl
    exact .inl ⟨rfl, (List.cons.inj hlast).1.symm, rfl⟩
  · rw [← List.cons_append, ← List.append_assoc] at h
    obtain ⟨rfl, hlast⟩ := List.append_inj' h rfl
    rw [(List.cons.inj hlast).1]
    exact .inr ⟨after', rfl, rfl⟩

theorem lastPut_concat {ops : List Operation} {op : Operation} {n : Text} {c : Command} :
    LastPut (ops ++ [op]) n c ↔
      op.command? ops n = some c ∨ op.command? ops n = none ∧ LastPut ops n c := by
  constructor
  · rintro ⟨before, op', after, hsplit, hput, hlater⟩
    rcases split_concat hsplit with ⟨rfl, rfl, rfl⟩ | ⟨after', rfl, rfl⟩
    · exact .inl hput
    · refine .inr ⟨hlater after' op [] rfl, before, op', after', rfl, hput, ?_⟩
      rintro mid later rest rfl
      exact hlater mid later (rest ++ [op]) (List.append_assoc _ _ _)
  · rintro (hput | ⟨hnone, before, op', after, rfl, hput, hlater⟩)
    · refine ⟨ops, op, [], rfl, hput, fun mid later rest h => ?_⟩
      exact absurd h.symm (List.append_ne_nil_of_right_ne_nil _ (List.cons_ne_nil _ _))
    · refine ⟨before, op', after ++ [op], List.append_assoc _ _ _, hput, fun mid later rest h => ?_⟩
      rcases split_concat h with ⟨rfl, rfl, rfl⟩ | ⟨rest', rfl, hafter⟩
      · exact hnone
      · exact hlater mid later rest' hafter

/-- What holds of some operation of a run and of those before it, holds of the last one or of one
before the last. -/
theorem exists_concat_iff {P : List Operation → Operation → Prop} {ops : List Operation}
    {op : Operation} :
    (∃ before op' after, ops ++ [op] = before ++ op' :: after ∧ P before op') ↔
      P ops op ∨ ∃ before op' after, ops = before ++ op' :: after ∧ P before op' := by
  constructor
  · rintro ⟨before, op', after, hsplit, h⟩
    rcases split_concat hsplit with ⟨rfl, rfl, rfl⟩ | ⟨after', rfl, rfl⟩
    · exact .inl h
    · exact .inr ⟨before, op', after', rfl, h⟩
  · rintro (h | ⟨before, op', after, rfl, h⟩)
    · exact ⟨ops, op, [], rfl, h⟩
    · exact ⟨before, op', after ++ [op], List.append_assoc _ _ _, h⟩

theorem touched_concat {ops : List Operation} {op : Operation} {n : Text} :
    Touched (ops ++ [op]) n ↔ (op.command? ops n).isSome = true ∨ Touched ops n :=
  exists_concat_iff

end Operation

/-! ## Runs of operations -/

namespace Session

/-- The session after some operations. -/
def after (s : Session) (ops : List Operation) : Session := ops.foldl Operation.run s

theorem after_concat (s : Session) (ops : List Operation) (op : Operation) :
    s.after (ops ++ [op]) = Operation.run (s.after ops) op := List.foldl_concat _ _ _ _

end Session

/-- What `d` has to be to stand in for the command `c` of a disabled plugin. -/
structure Command.StandsIn (c : Command) (plugin : Text) (d : Command) : Prop where
  name_eq : d.name = c.name
  description_eq : d.description = c.description ++ " (disabled)"
  flags_eq : d.flags = c.flags
  /-- All that it does is to say that the plugin is disabled. -/
  performs : ∀ run i s, perform run d.body i s =
    ⟨.reply (.say (c.name ++ ": plugin '" ++ plugin ++ "' is disabled")), s, []⟩

theorem Command.standsIn_placeholder (c : Command) (plugin : Text) :
    c.StandsIn plugin (c.placeholder plugin) :=
  ⟨rfl, rfl, rfl, fun _ _ _ => perform_reply rfl⟩

/-- What a run of operations says about the session that it leads to. -/
structure Operation.Explains (ops : List Operation) (s : Session) : Prop where
  /-- A name is registered just when some operation touched it. -/
  registered_iff : ∀ n, s.registry.commands.contains n = true ↔ Touched ops n
  /-- It stands for what the last operation that touched it put there. -/
  get?_eq_some_iff : ∀ n c, s.registry.commands.get? n = some c ↔ LastPut ops n c
  /-- Under a new name a plugin comes in with its commands. Its aliases are bound up to the first
  whose target is no text, which is the fault then. -/
  added : ∀ p info, loaded? ops info.name = none →
    (s.addPlugin p info).2 = (p.misfit? info).map .targetNotText ∧
      (s.addPlugin p info).1.value =
        ((s.putPlugin (p.load info).value).value.bindOffered info.name (p.fitting info)).1.value
  /-- Under a name that is taken it is an error to add one, and changes nothing. -/
  refused : ∀ p info, (loaded? ops info.name).isSome = true →
    s.addPlugin p info = (⟨s, []⟩, some (.loaded info.name))
  /-- Just the plugins that were added can be switched. -/
  switched_iff : ∀ name enabled,
    (s.switchPlugin name enabled).isSome = true ↔ (loaded? ops name).isSome = true
  /-- The plugins are listed in the order in which they were added, each in its state. -/
  pluginList_eq : s.pluginList = (ops.filterMap addedName?).eraseDups.filterMap fun name =>
    (loaded? ops name).map (·.toPluginInfo)

section After

variable (clock : Clock) (ops : List Operation)

theorem plugins_after (name : Text) :
    ((Session.bare clock).after ops).plugins.get? name = Operation.loaded? ops name := by
  induction ops using List.reverseRecOn generalizing name with
  | nil => rfl
  | append_singleton ops op ih =>
    rw [Session.after_concat, Operation.plugins_run ih, Operation.loaded?_concat_eq]
    cases op.puts? ops with
    | none => exact ih name
    | some p =>
      show (Table.set _ _ _).get? name = _
      rw [Table.get?_set, ih]
      rfl

theorem pluginNames_after :
    ((Session.bare clock).after ops).plugins.keys =
      (ops.filterMap Operation.addedName?).eraseDups := by
  induction ops using List.reverseRecOn with
  | nil => rfl
  | append_singleton ops op ih =>
    rw [Session.after_concat, Operation.keys_run (plugins_after clock ops) op ih]

theorem get?_after_eq_some_iff (n : Text) (c : Command) :
    ((Session.bare clock).after ops).registry.commands.get? n = some c ↔
      Operation.LastPut ops n c := by
  induction ops using List.reverseRecOn with
  | nil =>
    refine iff_of_false (fun h => by cases h) ?_
    rintro ⟨before, op, after, h, -⟩
    exact absurd h.symm (List.append_ne_nil_of_right_ne_nil _ (List.cons_ne_nil _ _))
  | append_singleton ops op ih =>
    rw [Session.after_concat, Operation.get?_run (plugins_after clock ops), Option.or_eq_some_iff,
      ih, Operation.lastPut_concat]

theorem contains_after_iff (n : Text) :
    ((Session.bare clock).after ops).registry.commands.contains n = true ↔
      Operation.Touched ops n := by
  unfold Table.contains
  induction ops using List.reverseRecOn with
  | nil =>
    refine iff_of_false Bool.false_ne_true ?_
    rintro ⟨before, op, after, h, -⟩
    exact absurd h.symm (List.append_ne_nil_of_right_ne_nil _ (List.cons_ne_nil _ _))
  | append_singleton ops op ih =>
    rw [Session.after_concat, Operation.get?_run (plugins_after clock ops), Option.isSome_or,
      Bool.or_eq_true, ih, Operation.touched_concat]

/-- The registry and the plugins of a session that started bare are told by the operations that led
to it. -/
theorem explains_after : Operation.Explains ops ((Session.bare clock).after ops) := by
  have hplugins := plugins_after clock ops
  refine ⟨contains_after_iff clock ops, get?_after_eq_some_iff clock ops, ?_, ?_, ?_, ?_⟩
  · exact fun p info h => Session.addPlugin_new_eq (by rw [hplugins, h])
  · exact fun p info h => Session.addPlugin_taken (by rwa [hplugins])
  · intro name enabled
    unfold Session.switchPlugin
    rw [Option.isSome_map, hplugins]
  · unfold Session.pluginList
    rw [Table.values_eq, pluginNames_after, List.map_filterMap]
    exact List.filterMap_congr fun name _ => by rw [hplugins]

end After

end CommandShell
