import CommandShell.Proofs.Registration

/-!
Runs in which the adding of a plugin fails.

A name should stand for what the last operation that succeeded put there, and what fails should
change nothing (`Operation.Lawful`). Adding a plugin under a name that is taken keeps to this, and
so does switching a plugin that is not there. But a plugin comes in before its aliases are looked
at, and an alias whose target is no text makes the add fail after that. So a run is lawful just
when no plugin comes in with such an alias (`registry_lawful_iff`).
-/

namespace CommandShell

namespace Operation

/-- The operation comes to its end without a fault. -/
def Succeeds (s : Session) : Operation → Prop
  | .register _ => True
  | .add p info => (s.addPlugin p info).2 = none
  | .switch name enabled => (s.switchPlugin name enabled).isSome = true

/-- What it means that a run is told by those of its operations that succeeded. -/
structure Lawful (start : Session) (ops : List Operation) : Prop where
  /-- A name is registered just when an operation that succeeded touched it. -/
  registered_iff : ∀ n, (start.after ops).registry.commands.contains n = true ↔
    ∃ before op after, ops = before ++ op :: after ∧ op.Succeeds (start.after before) ∧
      (op.command? before n).isSome = true
  /-- It stands for what the last of these put there. -/
  get?_eq_some_iff : ∀ n c, (start.after ops).registry.commands.get? n = some c ↔
    ∃ before op after, ops = before ++ op :: after ∧ op.Succeeds (start.after before) ∧
      op.command? before n = some c ∧
        ∀ mid later rest, after = mid ++ later :: rest →
          later.Succeeds (start.after (before ++ op :: mid)) →
            later.command? (before ++ op :: mid) n = none
  /-- The plugins that are listed are those whose adding succeeded. -/
  listed_iff : ∀ name, (∃ info ∈ (start.after ops).pluginList, info.name = name) ↔
    ∃ before p info after, ops = before ++ .add p info :: after ∧ info.name = name ∧
      (add p info).Succeeds (start.after before)
  /-- What fails changes nothing. -/
  failed : ∀ before op after, ops = before ++ op :: after → ¬ op.Succeeds (start.after before) →
    run (start.after before) op = start.after before

/-- No plugin of the run comes in with an alias that ends the binding of its aliases. -/
def BindsAll (ops : List Operation) : Prop :=
  ∀ before p info after, ops = before ++ .add p info :: after →
    loaded? before info.name = none → p.misfit? info = none

/-! ## Which operations succeed -/

section Succeeds

variable {clock : Clock} {before : List Operation}

theorem add_succeeds_iff {p : Plugin} {info : PluginInfo} :
    (add p info).Succeeds ((Session.bare clock).after before) ↔
      loaded? before info.name = none ∧ p.misfit? info = none := by
  have hexplains := explains_after clock before
  show (((Session.bare clock).after before).addPlugin p info).2 = none ↔ _
  cases hl : loaded? before info.name with
  | none =>
    rw [(hexplains.added p info hl).1, Option.map_eq_none_iff]
    exact (and_iff_right rfl).symm
  | some q =>
    rw [hexplains.refused p info (by rw [hl]; rfl)]
    exact iff_of_false (Option.some_ne_none _) fun h => Option.some_ne_none q h.1

theorem switch_succeeds_iff {name : Text} {enabled : Bool} :
    (switch name enabled).Succeeds ((Session.bare clock).after before) ↔
      (loaded? before name).isSome = true :=
  (explains_after clock before).switched_iff name enabled

/-- What puts no plugin in its place touches a name only by registering a command. -/
theorem command?_eq_none {op : Operation} (hop : ∀ c, op ≠ .register c)
    (h : op.puts? before = none) (n : Text) : op.command? before n = none := by
  rw [command?, h]
  · rfl
  · exact hop

/-- Where all aliases are bound, an operation that touches a name succeeds. -/
theorem BindsAll.succeeds {ops after : List Operation} {op : Operation} (h : BindsAll ops)
    (hops : ops = before ++ op :: after) {n : Text} (hn : (op.command? before n).isSome = true) :
    op.Succeeds ((Session.bare clock).after before) := by
  cases op with
  | register c => trivial
  | add p info =>
    have hnew : loaded? before info.name = none := by
      by_contra hl
      have hputs : (add p info).puts? before = none := if_pos (Option.isSome_iff_ne_none.2 hl)
      rw [command?_eq_none (fun _ => Operation.noConfusion) hputs] at hn
      cases hn
    exact add_succeeds_iff.2 ⟨hnew, h before p info after hops hnew⟩
  | switch name enabled =>
    apply switch_succeeds_iff.2
    by_contra hl
    have hputs : (switch name enabled).puts? before = none := by
      rw [puts?, Option.not_isSome_iff_eq_none.1 hl]
      rfl
    rw [command?_eq_none (fun _ => Operation.noConfusion) hputs] at hn
    cases hn

/-- Where all aliases are bound, an operation that fails changes nothing. -/
theorem BindsAll.run_eq {ops after : List Operation} {op : Operation} (h : BindsAll ops)
    (hops : ops = before ++ op :: after)
    (hfails : ¬ op.Succeeds ((Session.bare clock).after before)) :
    run ((Session.bare clock).after before) op = (Session.bare clock).after before := by
  cases op with
  | register c => exact absurd trivial hfails
  | add p info =>
    have htaken : (loaded? before info.name).isSome = true := by
      apply Option.isSome_iff_ne_none.2
      intro hnew
      exact hfails (add_succeeds_iff.2 ⟨hnew, h before p info after hops hnew⟩)
    rw [run, (explains_after clock before).refused p info htaken]
  | switch name enabled =>
    have hnone : ((Session.bare clock).after before).switchPlugin name enabled = none :=
      Option.not_isSome_iff_eq_none.1 hfails
    rw [run, hnone]
    rfl

end Succeeds

/-! ## Which plugins are listed -/

theorem adds?_isSome_iff {op : Operation} {name : Text} :
    (op.adds? name).isSome = true ↔ ∃ p info, op = .add p info ∧ info.name = name := by
  constructor
  · intro h
    cases op with
    | register | switch => cases h
    | add p info =>
      obtain ⟨q, hq⟩ := Option.isSome_iff_exists.1 h
      obtain ⟨hname, -⟩ := Option.ite_none_right_eq_some.1 hq
      exact ⟨p, info, rfl, hname⟩
  · rintro ⟨p, info, rfl, hname⟩
    rw [adds?, if_pos hname]
    rfl

/-- There is a plugin of a name just when one was added under it while it was new. -/
theorem loaded?_isSome_iff {ops : List Operation} {name : Text} :
    (loaded? ops name).isSome = true ↔
      ∃ before op after, ops = before ++ op :: after ∧
        (op.adds? name).isSome = true ∧ loaded? before name = none := by
  induction ops using List.reverseRecOn with
  | nil =>
    refine iff_of_false Bool.false_ne_true ?_
    rintro ⟨before, op, after, h, -⟩
    exact absurd h.symm (List.append_ne_nil_of_right_ne_nil _ (List.cons_ne_nil _ _))
  | append_singleton ops op ih =>
    rw [exists_concat_iff, ← ih, loaded?_concat]
    cases hl : loaded? ops name with
    | none => simp
    | some q => simp

theorem Explains.listed_iff {ops : List Operation} {s : Session} (h : Explains ops s)
    (name : Text) :
    (∃ info ∈ s.pluginList, info.name = name) ↔ (loaded? ops name).isSome = true := by
  rw [h.pluginList_eq]
  constructor
  · rintro ⟨info, hmem, rfl⟩
    obtain ⟨name, -, hinfo⟩ := List.mem_filterMap.1 hmem
    obtain ⟨p, hp, rfl⟩ := Option.map_eq_some_iff.1 hinfo
    rw [name_of_loaded? hp, hp]
    rfl
  · intro hsome
    obtain ⟨p, hp⟩ := Option.isSome_iff_exists.1 hsome
    obtain ⟨before, op, after, hops, hadds, -⟩ := loaded?_isSome_iff.1 hsome
    obtain ⟨q, info, rfl, hname⟩ := adds?_isSome_iff.1 hadds
    refine ⟨p.toPluginInfo, List.mem_filterMap.2 ⟨name, ?_, by rw [hp]; rfl⟩, name_of_loaded? hp⟩
    rw [List.mem_eraseDups, hops, ← hname]
    exact List.mem_filterMap.2 ⟨.add q info, by simp, rfl⟩

/-! ## Lawful runs -/

theorem BindsAll.lawful {ops : List Operation} (h : BindsAll ops) (clock : Clock) :
    Lawful (Session.bare clock) ops where
  registered_iff n := by
    rw [(explains_after clock ops).registered_iff n]
    constructor
    · rintro ⟨before, op, after, hops, hn⟩
      exact ⟨before, op, after, hops, h.succeeds hops hn, hn⟩
    · rintro ⟨before, op, after, hops, -, hn⟩
      exact ⟨before, op, after, hops, hn⟩
  get?_eq_some_iff n c := by
    rw [(explains_after clock ops).get?_eq_some_iff n c]
    constructor
    · rintro ⟨before, op, after, hops, hput, hlater⟩
      exact ⟨before, op, after, hops, h.succeeds hops (by rw [hput]; rfl), hput,
        fun mid later rest hafter _ => hlater mid later rest hafter⟩
    · rintro ⟨before, op, after, hops, -, hput, hlater⟩
      refine ⟨before, op, after, hops, hput, fun mid later rest hafter => ?_⟩
      by_contra hn
      -- What touches the name would have succeeded, and so would not touch it.
      have hops' : ops = (before ++ op :: mid) ++ later :: rest := by
        rw [hops, hafter, List.append_assoc, List.cons_append]
      have hsucceeds : later.Succeeds ((Session.bare clock).after (before ++ op :: mid)) :=
        h.succeeds hops' (Option.isSome_iff_ne_none.2 hn)
      exact hn (hlater mid later rest hafter hsucceeds)
  listed_iff name := by
    rw [(explains_after clock ops).listed_iff, loaded?_isSome_iff]
    constructor
    · rintro ⟨before, op, after, hops, hadds, hnew⟩
      obtain ⟨p, info, rfl, rfl⟩ := adds?_isSome_iff.1 hadds
      have hfits := h before p info after hops hnew
      exact ⟨before, p, info, after, hops, rfl, add_succeeds_iff.2 ⟨hnew, hfits⟩⟩
    · rintro ⟨before, p, info, after, hops, rfl, hsucceeds⟩
      have hadds := adds?_isSome_iff.2 ⟨p, info, rfl, rfl⟩
      exact ⟨before, .add p info, after, hops, hadds, (add_succeeds_iff.1 hsucceeds).1⟩
  failed _ _ _ hops hfails := h.run_eq hops hfails

/-- An alias that ends the binding makes the add fail after the plugin has come in. -/
theorem Lawful.bindsAll {clock : Clock} {ops : List Operation}
    (h : Lawful (Session.bare clock) ops) : BindsAll ops := by
  intro before p info after hops hnew
  by_contra hmisfit
  have hfails : ¬ (add p info).Succeeds ((Session.bare clock).after before) :=
    fun hsucceeds => hmisfit (add_succeeds_iff.1 hsucceeds).2
  have hplugins := plugins_after clock before info.name
  rw [hnew] at hplugins
  have hcome := (Session.addPlugin_new_value hplugins (p := p)).1
  have hsame : (((Session.bare clock).after before).addPlugin p info).1.value =
      (Session.bare clock).after before := h.failed before (.add p info) after hops hfails
  rw [hsame] at hcome
  rw [hcome, Table.get?_set, if_pos rfl] at hplugins
  cases hplugins

end Operation

/-- A run of operations on a bare session is told by those that succeeded just when no plugin comes
in with an alias that ends the binding of its aliases, its name being fit and its target no text.
Whatever fails, the run is told by what its operations put in their places; the commands of a plugin
are those that its hook gives; and a stand-in keeps the name and the flags of its command, and its
description but for one addition. -/
theorem registry_lawful_iff (clock : Clock) (ops : List Operation) :
    (Operation.Lawful (Session.bare clock) ops ↔ Operation.BindsAll ops) ∧
      Operation.Explains ops ((Session.bare clock).after ops) ∧
      (∀ (p : Plugin) (info : PluginInfo),
        p.BringsCommands info.name (p.load info).value.commands) ∧
      ∀ (c : Command) (plugin : Text), c.StandsIn plugin (c.placeholder plugin) :=
  ⟨⟨fun h => h.bindsAll, fun h => h.lawful clock⟩, explains_after clock ops,
    Plugin.bringsCommands_load, Command.standsIn_placeholder⟩

/-- The add of a plugin with a command, an alias for it and a target that is no text. -/
def Operation.halfway : Operation :=
  .add
    { commands := .given [.command { name := "ping", body := .external fun _ => .say "pong" }]
      aliases := .given [("p", .text "ping"), ("x", .whole 5)] }
    { name := "net", version := "1", enabled := true }

/-- It fails, and its plugin is listed, its commands are registered and its first alias is bound. -/
theorem registry_halfway_unlawful :
    let s := (Session.bare ⟨⟨2026, 10, 19, 12, 34, 56⟩, 0⟩).after [.halfway]
    ¬ Operation.halfway.Succeeds (Session.bare ⟨⟨2026, 10, 19, 12, 34, 56⟩, 0⟩) ∧
      s.pluginList = [{ name := "net", version := "1", enabled := true }] ∧
      s.registry.names = ["p", "ping"] ∧
      ¬ Operation.Lawful (Session.bare ⟨⟨2026, 10, 19, 12, 34, 56⟩, 0⟩) [.halfway] := by
  have hfails : ¬ Operation.halfway.Succeeds (Session.bare ⟨⟨2026, 10, 19, 12, 34, 56⟩, 0⟩) := by
    intro h
    cases h
  refine ⟨hfails, by decide +kernel, by decide +kernel, fun hlaw => ?_⟩
  have hsame := hlaw.failed [] .halfway [] rfl hfails
  have hlisted := congrArg Session.pluginList hsame
  exact absurd hlisted (by decide +kernel)

end CommandShell
