import CommandShell.Proofs.Guard
import CommandShell.Proofs.History

/-!
What the registry always satisfies.

Commands and aliases come into the registry by hand, by typed lines, by plugins and by the settings,
and whole macros may go on in between. Whichever way they come in, an alias has to pass one check
(`aliasFault?_eq_none_iff`), and a command goes under its own name, so a registry that is built is
well formed (`Built.wellFormed`). Nothing takes a command name away (`stable_extends`).

What a stable property says of the session in which an activity starts, it says of all moments of
the activity (`Kept.moment`). So both facts hold at the end of whatever is done to a session and all
the time before it, also if a macro stops on its way; `registry_wellFormed` puts this together.
-/

namespace CommandShell

/-! ## Well-formed registries -/

namespace Registry

/-- An alias that can be called and has something to call: its name is a text without white space,
and its target begins with a command name. -/
structure FitAlias (name target : Text) : Prop where
  name_ne_nil : name ≠ []
  not_blank : ∀ c ∈ name, Text.isBlank c = false
  target_tokens : ∃ first rest, Token.tokenize target = first :: rest ∧ first ≠ []

/-- What a registry always satisfies. -/
structure WellFormed (r : Registry) : Prop where
  aliases : ∀ name target, r.aliases.get? name = some target → FitAlias name target
  /-- Every command is registered under its own name. -/
  named : ∀ name c, r.commands.get? name = some c → c.name = name

/-- The check that aliases are bound under lets through just those that are fit. -/
theorem aliasFault?_eq_none_iff {name target : Text} :
    aliasFault? name target = none ↔ FitAlias name target := by
  have hname : isBadName name = false ↔ name ≠ [] ∧ ∀ c ∈ name, Text.isBlank c = false := by
    simp [isBadName, Text.hasBlank]
  have htarget : (Invocation.ofLine target).command ≠ [] ↔
      ∃ first rest, Token.tokenize target = first :: rest ∧ first ≠ [] := by
    constructor
    · intro h
      exact ⟨_, _, Invocation.tokenize_of_command_ne h, h⟩
    · rintro ⟨first, rest, ht, hne⟩
      rwa [Invocation.ofLine_of_tokenize ht]
  unfold aliasFault?
  constructor
  · intro h
    split at h
    · cases h
    · rename_i hbad
      split at h
      · cases h
      · rename_i hempty
        obtain ⟨hne, hblank⟩ := hname.1 (Bool.eq_false_iff.2 hbad)
        exact ⟨hne, hblank, htarget.1 hempty⟩
  · rintro ⟨hne, hblank, htokens⟩
    rw [hname.2 ⟨hne, hblank⟩, if_neg Bool.false_ne_true, if_neg (htarget.2 htokens)]

/-- Just the aliases that are fit can be bound. -/
theorem exists_bindAlias_iff {r : Registry} {name target : Text} :
    (∃ bound, r.bindAlias name target = .ok bound) ↔ FitAlias name target := by
  rw [← aliasFault?_eq_none_iff]
  constructor
  · rintro ⟨bound, hb⟩
    exact (bindAlias_eq_ok hb).1
  · intro h
    refine ⟨r.setAlias name target, ?_⟩
    unfold bindAlias
    rw [h]

theorem Built.named {r : Registry} (h : r.Built) {name : Text} {c : Command}
    (hc : r.commands.get? name = some c) : c.name = name := by
  induction h with
  | empty => cases hc
  | @register r _ d ih =>
    change (r.commands.set d.name d).get? name = some c at hc
    rw [Table.get?_set] at hc
    split at hc
    · rename_i hname
      rw [hname, Option.some.inj hc]
    · exact ih hc
  | bindAlias _ hb ih =>
    obtain ⟨-, rfl⟩ := bindAlias_eq_ok hb
    exact ih hc
  | removeAlias _ _ ih => exact ih hc

theorem Built.wellFormed {r : Registry} (h : r.Built) : r.WellFormed where
  aliases _ _ ha := aliasFault?_eq_none_iff.1 (h.aliasFault_eq_none ha)
  named _ _ hc := h.named hc

/-- A call of a name, be it an alias or not, stands for a call of a name. -/
theorem WellFormed.resolve_ne_nil {r : Registry} (h : r.WellFormed) {i : Invocation}
    (hi : i.command ≠ []) : (r.resolve i).command ≠ [] := by
  cases ha : r.aliases.get? i.command with
  | none => rwa [resolve_of_not_alias ha]
  | some target =>
    obtain ⟨-, -, first, rest, ht, hne⟩ := h.aliases _ _ ha
    unfold resolve
    rw [ha]
    dsimp only
    rwa [Invocation.ofLine_of_tokenize ht]

/-- All command names of `r` are command names of `r'`. -/
def Extends (r r' : Registry) : Prop := r.commands.keys ⊆ r'.commands.keys

theorem Extends.refl (r : Registry) : r.Extends r := List.Subset.refl _

end Registry

namespace Session

/-- No operation takes a command name away. -/
theorem stable_extends (r : Registry) : Stable fun s => r.Extends s.registry := by
  refine stable_of_registry ?_ ?_ ?_
  · intro r' h c n hn
    show n ∈ (r'.commands.set c.name c).keys
    rw [Table.keys_set]
    split
    · exact h hn
    · exact List.mem_append_left _ (h hn)
  · intro r' name target bound h hb
    obtain ⟨-, rfl⟩ := Registry.bindAlias_eq_ok hb
    exact h
  · exact fun h _ => h

/-! ## All moments of an activity -/

namespace Kept

variable {P : Session → Prop} (h : Kept (fun _ => True) P)

include h

theorem stop {a : Activity} (ha : P a.start) : P a.stop := by
  cases a with
  | route i s => exact h.route trivial ha
  | runMacro name s => exact h.runMacroWith (fun i _ s hs => h.route trivial hs) name ha
  | runOutside b name s => exact h.runOutside b name ha

theorem inside {root a : Activity} {names : List Text} (ha : root.Inside names a)
    (hroot : P root.start) : P a.start := by
  have hroute (i : Invocation) (_ : True) (s : Session) (hs : P s) : P (router i s).session :=
    h.route trivial hs
  induction ha with
  | here => exact hroot
  | @asks names i s c r name _ _ _ answer asked ih =>
    -- A body that asks for a macro leaves the session as it is.
    have hanswers := c.body.answers (s.registry.resolve i) s
    rw [answer] at hanswers
    cases hanswers with
    | reply | change => cases asked
    | run => exact ih
  | line _ started ran _ ih =>
    rw [← ran]
    exact Kept.routeLines (P := P) hroute _ (fun _ _ => trivial) [] (h.enter ih started)
  | lineOutside _ _ ran _ ih =>
    rw [← ran]
    exact Kept.routeLines (P := P) hroute _ (fun _ _ => trivial) [] ih

/-- What every run keeps holds at all moments of an activity. -/
theorem moment {root : Activity} {names : List Text} {t : Session} (ht : root.Moment names t)
    (hroot : P root.start) : P t := by
  cases ht with
  | starts ha => exact h.inside ha hroot
  | enters ha started => exact h.enter (h.inside ha hroot) started
  | stops ha => exact h.stop (h.inside ha hroot)

end Kept

/-! ## The registry of a shell -/

theorem extends_run (s : Session) (a : Action) : s.registry.Extends (a.run s).registry := by
  rcases a.run_eq_or_step s with hs | hs
  · rw [hs]
    exact .refl _
  · exact (stable_extends s.registry).step hs (.refl _)

/-- What it means that the registry is as it should be and stays so, whatever is done next. -/
structure KeepsRegistry (s : Session) : Prop where
  wellFormed : s.registry.WellFormed
  /-- Just the aliases that are fit can be bound. -/
  bound_iff : ∀ name target,
    (∃ bound, s.registry.bindAlias name target = .ok bound) ↔ Registry.FitAlias name target
  /-- No alias stands for a call without a name. -/
  resolve_ne_nil : ∀ i : Invocation, i.command ≠ [] → (s.registry.resolve i).command ≠ []
  /-- No action takes a command name away, whether it goes through, fails or is refused. -/
  extends_run : ∀ a : Action, s.registry.Extends (a.run s).registry
  /-- Nor is a name missing, or anything out of order, at a moment in between. -/
  between : ∀ (root : Activity) (names : List Text) (t : Session),
    root.start.registry = s.registry → root.Moment names t →
      t.registry.WellFormed ∧ s.registry.Extends t.registry

theorem Reachable.keepsRegistry {s : Session} (hs : s.Reachable) : s.KeepsRegistry where
  wellFormed := hs.proper.built.wellFormed
  bound_iff _ _ := Registry.exists_bindAlias_iff
  resolve_ne_nil _ hi := hs.proper.built.wellFormed.resolve_ne_nil hi
  extends_run := s.extends_run
  between root names t hstart ht := by
    have hbuilt : root.start.registry.Built := hstart ▸ hs.proper.built
    have hself : s.registry.Extends root.start.registry := hstart ▸ .refl _
    exact ⟨(stable_built.kept.moment ht hbuilt).wellFormed,
      (stable_extends s.registry).kept.moment ht hself⟩

end Session

/-- The registry of a shell is well formed after any actions, and each action, whatever comes of it,
leaves all command names there were. -/
theorem registry_wellFormed (settings : Settings) (clock : Clock) (actions : List Action) :
    ((Session.ofSettings settings clock).value.runAll actions).KeepsRegistry :=
  ((Session.reachable_ofSettings settings clock).runAll actions).keepsRegistry

end CommandShell
