import CommandShell.Invocation
import Mathlib.Data.List.Forall2

/-!
What each token after a command name is read as.

The reader goes through the tokens with a stride of one or two, and a flag that is given again
overwrites what was read before (`Argument.read`, `Argument.flags`). Yet what becomes of a token
depends on itself and its neighbours alone: `Argument.at?` tells it from the place of the token.
* `read_eq`: the arguments that are read are those at the places, in order;
* `exists_spelling`: every token is used once, alone or with the one after it;
* `lookup_reverse_filterMap_range`: of all pairs with a name, the one at the last place counts.
`read_byPlace` puts them together.
-/

namespace CommandShell

namespace Argument

/-! ## Places -/

/-- The token at the place comes right after one that begins with a dash. -/
def followsFlag (ts : List Text) : Nat → Bool
  | 0 => false
  | n + 1 => ts[n]?.any isFlagToken

/-- The positional argument at a place: a token without a dash in front that does not come right
after one with a dash. -/
def positionalAt? (ts : List Text) (n : Nat) : Option Text :=
  ts[n]?.filter fun t => !isFlagToken t && !followsFlag ts n

/-- The value that a flag at a place has: the next token, if there is one and it does not begin with
a dash. -/
def valueAt (ts : List Text) (n : Nat) : FlagValue :=
  match ts[n + 1]?.filter (!isFlagToken ·) with
  | some v => .text v
  | none => .switch true

/-- The flag at a place. -/
def flagAt? (ts : List Text) (n : Nat) : Option (Text × FlagValue) :=
  (ts[n]?.filter isFlagToken).map fun t => (flagName t, valueAt ts n)

/-- The argument that begins at a place. -/
def at? (ts : List Text) (n : Nat) : Option Argument :=
  match flagAt? ts n with
  | some (name, value) => some (.flag name value)
  | none => (positionalAt? ts n).map .positional

/-- A flag of the name is at the place. -/
def NamedAt (ts : List Text) (name : Text) (n : Nat) : Prop :=
  ∃ t, ts[n]? = some t ∧ isFlagToken t = true ∧ flagName t = name

/-- A flag of the name is at the place, and none is at a later one. -/
def LastNamedAt (ts : List Text) (name : Text) (n : Nat) : Prop :=
  NamedAt ts name n ∧ ∀ m, n < m → ¬ NamedAt ts name m

theorem flagAt?_eq_some_iff {ts : List Text} {n : Nat} {name : Text} {value : FlagValue} :
    flagAt? ts n = some (name, value) ↔ NamedAt ts name n ∧ value = valueAt ts n := by
  unfold flagAt? NamedAt
  simp only [Option.map_eq_some_iff, Option.filter_eq_some_iff, Prod.mk.injEq]
  constructor
  · rintro ⟨t, ⟨ht, hf⟩, hname, rfl⟩
    exact ⟨⟨t, ht, hf, hname⟩, rfl⟩
  · rintro ⟨⟨t, ht, hf, hname⟩, rfl⟩
    exact ⟨t, ⟨ht, hf⟩, hname, rfl⟩

/-- A token is not both a flag and a positional argument. -/
theorem positionalAt?_of_flagAt? {ts : List Text} {n : Nat} {flag : Text × FlagValue}
    (h : flagAt? ts n = some flag) : positionalAt? ts n = none := by
  obtain ⟨⟨t, ht, hf, -⟩, -⟩ := flagAt?_eq_some_iff.1 h
  unfold positionalAt?
  simp [ht, hf]

theorem positional?_at? (ts : List Text) (n : Nat) :
    (at? ts n).bind positional? = positionalAt? ts n := by
  unfold at?
  cases hf : flagAt? ts n with
  | none => cases positionalAt? ts n <;> rfl
  | some flag => exact (positionalAt?_of_flagAt? hf).symm

theorem flag?_at? (ts : List Text) (n : Nat) : (at? ts n).bind flag? = flagAt? ts n := by
  unfold at?
  cases flagAt? ts n with
  | none => cases positionalAt? ts n <;> rfl
  | some flag => rfl

/-! ## The reader -/

section Front

variable {t : Text}

theorem at?_zero_of_positional (h : isFlagToken t = false) (ts : List Text) :
    at? (t :: ts) 0 = some (.positional t) := by
  simp [at?, flagAt?, positionalAt?, followsFlag, Option.filter, h]

theorem at?_zero_of_flag (h : isFlagToken t = true) (ts : List Text) :
    at? (t :: ts) 0 = some (.flag (flagName t) (valueAt (t :: ts) 0)) := by
  simp [at?, flagAt?, Option.filter, h]

theorem valueAt_zero_cons (v : Text) (ts : List Text) :
    valueAt (t :: v :: ts) 0 = if isFlagToken v then .switch true else .text v := by
  cases h : isFlagToken v <;> simp [valueAt, Option.filter, h]

/-- The value of a flag is no argument of its own. -/
theorem at?_one_of_value {v : Text} (ht : isFlagToken t = true) (hv : isFlagToken v = false)
    (ts : List Text) : at? (t :: v :: ts) 1 = none := by
  simp [at?, flagAt?, positionalAt?, followsFlag, Option.filter, ht, hv]

/-- One more token in front changes nothing for the places after it, unless it is a flag that takes
the next token as its value. -/
theorem at?_cons_succ {ts : List Text}
    (h : isFlagToken t = false ∨ ∀ v ∈ ts.head?, isFlagToken v = true) (n : Nat) :
    at? (t :: ts) (n + 1) = at? ts n := by
  have hflag : flagAt? (t :: ts) (n + 1) = flagAt? ts n := rfl
  have hpositional : positionalAt? (t :: ts) (n + 1) = positionalAt? ts n := by
    cases n with
    | succ n => rfl
    | zero =>
      rcases h with h | h
      · simp [positionalAt?, followsFlag, h]
      · cases ts with
        | nil => rfl
        | cons v ts => simp [positionalAt?, followsFlag, Option.filter, h v rfl]
  unfold at?
  rw [hflag, hpositional]

theorem filterMap_range_cons (ts : List Text) (f : Nat → Option Argument) :
    (List.range (t :: ts).length).filterMap f =
      (f 0).toList ++ (List.range ts.length).filterMap fun n => f (n + 1) := by
  rw [List.length_cons, List.range_succ_eq_map, List.filterMap_cons, List.filterMap_map]
  cases f 0 <;> rfl

end Front

/-- The arguments that are read are those at the places, in order. -/
theorem read_eq (ts : List Text) : read ts = (List.range ts.length).filterMap (at? ts) := by
  fun_induction read ts with
  | case1 => rfl
  | case2 t ht =>
    rw [filterMap_range_cons, at?_zero_of_flag ht]
    rfl
  | case3 t ht =>
    rw [filterMap_range_cons, at?_zero_of_positional (by simpa using ht)]
    rfl
  | case4 t v ts ht hv ih =>
    have hrest (n : Nat) : at? (t :: v :: ts) (n + 1) = at? (v :: ts) n :=
      at?_cons_succ (.inr fun u hu => by cases hu; exact hv) n
    rw [filterMap_range_cons, at?_zero_of_flag ht, valueAt_zero_cons, if_pos hv, ih]
    simp only [hrest]
    rfl
  | case5 t v ts ht hv ih =>
    have hv' : isFlagToken v = false := by simpa using hv
    have hrest (n : Nat) : at? (t :: v :: ts) (n + 1 + 1) = at? ts n :=
      at?_cons_succ (t := v) (.inl hv') n
    rw [filterMap_range_cons, filterMap_range_cons, at?_zero_of_flag ht, valueAt_zero_cons,
      if_neg hv, at?_one_of_value ht hv', ih]
    simp only [hrest]
    rfl
  | case6 t v ts ht ih =>
    have ht' : isFlagToken t = false := by simpa using ht
    have hrest (n : Nat) : at? (t :: v :: ts) (n + 1) = at? (v :: ts) n :=
      at?_cons_succ (.inl ht') n
    rw [filterMap_range_cons, at?_zero_of_positional ht', ih]
    simp only [hrest]
    rfl

theorem positionals_read (ts : List Text) :
    positionals (read ts) = (List.range ts.length).filterMap (positionalAt? ts) := by
  unfold positionals
  rw [read_eq, List.filterMap_filterMap]
  exact List.filterMap_congr fun n _ => positional?_at? ts n

theorem flags_read (ts : List Text) :
    (read ts).filterMap flag? = (List.range ts.length).filterMap (flagAt? ts) := by
  rw [read_eq, List.filterMap_filterMap]
  exact List.filterMap_congr fun n _ => flag?_at? ts n

/-! ## Every token is used once -/

/-- The tokens that spell an argument. -/
inductive Spells : Argument → List Text → Prop
  | positional {t : Text} (ht : isFlagToken t = false) : Spells (.positional t) [t]
  | switch {f : Text} (hf : isFlagToken f = true) :
      Spells (.flag (flagName f) (.switch true)) [f]
  | valued {f v : Text} (hf : isFlagToken f = true) (hv : isFlagToken v = false) :
      Spells (.flag (flagName f) (.text v)) [f, v]

/-- The tokens fall into groups, one after the other, and each group spells one argument. -/
theorem exists_spelling (ts : List Text) :
    ∃ groups : List (List Text), groups.flatten = ts ∧ List.Forall₂ Spells (read ts) groups := by
  fun_induction read ts with
  | case1 => exact ⟨[], rfl, .nil⟩
  | case2 t ht => exact ⟨[[t]], rfl, .cons (.switch ht) .nil⟩
  | case3 t ht => exact ⟨[[t]], rfl, .cons (.positional (by simpa using ht)) .nil⟩
  | case4 t v ts ht hv ih =>
    obtain ⟨groups, hgroups, hspells⟩ := ih
    exact ⟨[t] :: groups, congrArg (t :: ·) hgroups, .cons (.switch ht) hspells⟩
  | case5 t v ts ht hv ih =>
    obtain ⟨groups, hgroups, hspells⟩ := ih
    exact ⟨[t, v] :: groups, congrArg ([t, v] ++ ·) hgroups,
      .cons (.valued ht (by simpa using hv)) hspells⟩
  | case6 t v ts ht ih =>
    obtain ⟨groups, hgroups, hspells⟩ := ih
    exact ⟨[t] :: groups, congrArg (t :: ·) hgroups,
      .cons (.positional (by simpa using ht)) hspells⟩

/-- An argument that is read is spelled by tokens that are there. -/
theorem exists_spells_of_mem_read {ts : List Text} {a : Argument} (h : a ∈ read ts) :
    ∃ group, Spells a group ∧ ∀ t ∈ group, t ∈ ts := by
  obtain ⟨groups, rfl, hspells⟩ := exists_spelling ts
  generalize read groups.flatten = as at h hspells
  induction hspells with
  | nil => cases h
  | cons hab hrest ih =>
    rcases List.mem_cons.1 h with rfl | h
    · exact ⟨_, hab, fun t ht => List.mem_append_left _ ht⟩
    · obtain ⟨group, hgroup, hmem⟩ := ih h
      exact ⟨group, hgroup, fun t ht => List.mem_append_right _ (hmem t ht)⟩

/-! ## The names and the values of flags -/

/-- The flags that are read have the names of the tokens with a dash in front. -/
theorem names_read (ts : List Text) :
    ((read ts).filterMap flag?).map Prod.fst = (ts.filter isFlagToken).map flagName := by
  fun_induction read ts with
  | case1 => rfl
  | case2 t ht => simp [flag?, ht]
  | case3 t ht => simp [flag?, ht]
  | case4 t v ts ht hv ih =>
    rw [List.filter_cons_of_pos ht, List.map_cons, ← ih]
    rfl
  | case5 t v ts ht hv ih =>
    rw [List.filter_cons_of_pos ht, List.filter_cons_of_neg hv, List.map_cons, ← ih]
    rfl
  | case6 t v ts ht ih =>
    rw [List.filter_cons_of_neg ht, ← ih]
    rfl

/-- Of all pairs with a name the last one is found from the end. -/
theorem lookup_reverse_filterMap_range {α : Type} {f : Nat → Option (Text × α)} {len : Nat}
    {k : Text} {v : α} :
    ((List.range len).filterMap f).reverse.lookup k = some v ↔
      ∃ n < len, f n = some (k, v) ∧ ∀ m < len, n < m → ∀ w, f m ≠ some (k, w) := by
  induction len with
  | zero => simp
  | succ len ih =>
    have hlast : ((List.range (len + 1)).filterMap f).reverse =
        (f len).toList ++ ((List.range len).filterMap f).reverse := by
      rw [List.range_succ, List.filterMap_append, List.reverse_append]
      cases h : f len <;> simp [h]
    rw [hlast]
    by_cases hk : ∃ w, f len = some (k, w)
    · -- The last place has the name, so it is the one.
      obtain ⟨w, hw⟩ := hk
      rw [hw, Option.toList_some, List.singleton_append, List.lookup_cons_self]
      constructor
      · intro h
        cases h
        exact ⟨len, Nat.lt_succ_self len, hw, fun m hm hlt => by omega⟩
      · rintro ⟨n, hn, hfn, hlater⟩
        have hn' : n = len := by
          by_contra hne
          exact hlater len (Nat.lt_succ_self len) (by omega) w hw
        rw [hn', hw] at hfn
        cases hfn
        rfl
    · have hskip : ((f len).toList ++ ((List.range len).filterMap f).reverse).lookup k =
          ((List.range len).filterMap f).reverse.lookup k := by
        cases hf : f len with
        | none => rfl
        | some e =>
          obtain ⟨j, w⟩ := e
          have hj : (k == j) = false := beq_false_of_ne fun he => hk ⟨w, by rw [hf, he]⟩
          rw [Option.toList_some, List.singleton_append, List.lookup_cons, hj]
      rw [hskip, ih]
      constructor
      · rintro ⟨n, hn, hfn, hlater⟩
        refine ⟨n, by omega, hfn, fun m hm hlt w hw => ?_⟩
        by_cases he : m = len
        · exact hk ⟨w, he ▸ hw⟩
        · exact hlater m (by omega) hlt w hw
      · rintro ⟨n, hn, hfn, hlater⟩
        have hne : n ≠ len := fun he => hk ⟨v, he ▸ hfn⟩
        exact ⟨n, by omega, hfn, fun m hm => hlater m (by omega)⟩

theorem get?_flags_read {ts : List Text} {name : Text} {value : FlagValue} :
    (flags (read ts)).get? name = some value ↔
      ∃ n, LastNamedAt ts name n ∧ value = valueAt ts n := by
  unfold flags Table.ofList
  rw [Table.get?_setAll, Table.get?_empty, Option.or_none, flags_read,
    lookup_reverse_filterMap_range]
  simp only [flagAt?_eq_some_iff]
  have hlt {n : Nat} (h : NamedAt ts name n) : n < ts.length := by
    obtain ⟨t, ht, -⟩ := h
    exact (List.getElem?_eq_some_iff.1 ht).1
  constructor
  · rintro ⟨n, -, ⟨hn, rfl⟩, hlater⟩
    refine ⟨n, ⟨hn, fun m hm hnamed => ?_⟩, rfl⟩
    exact hlater m (hlt hnamed) hm _ (flagAt?_eq_some_iff.2 ⟨hnamed, rfl⟩)
  · rintro ⟨n, ⟨hn, hlater⟩, rfl⟩
    refine ⟨n, hlt hn, ⟨hn, rfl⟩, fun m _ hm w hw => ?_⟩
    exact hlater m hm (flagAt?_eq_some_iff.1 hw).1

/-- What it means that the tokens are read by their places alone. -/
structure ReadByPlace (ts : List Text) : Prop where
  /-- The positional arguments are the tokens without a dash in front that do not come right after
  one with a dash, in order. -/
  positionals_eq : positionals (read ts) = (List.range ts.length).filterMap (positionalAt? ts)
  /-- The flags have the names of the tokens with a dash, in the order in which they first occur. -/
  keys_eq : (flags (read ts)).keys = ((ts.filter isFlagToken).map flagName).eraseDups
  /-- The value of a flag is told by the last token of its name and the one right after that. -/
  get?_eq_some_iff : ∀ name value, (flags (read ts)).get? name = some value ↔
    ∃ n, LastNamedAt ts name n ∧ value = valueAt ts n
  /-- Every token is used once: as a positional argument, as a flag, or as the value of the flag
  right before it. -/
  used_once : ∃ groups : List (List Text),
    groups.flatten = ts ∧ List.Forall₂ Spells (read ts) groups

/-- What becomes of a token depends on itself and its neighbours alone, but that of all flags of a
name the last one counts. -/
theorem read_byPlace (ts : List Text) : ReadByPlace ts where
  positionals_eq := positionals_read ts
  keys_eq := by
    unfold flags
    rw [Table.keys_ofList, names_read]
  get?_eq_some_iff _ _ := get?_flags_read
  used_once := exists_spelling ts

/-- A flag that is given again keeps its place, and a dash alone is a flag without a name. -/
example : (flags (read ["-v", "a", "-", "b", "--v"])).entries =
    ([("v", .switch true), ([], .text "b")] : List (Text × FlagValue)) := by decide

end Argument

end CommandShell
