import CommandShell.Text.CodePoint

/-!
Tables from names to values. A table remembers the order in which its names came in; a name that
is set again keeps its place.

* `get?_set`, `get?_erase`, `get?_setAll`: what each operation does to look-up;
* `keys_set`, `keys_erase`, `keys_setAll`: what it does to the names and their order;
* `setAll_ofList`: putting a table over another is setting its pairs one after another.
-/

namespace CommandShell

/-- A finite map from names to values, in the order of first entry. -/
structure Table (α : Type) where
  entries : List (Text × α)
  distinct : (entries.map Prod.fst).Nodup

namespace Table

variable {α : Type}

@[ext] theorem ext {t u : Table α} (h : t.entries = u.entries) : t = u := by
  cases t; cases u; simp_all

instance [DecidableEq α] : DecidableEq (Table α) := fun _ _ =>
  decidable_of_iff _ ⟨ext, fun h => h ▸ rfl⟩

/-- The table without names. -/
def empty : Table α := ⟨[], List.nodup_nil⟩

instance : Inhabited (Table α) := ⟨empty⟩

/-- The names, in order of first entry. -/
def keys (t : Table α) : List Text := t.entries.map Prod.fst

/-- The values, in the order of their names. -/
def values (t : Table α) : List α := t.entries.map Prod.snd

def size (t : Table α) : Nat := t.entries.length

/-- The value under a name. -/
def get? (t : Table α) (k : Text) : Option α := t.entries.lookup k

def contains (t : Table α) (k : Text) : Bool := (t.get? k).isSome

/-- The entries with `k` set to `v`: in its old place, or at the end if it is new. -/
def setIn (k : Text) (v : α) : List (Text × α) → List (Text × α)
  | [] => [(k, v)]
  | (k', v') :: es => if k' = k then (k, v) :: es else (k', v') :: setIn k v es

theorem keys_setIn (k : Text) (v : α) (es : List (Text × α)) :
    (setIn k v es).map Prod.fst =
      if k ∈ es.map Prod.fst then es.map Prod.fst else es.map Prod.fst ++ [k] := by
  induction es with
  | nil => simp [setIn]
  | cons e es ih =>
    obtain ⟨k', v'⟩ := e
    by_cases h : k' = k
    · simp [setIn, h]
    · have h' : ¬ k = k' := fun e => h e.symm
      simp only [setIn, h, if_false, List.map_cons, ih, List.mem_cons, h', false_or]
      split <;> simp

theorem nodup_setIn (k : Text) (v : α) {es : List (Text × α)}
    (h : (es.map Prod.fst).Nodup) : ((setIn k v es).map Prod.fst).Nodup := by
  rw [keys_setIn]
  split
  · exact h
  · rename_i hk
    refine List.nodup_append.2 ⟨h, by simp, ?_⟩
    rintro a ha b hb rfl
    exact hk (List.mem_singleton.1 hb ▸ ha)

/-- Sets a name; one that is already there keeps its place. -/
def set (t : Table α) (k : Text) (v : α) : Table α :=
  ⟨setIn k v t.entries, nodup_setIn k v t.distinct⟩

/-- Removes a name. -/
def erase (t : Table α) (k : Text) : Table α :=
  ⟨t.entries.filter (·.1 != k), t.distinct.sublist (List.filter_sublist.map _)⟩

/-- Sets the pairs of a list one after another. -/
def setAll (t : Table α) (es : List (Text × α)) : Table α :=
  es.foldl (fun t e => t.set e.1 e.2) t

/-- The table of a list of pairs; of two pairs with one name the place is that of the first and
the value that of the second. -/
def ofList (es : List (Text × α)) : Table α := empty.setAll es

/-- The table `t` with the entries of `u` put over it. -/
def overlay (t u : Table α) : Table α := t.setAll u.entries

/-- Two tables give every name the same value, in whatever order. -/
def agrees [BEq α] (t u : Table α) : Bool :=
  t.entries.all (fun e => u.get? e.1 == some e.2) &&
    u.entries.all (fun e => t.get? e.1 == some e.2)

@[simp] theorem entries_empty : (empty : Table α).entries = [] := rfl

@[simp] theorem get?_empty (k : Text) : (empty : Table α).get? k = none := rfl

@[simp] theorem keys_empty : (empty : Table α).keys = [] := rfl

theorem keys_nodup (t : Table α) : t.keys.Nodup := t.distinct

/-- Look-up among values that are listed with their names finds the first that has the name. -/
theorem lookup_map {β : Type} (name : β → Text) (value : β → α) (bs : List β) (k : Text) :
    (bs.map fun b => (name b, value b)).lookup k = (bs.find? fun b => name b == k).map value := by
  induction bs with
  | nil => rfl
  | cons b bs ih =>
    rw [List.map_cons, List.lookup_cons, List.find?_cons, BEq.comm, ih]
    cases name b == k <;> rfl

theorem lookup_setIn (k : Text) (v : α) (es : List (Text × α)) (j : Text) :
    (setIn k v es).lookup j = if j = k then some v else es.lookup j := by
  induction es with
  | nil =>
    by_cases h : j = k
    · simp [setIn, h]
    · simp [setIn, h, List.lookup_cons, beq_false_of_ne h]
  | cons e es ih =>
    obtain ⟨k', v'⟩ := e
    by_cases h : k' = k
    · subst h
      by_cases hj : j = k'
      · simp [setIn, hj]
      · simp [setIn, hj, List.lookup_cons, beq_false_of_ne hj]
    · by_cases hj : j = k'
      · subst hj
        simp [setIn, h]
      · simp [setIn, h, List.lookup_cons, beq_false_of_ne hj, ih]

theorem get?_set (t : Table α) (k : Text) (v : α) (j : Text) :
    (t.set k v).get? j = if j = k then some v else t.get? j :=
  lookup_setIn k v t.entries j

theorem keys_set (t : Table α) (k : Text) (v : α) :
    (t.set k v).keys = if k ∈ t.keys then t.keys else t.keys ++ [k] :=
  keys_setIn k v t.entries

theorem lookup_filter_ne (es : List (Text × α)) (k j : Text) :
    (es.filter (·.1 != k)).lookup j = if j = k then none else es.lookup j := by
  induction es with
  | nil => simp
  | cons e es ih =>
    obtain ⟨k', v'⟩ := e
    by_cases h : k' = k
    · subst h
      rw [List.filter_cons_of_neg (by simp), ih]
      by_cases hj : j = k'
      · simp [hj]
      · simp [hj, List.lookup_cons, beq_false_of_ne hj]
    · by_cases hj : j = k'
      · subst hj
        simp [h]
      · simp [h, List.lookup_cons, beq_false_of_ne hj, ih]

theorem get?_erase (t : Table α) (k j : Text) :
    (t.erase k).get? j = if j = k then none else t.get? j :=
  lookup_filter_ne t.entries k j

theorem keys_erase (t : Table α) (k : Text) : (t.erase k).keys = t.keys.filter (· != k) := by
  simp only [keys, erase, List.filter_map]
  rfl

theorem mem_keys_iff (t : Table α) (k : Text) : k ∈ t.keys ↔ (t.get? k).isSome = true := by
  simp only [keys, get?]
  induction t.entries with
  | nil => simp
  | cons e es ih =>
    obtain ⟨k', v'⟩ := e
    by_cases h : k = k'
    · simp [h]
    · simp [List.lookup_cons, beq_false_of_ne h, h, ih]

theorem contains_iff (t : Table α) (k : Text) : t.contains k = true ↔ k ∈ t.keys :=
  (t.mem_keys_iff k).symm

theorem setAll_nil (t : Table α) : t.setAll [] = t := rfl

theorem setAll_cons (t : Table α) (e : Text × α) (es : List (Text × α)) :
    t.setAll (e :: es) = (t.set e.1 e.2).setAll es := rfl

theorem setAll_append (t : Table α) (es fs : List (Text × α)) :
    t.setAll (es ++ fs) = (t.setAll es).setAll fs := by
  simp [setAll]

/-- After `setAll` a name has the last value that the list gives it. -/
theorem get?_setAll (t : Table α) (es : List (Text × α)) (j : Text) :
    (t.setAll es).get? j = (es.reverse.lookup j).or (t.get? j) := by
  induction es generalizing t with
  | nil => rfl
  | cons e es ih =>
    obtain ⟨k, v⟩ := e
    rw [setAll_cons, ih, get?_set]
    simp only [List.reverse_cons, List.lookup_append, Option.or_assoc]
    congr 1
    by_cases h : j = k
    · simp [h]
    · simp [h, List.lookup_cons, beq_false_of_ne h]

theorem mem_of_mem_setIn {k : Text} {v : α} {es : List (Text × α)} {e : Text × α}
    (h : e ∈ setIn k v es) : e = (k, v) ∨ e ∈ es := by
  induction es with
  | nil => exact .inl (List.mem_singleton.1 h)
  | cons f es ih =>
    unfold setIn at h
    split at h
    · exact (List.mem_cons.1 h).imp id (List.mem_cons_of_mem f)
    · rcases List.mem_cons.1 h with rfl | h
      · exact .inr List.mem_cons_self
      · exact (ih h).imp id (List.mem_cons_of_mem f)

/-- New names come after the old ones, each once, in the order in which they first occur. -/
theorem keys_setAll (t : Table α) (es : List (Text × α)) :
    (t.setAll es).keys = t.keys ++ ((es.map Prod.fst).filter (· ∉ t.keys)).eraseDups := by
  induction es generalizing t with
  | nil => simp [setAll_nil]
  | cons e es ih =>
    rw [setAll_cons, ih, keys_set, List.map_cons]
    by_cases h : e.1 ∈ t.keys
    · rw [if_pos h, List.filter_cons_of_neg (by simpa using h)]
    · rw [if_neg h, List.filter_cons_of_pos (by simpa using h), List.eraseDups_cons,
        List.append_assoc, List.filter_filter]
      have hnew : (fun k => decide (k ∉ t.keys ++ [e.1])) = fun k =>
          !(k == e.1) && decide (k ∉ t.keys) := by
        funext k
        by_cases hk : k = e.1 <;> simp [hk]
      rw [hnew]
      rfl

theorem keys_ofList (es : List (Text × α)) :
    (ofList es).keys = (es.map Prod.fst).eraseDups := by
  rw [ofList, keys_setAll, keys_empty, List.nil_append]
  congr 1
  exact List.filter_eq_self.2 fun k _ => by simp

/-- The entries of a table are among the pairs that were set. -/
theorem mem_of_mem_setAll {t : Table α} {es : List (Text × α)} {e : Text × α}
    (h : e ∈ (t.setAll es).entries) : e ∈ t.entries ∨ e ∈ es := by
  induction es generalizing t with
  | nil => exact .inl h
  | cons f es ih =>
    rw [setAll_cons] at h
    rcases ih h with h | h
    · rcases mem_of_mem_setIn h with rfl | h
      · exact .inr List.mem_cons_self
      · exact .inl h
    · exact .inr (List.mem_cons_of_mem f h)

theorem setIn_of_not_mem {k : Text} {es : List (Text × α)} (h : k ∉ es.map Prod.fst) (v : α) :
    setIn k v es = es ++ [(k, v)] := by
  induction es with
  | nil => rfl
  | cons e es ih =>
    obtain ⟨hne, hes⟩ := not_or.1 fun hm => h (List.mem_cons.2 hm)
    rw [setIn, if_neg fun he => hne he.symm, ih hes]
    rfl

/-- Pairs with new names, each of another one, come after the entries as they are. -/
theorem entries_setAll {t : Table α} {es : List (Text × α)}
    (h : ((t.entries ++ es).map Prod.fst).Nodup) : (t.setAll es).entries = t.entries ++ es := by
  induction es generalizing t with
  | nil => exact (List.append_nil _).symm
  | cons e es ih =>
    have hnew : e.1 ∉ t.entries.map Prod.fst := by
      intro hm
      rw [List.map_append, List.nodup_append] at h
      exact h.2.2 e.1 hm e.1 List.mem_cons_self rfl
    have hset : (t.set e.1 e.2).entries = t.entries ++ [e] := setIn_of_not_mem hnew e.2
    rw [setAll_cons, ih, hset, List.append_assoc, List.singleton_append]
    rwa [hset, List.append_assoc, List.singleton_append]

/-- A table is made up by its entries. -/
theorem ofList_entries (t : Table α) : ofList t.entries = t := ext (entries_setAll t.distinct)

/-- A pair in front changes nothing for names that are not its own. -/
theorem filterMap_lookup_cons {k : Text} {ks : List Text} (h : k ∉ ks) (v : α)
    (es : List (Text × α)) :
    ks.filterMap (fun j => ((k, v) :: es).lookup j) = ks.filterMap fun j => es.lookup j := by
  induction ks with
  | nil => rfl
  | cons j ks ih =>
    obtain ⟨hj, hks⟩ := not_or.1 fun hm => h (List.mem_cons.2 hm)
    have hne : (j == k) = false := beq_false_of_ne fun he => hj he.symm
    rw [List.filterMap_cons, List.filterMap_cons, List.lookup_cons, hne, ih hks]

/-- The values stand in the order of their names. -/
theorem values_eq (t : Table α) : t.values = t.keys.filterMap t.get? := by
  obtain ⟨es, hes⟩ := t
  show es.map Prod.snd = (es.map Prod.fst).filterMap fun k => es.lookup k
  induction es with
  | nil => rfl
  | cons e es ih =>
    obtain ⟨k, v⟩ := e
    obtain ⟨hnew, hrest⟩ := List.nodup_cons.1 hes
    rw [List.map_cons, List.map_cons, List.filterMap_cons, List.lookup_cons_self,
      filterMap_lookup_cons hnew, ← ih hrest]

theorem setIn_setIn (k : Text) (u v : α) (es : List (Text × α)) :
    setIn k v (setIn k u es) = setIn k v es := by
  induction es with
  | nil => simp [setIn]
  | cons e es ih =>
    by_cases h : e.1 = k
    · simp [setIn, h]
    · simp [setIn, h, ih]

/-- A name that is set again takes the later value, whatever is set in between. -/
theorem setIn_setIn_setIn {j k : Text} (h : j ≠ k) (u v w : α) (es : List (Text × α)) :
    setIn k v (setIn j w (setIn k u es)) = setIn j w (setIn k v es) := by
  induction es with
  | nil => simp [setIn, h.symm]
  | cons e es ih =>
    obtain ⟨k', v'⟩ := e
    by_cases hk : k' = k
    · subst hk
      simp [setIn, h.symm]
    · by_cases hj : k' = j
      · subst hj
        simp [setIn, h, setIn_setIn]
      · simp [setIn, hk, hj, ih]

theorem set_set (t : Table α) (k : Text) (u v : α) : (t.set k u).set k v = t.set k v :=
  ext (setIn_setIn k u v t.entries)

theorem set_set_set (t : Table α) {j k : Text} (h : j ≠ k) (u v w : α) :
    ((t.set k u).set j w).set k v = (t.set k v).set j w :=
  ext (setIn_setIn_setIn h u v w t.entries)

theorem set_setAll_set (t : Table α) {k : Text} (u v : α) {es : List (Text × α)}
    (h : k ∉ es.map Prod.fst) : ((t.set k u).setAll es).set k v = (t.set k v).setAll es := by
  induction es generalizing t with
  | nil => exact set_set t k u v
  | cons e es ih =>
    obtain ⟨j, w⟩ := e
    rw [List.map_cons, List.mem_cons, not_or] at h
    have hj : j ≠ k := fun e => h.1 e.symm
    rw [setAll_cons, setAll_cons, ← set_set_set t hj u v w, ← ih _ h.2,
      set_set_set t hj u u w]

theorem setAll_setIn (t : Table α) (k : Text) (v : α) {es : List (Text × α)}
    (h : (es.map Prod.fst).Nodup) : t.setAll (setIn k v es) = (t.setAll es).set k v := by
  induction es generalizing t with
  | nil => rfl
  | cons e es ih =>
    obtain ⟨k', v'⟩ := e
    obtain ⟨hk', hes⟩ := List.nodup_cons.1 h
    by_cases hk : k' = k
    · subst hk
      simp only [setIn, if_true, setAll_cons]
      exact (set_setAll_set t v' v hk').symm
    · simp only [setIn, if_neg hk, setAll_cons]
      exact ih _ hes

theorem setAll_entries_setAll (t u : Table α) (es : List (Text × α)) :
    t.setAll (u.setAll es).entries = (t.setAll u.entries).setAll es := by
  induction es generalizing u with
  | nil => rfl
  | cons e es ih =>
    rw [setAll_cons, ih, setAll_cons]
    exact congrArg (setAll · es) (setAll_setIn t e.1 e.2 u.distinct)

/-- To put the table of a list of pairs over another is to set the pairs one after another. -/
theorem setAll_ofList (t : Table α) (es : List (Text × α)) :
    t.setAll (ofList es).entries = t.setAll es :=
  setAll_entries_setAll t empty es

end Table

end CommandShell
