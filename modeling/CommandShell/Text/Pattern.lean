/-!
Patterns of lists, and the parts of a list that they find.

A pattern is read from left to right. Where it leaves a choice, the choices are tried in order, and
the first one with which all the rest of the pattern can be read counts (`Pattern.read`). Some of
its pieces are named as parts; a list is searched for a pattern from its beginning, and every search
goes on behind what the one before has found (`Pattern.partsIn`).

`exists_of_read`: a reading goes on at a place that it has come to item by item, so what every item
and every part preserves still holds there; `start_lt_stop_of_mem_partsIn`: no part is empty.
-/

namespace CommandShell

/-- A stretch of a list, from one index up to, and without, another. -/
structure Part where
  start : Nat
  stop : Nat
deriving DecidableEq, Repr

/-- How far a list has been read, and the parts that were read, last one first. -/
structure Place (α : Type) where
  index : Nat
  before : Option α
  rest : List α
  parts : List Part

/-- What a stretch of a list looks like. -/
inductive Pattern (α : Type) where
  /-- An item. -/
  | one (fits : α → Bool)
  /-- Nothing, between two neighbours of which one may be missing. -/
  | between (holds : Option α → Option α → Bool)
  /-- Items, all that there are. -/
  | run (fits : α → Bool)
  /-- Items, as many as possible. -/
  | longRun (fits : α → Bool)
  /-- Items, as few as possible. -/
  | shortRun (fits : α → Bool)
  | seq (p q : Pattern α)
  /-- The first pattern or, if that does not do, the second. -/
  | either (p q : Pattern α)
  /-- A pattern again and again, as often as possible. -/
  | many (p : Pattern α)
  /-- A pattern whose stretch is a part. -/
  | part (p : Pattern α)

variable {α : Type}

namespace Place

/-- The place behind one more item. -/
def step (s : Place α) (a : α) (rest : List α) : Place α :=
  { s with index := s.index + 1, before := some a, rest }

/-- The place at the end of a run of items. -/
def endOf (fits : α → Bool) (s : Place α) : List α → Place α
  | [] => s
  | a :: as => if fits a then endOf fits (s.step a as) as else s

/-- The places up to the end of a run of items, last one first, and then those of `later`. -/
def alongAfter (fits : α → Bool) (later : List (Place α)) (s : Place α) :
    List α → List (Place α)
  | [] => s :: later
  | a :: as =>
    if fits a then alongAfter fits (s :: later) (s.step a as) as else s :: later

/-- The places up to the end of a run of items, the last one first. -/
def along (fits : α → Bool) (s : Place α) : List (Place α) := alongAfter fits [] s s.rest

/-- Tries to go on at each place of a run of items, the first one first. -/
def firstAlong (fits : α → Bool) (go : Place α → Option (Place α)) (s : Place α) :
    List α → Option (Place α)
  | [] => go s
  | a :: as =>
    match go s with
    | some t => some t
    | none => if fits a then firstAlong fits go (s.step a as) as else none

/-- Reads again and again, at most once for every item of `budget`, and then goes on. -/
def again (once : (Place α → Option (Place α)) → Place α → Option (Place α))
    (go : Place α → Option (Place α)) : List α → Place α → Option (Place α)
  | [], s => go s
  | _ :: budget, s =>
    match once (again once go budget) s with
    | some t => some t
    | none => go s

/-- The place with what was read since `start` as a part, unless that is nothing. -/
def close (start : Nat) (s : Place α) : Place α :=
  if start < s.index then { s with parts := ⟨start, s.index⟩ :: s.parts } else s

end Place

namespace Pattern

/-- Reads a pattern at a place and goes on behind it. -/
def read : Pattern α → (Place α → Option (Place α)) → Place α → Option (Place α)
  | one fits, go, s =>
    match s.rest with
    | [] => none
    | a :: as => if fits a then go (s.step a as) else none
  | between holds, go, s => if holds s.before s.rest.head? then go s else none
  | run fits, go, s => go (s.endOf fits s.rest)
  | longRun fits, go, s => (s.along fits).findSome? go
  | shortRun fits, go, s => s.firstAlong fits go s.rest
  | seq p q, go, s => p.read (q.read go) s
  | either p q, go, s =>
    match p.read go s with
    | some t => some t
    | none => q.read go s
  | many p, go, s => Place.again p.read go s.rest s
  | part p, go, s => p.read (fun t => go (t.close s.index)) s

/-- Nothing. -/
def nothing : Pattern α := between fun _ _ => true

/-- Patterns one after the other. -/
def all (ps : List (Pattern α)) : Pattern α := ps.foldr seq nothing

/-- The first one of some patterns with which the rest can be read. -/
def first (ps : List (Pattern α)) : Pattern α :=
  ps.foldr either (between fun _ _ => false)

/-- A pattern, if possible. -/
def maybe (p : Pattern α) : Pattern α := either p nothing

/-- A pattern so many times. -/
def times (n : Nat) (p : Pattern α) : Pattern α := all (List.replicate n p)

/-- A pattern as often as possible, but not more often than `n` times. -/
def upTo (p : Pattern α) : Nat → Pattern α
  | 0 => nothing
  | n + 1 => maybe (seq p (upTo p n))

/-- At least one item, and all that there are. -/
def oneOrMore (fits : α → Bool) : Pattern α := seq (one fits) (run fits)

/-- From one to so many items, as many as possible. -/
def oneTo (most : Nat) (fits : α → Bool) : Pattern α := seq (one fits) (upTo (one fits) (most - 1))

/-- What a pattern finds in a list, behind the parts `found` (last one first); `skip` items are left
of what it found last. -/
def partsAfter (p : Pattern α) (found : List Part) (skip index : Nat) (before : Option α) :
    List α → List Part
  | [] => found.reverse
  | a :: as =>
    if skip ≠ 0 then p.partsAfter found (skip - 1) (index + 1) (some a) as
    else
      match p.read some ⟨index, before, a :: as, []⟩ with
      | none => p.partsAfter found 0 (index + 1) (some a) as
      | some t =>
        p.partsAfter (t.parts ++ found) (t.index - index - 1) (index + 1) (some a) as

/-- The parts that a pattern finds in a list. -/
def partsIn (p : Pattern α) (as : List α) : List Part := p.partsAfter [] 0 0 none as

/-- What a reading preserves. -/
structure Kept (P : Place α → Prop) : Prop where
  step : ∀ s a as, P s → P (s.step a as)
  close : ∀ start s, P s → P (s.close start)

section Kept

variable {P : Place α → Prop} {fits : α → Bool} {go : Place α → Option (Place α)} {s t : Place α}

theorem Kept.endOf (hP : Kept P) (hs : P s) (as : List α) : P (s.endOf fits as) := by
  induction as generalizing s with
  | nil => exact hs
  | cons a as ih =>
    simp only [Place.endOf]
    split
    · exact ih (hP.step _ _ _ hs)
    · exact hs

theorem Kept.alongAfter (hP : Kept P) (hs : P s) {later : List (Place α)}
    (hl : ∀ u ∈ later, P u) (as : List α) : ∀ u ∈ s.alongAfter fits later as, P u := by
  have hc : ∀ u ∈ s :: later, P u := by simpa using ⟨hs, hl⟩
  induction as generalizing s later with
  | nil => exact hc
  | cons a as ih =>
    simp only [Place.alongAfter]
    split
    · exact ih (hP.step _ _ _ hs) hc (by simpa using ⟨hP.step _ _ _ hs, hs, hl⟩)
    · exact hc

theorem Kept.firstAlong (hP : Kept P) (hs : P s) {as : List α}
    (h : s.firstAlong fits go as = some t) : ∃ u, P u ∧ go u = some t := by
  induction as generalizing s with
  | nil => exact ⟨s, hs, h⟩
  | cons a as ih =>
    simp only [Place.firstAlong] at h
    split at h
    · rename_i u hu
      exact ⟨s, hs, hu.trans h⟩
    · split at h
      · exact ih (hP.step _ _ _ hs) h
      · cases h

theorem Kept.again {once : (Place α → Option (Place α)) → Place α → Option (Place α)}
    (honce : ∀ {go s t}, P s → once go s = some t → ∃ u, P u ∧ go u = some t)
    (hs : P s) {budget : List α} (h : Place.again once go budget s = some t) :
    ∃ u, P u ∧ go u = some t := by
  induction budget generalizing s t with
  | nil => exact ⟨s, hs, h⟩
  | cons b budget ih =>
    simp only [Place.again] at h
    split at h
    · rename_i u hu
      obtain ⟨v, hv, hgo⟩ := honce hs hu
      obtain ⟨w, hw, hgo⟩ := ih hv hgo
      exact ⟨w, hw, hgo.trans h⟩
    · exact ⟨s, hs, h⟩

/-- A reading that succeeds has gone on at a place where what it preserves still holds. -/
theorem exists_of_read (hP : Kept P) {p : Pattern α} (hs : P s) (h : p.read go s = some t) :
    ∃ u, P u ∧ go u = some t := by
  induction p generalizing go s t with
  | one fits =>
    simp only [read] at h
    split at h
    · cases h
    · split at h
      · exact ⟨_, hP.step _ _ _ hs, h⟩
      · cases h
  | between holds =>
    simp only [read] at h
    split at h
    · exact ⟨s, hs, h⟩
    · cases h
  | run fits => exact ⟨_, hP.endOf hs _, h⟩
  | longRun fits =>
    obtain ⟨u, hu, hgo⟩ := List.exists_of_findSome?_eq_some h
    exact ⟨u, hP.alongAfter hs (by simp) _ u hu, hgo⟩
  | shortRun fits => exact hP.firstAlong hs h
  | seq p q ihp ihq =>
    obtain ⟨u, hu, hgo⟩ := ihp hs h
    exact ihq hu hgo
  | either p q ihp ihq =>
    simp only [read] at h
    split at h
    · rename_i u hu
      obtain ⟨v, hv, hgo⟩ := ihp hs hu
      exact ⟨v, hv, hgo.trans h⟩
    · exact ihq hs h
  | many p ih => exact Kept.again ih hs h
  | part p ih =>
    obtain ⟨u, hu, hgo⟩ := ih hs h
    exact ⟨_, hP.close _ _ hu, hgo⟩

end Kept

theorem kept_parts : Kept fun s : Place α => ∀ r ∈ s.parts, r.start < r.stop where
  step _ _ _ hs := hs
  close start s hs := by
    simp only [Place.close]
    split
    · simpa using ⟨‹_›, hs⟩
    · exact hs

theorem start_lt_stop_of_mem_partsAfter {p : Pattern α} {found : List Part}
    (hf : ∀ r ∈ found, r.start < r.stop) {skip index : Nat} {before : Option α} {as : List α} :
    ∀ r ∈ p.partsAfter found skip index before as, r.start < r.stop := by
  induction as generalizing found skip index before with
  | nil => simpa [partsAfter] using hf
  | cons a as ih =>
    simp only [partsAfter]
    split
    · exact ih hf
    · split
      · exact ih hf
      · rename_i t ht
        obtain ⟨u, hu, hgo⟩ := exists_of_read kept_parts (by simp) ht
        cases hgo
        refine ih fun r hr => ?_
        rcases List.mem_append.1 hr with hr | hr
        · exact hu r hr
        · exact hf r hr

/-- No part is empty. -/
theorem start_lt_stop_of_mem_partsIn {p : Pattern α} {as : List α} :
    ∀ r ∈ p.partsIn as, r.start < r.stop :=
  start_lt_stop_of_mem_partsAfter (by simp)

end Pattern

end CommandShell
