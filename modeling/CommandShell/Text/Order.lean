import CommandShell.Text.CodePoint

/-!
Texts in order. They are compared code point by code point, by number.

`mem_sortedDistinct`: sorting loses nothing and adds nothing; `sortedDistinct_pairwise`: the result
ascends strictly, so nothing is in it twice.
-/

namespace CommandShell.Text

/-- The first text comes before the second. -/
def Precedes (s t : Text) : Prop := values s < values t

instance (s t : Text) : Decidable (Precedes s t) :=
  inferInstanceAs (Decidable (values s < values t))

theorem Precedes.trans {s t u : Text} (hst : Precedes s t) (htu : Precedes t u) :
    Precedes s u := List.lt_trans hst htu

theorem not_precedes_self (s : Text) : ¬ Precedes s s := List.lt_irrefl (values s)

theorem precedes_of_not_precedes {s t : Text} (h : ¬ Precedes s t) (hne : s ≠ t) :
    Precedes t s :=
  Decidable.byContradiction fun hts =>
    hne (values_injective (List.le_antisymm (List.not_lt.1 hts) (List.not_lt.1 h)))

/-- Puts a text in its place among texts in ascending order, unless it is there already. -/
def insertSorted (s : Text) : List Text → List Text
  | [] => [s]
  | t :: ts =>
    if Precedes s t then s :: t :: ts
    else if s = t then t :: ts
    else t :: insertSorted s ts

/-- The texts of a list in ascending order, each once. -/
def sortedDistinct (ss : List Text) : List Text := ss.foldr insertSorted []

theorem mem_insertSorted {x s : Text} {ts : List Text} :
    x ∈ insertSorted s ts ↔ x = s ∨ x ∈ ts := by
  induction ts with
  | nil => simp [insertSorted]
  | cons t ts ih =>
    simp only [insertSorted]
    split
    · simp
    · split
      · rename_i h
        simp [h]
      · simp only [List.mem_cons, ih]
        constructor
        · rintro (h | h | h)
          · exact .inr (.inl h)
          · exact .inl h
          · exact .inr (.inr h)
        · rintro (h | h | h)
          · exact .inr (.inl h)
          · exact .inl h
          · exact .inr (.inr h)

theorem mem_sortedDistinct {x : Text} {ss : List Text} :
    x ∈ sortedDistinct ss ↔ x ∈ ss := by
  induction ss with
  | nil => simp [sortedDistinct]
  | cons s ss ih =>
    rw [sortedDistinct, List.foldr_cons, mem_insertSorted, List.mem_cons]
    exact or_congr Iff.rfl ih

theorem insertSorted_pairwise {s : Text} {ts : List Text} (h : ts.Pairwise Precedes) :
    (insertSorted s ts).Pairwise Precedes := by
  induction ts with
  | nil => simp [insertSorted]
  | cons t ts ih =>
    obtain ⟨ht, hts⟩ := List.pairwise_cons.1 h
    simp only [insertSorted]
    split
    · rename_i hst
      refine List.pairwise_cons.2 ⟨fun x hx => ?_, h⟩
      rcases List.mem_cons.1 hx with rfl | hx
      · exact hst
      · exact hst.trans (ht x hx)
    · split
      · exact h
      · rename_i hst hne
        refine List.pairwise_cons.2 ⟨fun x hx => ?_, ih hts⟩
        rcases mem_insertSorted.1 hx with rfl | hx
        · exact precedes_of_not_precedes hst hne
        · exact ht x hx

theorem sortedDistinct_pairwise (ss : List Text) : (sortedDistinct ss).Pairwise Precedes := by
  induction ss with
  | nil => simp [sortedDistinct]
  | cons s ss ih => exact insertSorted_pairwise ih

end CommandShell.Text
