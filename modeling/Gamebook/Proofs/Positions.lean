import Gamebook.Validation
import Mathlib.Data.Set.Card

/-!
# Counting positions

What is said of a document by positions, such as that an id stands at an earlier position too, is counted
here: a set of positions is as large as the number of members of a list that pass a test. A position is counted
and not a member, for a document may have the same passage twice, and each of the two may be wrong.

The sets are said without the test, so that a statement on them can be read without the program, and their sizes
are extended naturals (`Set.encard`). So a set that is counted is known to be finite, and no proof of that is
carried along.

Three kinds of positions are counted: of members with a property (`positions`), of parts of members with a
property, such as choices of passages (`places`), and of members that stand earlier in the list (`repeats`). Each
count is by induction on the list, and splits the position 0 off from those that come after it. For `repeats` that
is not enough: behind the first member, a member may have been met at position 0. So the count is done for
`repeatsAfter`, in which some members are taken to have been met before; this is also what the check that scans for
repeated ids keeps.
-/

namespace Gamebook

variable {α β : Type}

/-- The positions at which a list has a member with a property. -/
def positions (xs : List α) (P : α → Prop) : Set Nat := {i | ∃ x, xs[i]? = some x ∧ P x}

/-- The positions at which a list has a member that stands at an earlier position too. -/
def repeats (xs : List α) : Set Nat := {i | ∃ x, xs[i]? = some x ∧ ∃ j < i, xs[j]? = some x}

/-- The positions at which the parts of a list's members have a property: where the member stands in the
list, and where the part stands in the member. -/
def places (xs : List α) (parts : α → List β) (P : β → Prop) : Set (Nat × Nat) :=
  {place | ∃ x y, xs[place.1]? = some x ∧ (parts x)[place.2]? = some y ∧ P y}

/-! ## One list -/

theorem encard_eq_zero_add_succ (S : Set Nat) [Decidable (0 ∈ S)] :
    S.encard = (if 0 ∈ S then 1 else 0) + {i | i + 1 ∈ S}.encard := by
  have hsplit : S = {i | i = 0 ∧ 0 ∈ S} ∪ Nat.succ '' {i | i + 1 ∈ S} := by
    ext i
    cases i <;> simp
  have hdisjoint : Disjoint {i | i = 0 ∧ 0 ∈ S} (Nat.succ '' {i | i + 1 ∈ S}) := by
    rw [Set.disjoint_left]
    rintro i ⟨rfl, -⟩ ⟨j, -, hj⟩
    exact Nat.succ_ne_zero j hj
  have hzero : {i | i = 0 ∧ 0 ∈ S}.encard = if 0 ∈ S then 1 else 0 := by
    by_cases h : 0 ∈ S <;> simp [h]
  calc S.encard
      = ({i | i = 0 ∧ 0 ∈ S} ∪ Nat.succ '' {i | i + 1 ∈ S}).encard := by rw [← hsplit]
    _ = {i | i = 0 ∧ 0 ∈ S}.encard + (Nat.succ '' {i | i + 1 ∈ S}).encard :=
        Set.encard_union_eq hdisjoint
    _ = (if 0 ∈ S then 1 else 0) + {i | i + 1 ∈ S}.encard := by
        rw [hzero, Nat.succ_injective.encard_image]

theorem encard_positions {P : α → Prop} {test : α → Bool} (h : ∀ x, P x ↔ test x = true)
    (xs : List α) : (positions xs P).encard = xs.countP test := by
  classical
  induction xs with
  | nil => simp [positions]
  | cons x xs ih =>
    have hzero : 0 ∈ positions (x :: xs) P ↔ test x = true := by simp [positions, h]
    have hsucc : {i | i + 1 ∈ positions (x :: xs) P} = positions xs P := by simp [positions]
    rw [encard_eq_zero_add_succ, hsucc, ih, List.countP_cons]
    by_cases hx : test x = true <;> simp [hzero, hx, add_comm]

/-! ## Lists in a list -/

/-- Places are those in the first member and those in the members after it. -/
theorem encard_eq_row_add_rows (S : Set (Nat × Nat)) :
    S.encard = {j | (0, j) ∈ S}.encard + {place : Nat × Nat | (place.1 + 1, place.2) ∈ S}.encard := by
  have hrow : (Prod.mk 0 : Nat → Nat × Nat).Injective := Prod.mk_right_injective 0
  have hrows : (fun place : Nat × Nat => (place.1 + 1, place.2)).Injective := by
    rintro ⟨i, j⟩ ⟨k, l⟩ h
    simpa using h
  have hsplit : S = Prod.mk 0 '' {j | (0, j) ∈ S} ∪
      (fun place : Nat × Nat => (place.1 + 1, place.2)) '' {place | (place.1 + 1, place.2) ∈ S} := by
    ext ⟨i, j⟩
    cases i <;> simp
  have hdisjoint : Disjoint (Prod.mk 0 '' {j | (0, j) ∈ S})
      ((fun place : Nat × Nat => (place.1 + 1, place.2)) '' {place | (place.1 + 1, place.2) ∈ S}) := by
    rw [Set.disjoint_left]
    rintro _ ⟨j, -, rfl⟩ ⟨⟨k, l⟩, -, hk⟩
    exact Nat.succ_ne_zero k (congrArg Prod.fst hk)
  conv_lhs => rw [hsplit]
  rw [Set.encard_union_eq hdisjoint, hrow.encard_image, hrows.encard_image]

/-- The places at which parts have a property are as many as the parts that pass the test, summed over the
members. By induction on the members: a place is in the first member or in those after it. -/
theorem encard_places {P : β → Prop} {test : β → Bool} (h : ∀ y, P y ↔ test y = true) (xs : List α)
    (parts : α → List β) :
    (places xs parts P).encard = (xs.map fun x => (parts x).countP test).sum := by
  induction xs with
  | nil => simp [places]
  | cons x xs ih =>
    have hrow : {j | (0, j) ∈ places (x :: xs) parts P} = positions (parts x) P := by
      simp [places, positions]
    have hrows : {place : Nat × Nat | (place.1 + 1, place.2) ∈ places (x :: xs) parts P} =
        places xs parts P := by simp [places]
    rw [encard_eq_row_add_rows, hrow, hrows, encard_positions h, ih, List.map_cons, List.sum_cons,
      Nat.cast_add]

/-! ## Members met before

A search for repeated members goes through a list with those that it has met. What it has to find behind some members
is therefore said of two things: of what was met, and of the list that is left. -/

/-- The positions at which a list has a member that is among some others, or stands earlier in the
list. -/
def repeatsAfter (seen xs : List α) : Set Nat :=
  {i | ∃ x, xs[i]? = some x ∧ (x ∈ seen ∨ ∃ j < i, xs[j]? = some x)}

theorem repeatsAfter_nil (xs : List α) : repeatsAfter [] xs = repeats xs := by
  simp [repeatsAfter, repeats]

/-- Behind the first member, what is met before is met at that member or before it. -/
theorem succ_mem_repeatsAfter_cons {seen xs : List α} {x : α} {i : Nat} :
    i + 1 ∈ repeatsAfter seen (x :: xs) ↔ i ∈ repeatsAfter (x :: seen) xs := by
  simp only [repeatsAfter, Set.mem_ofPred_eq, List.getElem?_cons_succ, List.mem_cons]
  refine exists_congr fun y => and_congr_right fun _ => ?_
  constructor
  · rintro (hseen | ⟨j, hj, hy⟩)
    · exact .inl (.inr hseen)
    · cases j with
      | zero => exact .inl (.inl (Option.some.inj hy).symm)
      | succ j => exact .inr ⟨j, by omega, hy⟩
  · rintro ((rfl | hseen) | ⟨j, hj, hy⟩)
    · exact .inr ⟨0, by omega, rfl⟩
    · exact .inl hseen
    · exact .inr ⟨j + 1, by omega, hy⟩

theorem repeatsAfter_cons_of_mem {seen xs : List α} {x : α} (h : x ∈ seen) :
    repeatsAfter (x :: seen) xs = repeatsAfter seen xs := by
  ext i
  simp only [repeatsAfter, Set.mem_ofPred_eq, List.mem_cons]
  refine exists_congr fun y => and_congr_right fun _ => or_congr_left ?_
  exact or_iff_right_of_imp (by rintro rfl; exact h)

/-- The positions of members met before are as many as the scan for repeated ids reports. The scan forgets how
often an id was met, and so does the set: a member that is already among those seen changes neither. -/
theorem encard_repeatsAfter [DecidableEq α] (seen xs : List α) :
    (repeatsAfter seen xs).encard = (Adventure.repeatedIn seen xs).length := by
  classical
  induction xs generalizing seen with
  | nil => simp [repeatsAfter, Adventure.repeatedIn]
  | cons x xs ih =>
    have hzero : 0 ∈ repeatsAfter seen (x :: xs) ↔ x ∈ seen := by simp [repeatsAfter]
    have hsucc : {i | i + 1 ∈ repeatsAfter seen (x :: xs)} = repeatsAfter (x :: seen) xs :=
      Set.ext fun _ => succ_mem_repeatsAfter_cons
    rw [encard_eq_zero_add_succ, hsucc, Adventure.repeatedIn]
    by_cases h : x ∈ seen
    · rw [if_pos (hzero.mpr h), if_pos h, repeatsAfter_cons_of_mem h, ih, List.length_cons, add_comm]
      rfl
    · rw [if_neg (mt hzero.mp h), if_neg h, ih, zero_add]

theorem nodup_of_repeats_eq_empty {xs : List α} (h : repeats xs = ∅) : xs.Nodup := by
  refine List.nodup_iff_getElem?_ne_getElem?.mpr fun i j hij hj heq => ?_
  have hmem : j ∈ repeats xs := ⟨xs[j], List.getElem?_eq_getElem hj, i, hij, by rw [heq]; simp⟩
  rw [h] at hmem
  exact hmem

/-- Nothing stands at an earlier position too if, and only if, the members of the list are distinct. -/
theorem repeats_eq_empty_iff {xs : List α} : repeats xs = ∅ ↔ xs.Nodup := by
  refine ⟨nodup_of_repeats_eq_empty, fun hnodup => Set.eq_empty_of_forall_notMem ?_⟩
  rintro i ⟨x, hi, j, hji, hj⟩
  have hlength : j < xs.length := (List.getElem?_eq_some_iff.mp hj).1
  have heq : j = i := (List.getElem?_inj hlength hnodup).mp (hj.trans hi.symm)
  omega

end Gamebook
