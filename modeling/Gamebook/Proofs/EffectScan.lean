import Gamebook.Validation
import Mathlib.Data.List.Nodup
import Mathlib.Tactic.SplitIfs

/-!
# The scan for conflicting effects

The effects of a passage are gone through once, from the first to the last, with two sets at hand: the items that
were added so far, and the items that were removed so far. Neither set tells the whole story of an item. An effect
that adds one is held against the set of added items first and against that of removed items after that, an effect
that removes one the other way round, and the first hit ends the scan.

What makes this right is the state that the scan is in as long as nothing has been hit (`Touched.Covers`): the
effects passed are on distinct items, the one set holds exactly the items that some of them add, and the other exactly
those that some of them remove. So the two sets are disjoint (`Covers.disjoint`) and together cover what was passed,
and therefore

* it does not matter which set is asked first: at most one of them holds the item;
* a hit names the one earlier effect on the item by its kind alone (`Covers.note_eq_error_iff`), although the sets
  do not keep effects;
* where there is no hit, the item is new, and the state is the same with the effect passed (`Covers.note_eq_ok`).

These are the facts about one step. A scan is many of them (`Covers.firstConflict_cases`): either it comes to the end,
and all effects are on distinct items, or it stops at an effect whose item is that of exactly one effect before it.
-/

namespace Gamebook.Adventure

/-- How a later effect gets in the way of an earlier one on the same item. The scan does not have the earlier effect
at hand, so this is not what it computes, but what it has to find out. -/
def conflictBetween : (earlier later : Effect) → Conflict
  | .add _, .add _ => .addedTwice
  | .remove _, .remove _ => .removedTwice
  | _, _ => .addedAndRemoved

namespace Touched

/-- The state of a scan that has hit nothing: the effects passed are on distinct items, and each of the two sets holds
the items that the effects of its kind are on. -/
structure Covers (touched : Touched) (passed : List Effect) : Prop where
  added : ∀ id, id ∈ touched.added ↔ .add id ∈ passed
  removed : ∀ id, id ∈ touched.removed ↔ .remove id ∈ passed
  distinct : (passed.map (·.item)).Nodup

namespace Covers

variable {touched touched' : Touched} {passed effects : List Effect} {effect : Effect} {kind : Conflict}
  {id : ItemId}

/-- Before anything is passed, nothing is touched. -/
theorem nil : Covers ⟨[], []⟩ [] := ⟨by simp, by simp, List.nodup_nil⟩

/-- On one item there is at most one of the effects passed. -/
theorem eq_of_item_eq {e f : Effect} (h : Covers touched passed) (he : e ∈ passed) (hf : f ∈ passed)
    (hitem : e.item = f.item) : e = f := List.inj_on_of_nodup_map h.distinct he hf hitem

/-- No item is in both sets. -/
theorem disjoint (h : Covers touched passed) (hadded : id ∈ touched.added) : id ∉ touched.removed := by
  intro hremoved
  have hsame : Effect.add id = Effect.remove id :=
    h.eq_of_item_eq ((h.added id).mp hadded) ((h.removed id).mp hremoved) rfl
  cases hsame

/-! ## One step -/

/-- **A hit finds out the one earlier effect.** -/
theorem note_eq_error_iff (h : Covers touched passed) :
    touched.note effect = .error kind ↔
      ∃ e ∈ passed, e.item = effect.item ∧ kind = conflictBetween e effect := by
  constructor
  · intro hnote
    cases effect with
    | add id =>
      rw [note] at hnote
      split_ifs at hnote with hadded hremoved
      · exact ⟨.add id, (h.added id).mp hadded, rfl, (Except.error.inj hnote).symm⟩
      · exact ⟨.remove id, (h.removed id).mp hremoved, rfl, (Except.error.inj hnote).symm⟩
    | remove id =>
      rw [note] at hnote
      split_ifs at hnote with hremoved hadded
      · exact ⟨.remove id, (h.removed id).mp hremoved, rfl, (Except.error.inj hnote).symm⟩
      · exact ⟨.add id, (h.added id).mp hadded, rfl, (Except.error.inj hnote).symm⟩
  · rintro ⟨e, he, hitem, rfl⟩
    -- The set of the other kind is asked only because that of the same kind does not hold the item.
    cases effect with
    | add id =>
      cases e with
      | add other =>
        obtain rfl : other = id := hitem
        rw [note, if_pos ((h.added other).mpr he)]
        rfl
      | remove other =>
        obtain rfl : other = id := hitem
        have hremoved : other ∈ touched.removed := (h.removed other).mpr he
        rw [note, if_neg fun hadded => h.disjoint hadded hremoved, if_pos hremoved]
        rfl
    | remove id =>
      cases e with
      | add other =>
        obtain rfl : other = id := hitem
        have hadded : other ∈ touched.added := (h.added other).mpr he
        rw [note, if_neg (h.disjoint hadded), if_pos hadded]
        rfl
      | remove other =>
        obtain rfl : other = id := hitem
        rw [note, if_pos ((h.removed other).mpr he)]
        rfl

/-- Where nothing is hit the item is new, and the sets cover one effect more. -/
theorem note_eq_ok (h : Covers touched passed) (hnote : touched.note effect = .ok touched') :
    Covers touched' (passed ++ [effect]) := by
  have hnew : effect.item ∉ passed.map (·.item) := by
    intro hmem
    obtain ⟨e, he, hitem⟩ := List.mem_map.mp hmem
    have herror : touched.note effect = .error (conflictBetween e effect) :=
      h.note_eq_error_iff.mpr ⟨e, he, hitem, rfl⟩
    rw [hnote] at herror
    cases herror
  have hdistinct : ((passed ++ [effect]).map (·.item)).Nodup := by
    rw [List.map_append, List.map_singleton, ← List.concat_eq_append]
    exact h.distinct.concat hnew
  cases effect with
  | add id =>
    rw [note] at hnote
    split_ifs at hnote
    obtain rfl := Except.ok.inj hnote
    exact ⟨fun x => by simp [h.added, or_comm], fun x => by simp [h.removed], hdistinct⟩
  | remove id =>
    rw [note] at hnote
    split_ifs at hnote
    obtain rfl := Except.ok.inj hnote
    exact ⟨fun x => by simp [h.added], fun x => by simp [h.removed, or_comm], hdistinct⟩

/-! ## The whole scan -/

/-- **What a scan comes to**, from a state that covers what was passed. It reaches the end if, and only if, the
effects passed and those to come are all on distinct items; otherwise it stops at the first one on an item touched
before, with the conflict between the two. -/
theorem firstConflict_cases (h : Covers touched passed) (index : Nat) (effects : List Effect) :
    (firstConflict index touched effects = none ∧ ((passed ++ effects).map (·.item)).Nodup) ∨
    ∃ before e f after, effects = before ++ f :: after ∧ ((passed ++ before).map (·.item)).Nodup ∧
      e ∈ passed ++ before ∧ e.item = f.item ∧
      firstConflict index touched effects = some (index + before.length, f.item, conflictBetween e f) := by
  induction effects generalizing touched passed index with
  | nil => exact .inl ⟨rfl, by rw [List.append_nil]; exact h.distinct⟩
  | cons effect effects ih =>
    cases hnote : touched.note effect with
    | error kind =>
      obtain ⟨e, he, hitem, rfl⟩ := h.note_eq_error_iff.mp hnote
      refine .inr ⟨[], e, effect, effects, rfl, ?_, ?_, hitem, ?_⟩
      · rw [List.append_nil]
        exact h.distinct
      · rw [List.append_nil]
        exact he
      · simp only [firstConflict, hnote, List.length_nil, Nat.add_zero]
    | ok touched' =>
      have hnext : firstConflict index touched (effect :: effects) =
          firstConflict (index + 1) touched' effects := by
        simp only [firstConflict, hnote]
      rw [hnext]
      rcases ih (h.note_eq_ok hnote) (index + 1) with ⟨hnone, hdistinct⟩ | ⟨before, e, f, after, rfl, hrest⟩
      · rw [List.append_assoc] at hdistinct
        exact .inl ⟨hnone, hdistinct⟩
      · rw [List.append_assoc] at hrest
        obtain ⟨hdistinct, he, hitem, hfound⟩ := hrest
        refine .inr ⟨effect :: before, e, f, after, rfl, hdistinct, he, hitem, ?_⟩
        rw [hfound, List.length_cons, Nat.add_right_comm, Nat.add_assoc]

end Covers

end Touched

/-- A scan of all effects finds nothing if, and only if, they are on distinct items. -/
theorem firstConflict_eq_none_iff {effects : List Effect} :
    firstConflict 0 ⟨[], []⟩ effects = none ↔ (effects.map (·.item)).Nodup := by
  rcases Touched.Covers.nil.firstConflict_cases 0 effects with
    ⟨hnone, hdistinct⟩ | ⟨before, e, f, after, rfl, -, he, hitem, hfound⟩
  · exact iff_of_true hnone hdistinct
  · rw [hfound]
    refine iff_of_false (Option.some_ne_none _) fun hdistinct => ?_
    rw [List.map_append, List.map_cons, List.nodup_append] at hdistinct
    exact hdistinct.2.2 e.item (List.mem_map_of_mem he) f.item List.mem_cons_self hitem

end Gamebook.Adventure
