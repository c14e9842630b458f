import Gamebook.Proofs.EffectConflicts
import Gamebook.Proofs.Inventory

/-!
# What the order of effects decides

Effects are applied one after the other. Of the effects on one item the last decides whether it is carried in
the end, and the others do not matter (`mem_applyAll_iff`). So the order matters only among effects on one
item. Where the checks find no conflict there is at most one effect on each, which is the last in any order:
what is removed is gone, what is added is there, and the rest is as it was (`effects_settle`).

The law of the last effect holds of all effects, conflicting or not, and the rest follows from it. It is proved by
induction from the end of the list, where a further effect either is the last on the item in question or has nothing
to do with it (`LastOn.concat_of_eq`, `LastOn.concat_of_ne`). An induction from the front would need the law for what
comes behind, and for an inventory that has changed. To apply effects twice is to apply them once for the same
reason: the second time the last effect on each item does what it has already done.

For effects on distinct items the last on an item is any effect on it (`LastOn.iff_mem`), and that is a statement
about membership, in which the order has disappeared. So there is no need to exchange neighbouring effects and to
follow a permutation step by step.
-/

namespace Gamebook

/-- The last of some effects that touches an item. -/
structure LastOn (effects : List Effect) (id : ItemId) (e : Effect) : Prop where
  touches : e.item = id
  last : ∃ before after, effects = before ++ e :: after ∧ ∀ f ∈ after, f.item ≠ id

namespace LastOn

variable {effects : List Effect} {id : ItemId} {e f : Effect}

theorem mem (h : LastOn effects id e) : e ∈ effects := by
  obtain ⟨before, after, rfl, -⟩ := h.last
  simp

theorem not_nil : ¬ LastOn [] id e := by
  intro h
  exact List.not_mem_nil h.mem

/-- The last effect is the further one, or one before it; then the further one is on another item. -/
theorem of_concat (h : LastOn (effects ++ [f]) id e) : e = f ∨ f.item ≠ id ∧ LastOn effects id e := by
  obtain ⟨he, before, after, hsplit, hafter⟩ := h
  rcases List.eq_nil_or_concat after with rfl | ⟨after, g, rfl⟩
  · obtain ⟨-, hsame⟩ := List.append_inj' hsplit rfl
    exact .inl (List.singleton_inj.mp hsame).symm
  · rw [List.concat_eq_append, ← List.cons_append, ← List.append_assoc] at hsplit
    obtain ⟨hinit, hsame⟩ := List.append_inj' hsplit rfl
    obtain rfl : f = g := List.singleton_inj.mp hsame
    refine .inr ⟨hafter f (by simp), he, before, after, hinit, ?_⟩
    intro g hg
    exact hafter g (by simp [hg])

/-- A further effect on the item is the last on it. -/
theorem concat_of_eq (hf : f.item = id) : LastOn (effects ++ [f]) id e ↔ e = f := by
  constructor
  · intro h
    rcases h.of_concat with hsame | ⟨hother, -⟩
    · exact hsame
    · exact absurd hf hother
  · rintro rfl
    exact ⟨hf, effects, [], rfl, by simp⟩

/-- A further effect on another item does not matter. -/
theorem concat_of_ne (hf : f.item ≠ id) : LastOn (effects ++ [f]) id e ↔ LastOn effects id e := by
  constructor
  · intro h
    rcases h.of_concat with rfl | ⟨-, hlast⟩
    · exact absurd h.touches hf
    · exact hlast
  · rintro ⟨he, before, after, rfl, hafter⟩
    refine ⟨he, before, after ++ [f], by simp, ?_⟩
    intro g hg
    rcases List.mem_append.mp hg with hg | hg
    · exact hafter g hg
    · rw [List.mem_singleton.mp hg]
      exact hf

/-- Among effects on distinct items, each is the last on its own. -/
theorem iff_mem (hdistinct : (effects.map (·.item)).Nodup) :
    LastOn effects id e ↔ e ∈ effects ∧ e.item = id := by
  constructor
  · intro h
    exact ⟨h.mem, h.touches⟩
  · rintro ⟨hmem, he⟩
    obtain ⟨before, after, rfl⟩ := List.append_of_mem hmem
    refine ⟨he, before, after, rfl, ?_⟩
    intro f hf hitem
    rw [List.map_append, List.map_cons] at hdistinct
    apply (List.nodup_cons.mp (List.nodup_append.mp hdistinct).2.1).1
    exact List.mem_map.mpr ⟨f, hf, hitem.trans he.symm⟩

end LastOn

namespace Inventory

variable {id : ItemId} {inventory : Inventory} {e : Effect} {effects : List Effect}

/-! ## One effect -/

theorem mem_apply_of_eq (h : e.item = id) : id ∈ inventory.apply e ↔ e = .add id := by
  cases e <;> simp_all [apply, Effect.item]

theorem mem_apply_of_ne (h : e.item ≠ id) : id ∈ inventory.apply e ↔ id ∈ inventory := by
  cases e <;> simp_all [apply, Effect.item, Ne.symm]

/-! ## Many effects -/

/-- **The last effect on an item decides.** It is carried in the end if that effect adds it, or if there is no
effect on it and it was carried before. By induction from the end, along which the last effect is the last of the
list or that of the list without it. -/
theorem mem_applyAll_iff :
    id ∈ inventory.applyAll effects ↔
      LastOn effects id (.add id) ∨ (∀ e ∈ effects, e.item ≠ id) ∧ id ∈ inventory := by
  induction effects using List.reverseRecOn with
  | nil => simp [LastOn.not_nil]
  | append_singleton effects e ih =>
    rw [applyAll_append, applyAll_cons, applyAll_nil]
    by_cases hitem : e.item = id
    · rw [mem_apply_of_eq hitem, LastOn.concat_of_eq hitem]
      constructor
      · intro hadd
        exact .inl hadd.symm
      · rintro (hadd | ⟨hnone, -⟩)
        · exact hadd.symm
        · exact absurd hitem (hnone e (by simp))
    · rw [mem_apply_of_ne hitem, LastOn.concat_of_ne hitem, ih]
      simp [or_imp, forall_and, hitem]

/-- Once some effects are applied, they change nothing. -/
theorem applyAll_applyAll : (inventory.applyAll effects).applyAll effects = inventory.applyAll effects := by
  apply ext_mem
  intro id
  rw [mem_applyAll_iff, mem_applyAll_iff]
  tauto

/-- Of effects on distinct items, each decides on its own. An item that some effect removes has no other effect on
it, so it is not added either. -/
theorem mem_applyAll_of_distinct (hdistinct : (effects.map (·.item)).Nodup) :
    id ∈ inventory.applyAll effects ↔
      (id ∈ inventory ∧ .remove id ∉ effects) ∨ .add id ∈ effects := by
  have hadded : LastOn effects id (.add id) ↔ .add id ∈ effects := by
    simp [LastOn.iff_mem hdistinct, Effect.item]
  rw [mem_applyAll_iff, hadded]
  by_cases hadd : .add id ∈ effects
  · simp [hadd]
  · have hnone : (∀ e ∈ effects, e.item ≠ id) ↔ .remove id ∉ effects := by
      constructor
      · intro hnone hremove
        exact hnone _ hremove rfl
      · intro hremove e he hitem
        cases e with
        | add other => exact hadd (hitem ▸ he)
        | remove other => exact hremove (hitem ▸ he)
    simp only [hadd, hnone, false_or, or_false, and_comm]

open Adventure (checkEffects checkEffects_eq_nil_iff)

/-- **What effects come to.** If the checks find no conflict among the effects of a passage, these effects give
the same inventory in every order: what was carried, without what they remove, and with what they add. Of any
effects whatever, the last on an item decides, so to apply them twice is to apply them once. The inventory is any, and
need not hold what is removed or lack what is added. -/
theorem effects_settle (inventory : Inventory) :
    (∀ p : Passage, checkEffects p = [] → ∀ effects, effects.Perm p.effects →
      inventory.applyAll effects = inventory.applyAll p.effects ∧
      {id | id ∈ inventory.applyAll effects} =
        ({id | id ∈ inventory} \ {id | .remove id ∈ p.effects}) ∪ {id | .add id ∈ p.effects}) ∧
    ∀ effects : List Effect,
      (∀ id, id ∈ inventory.applyAll effects ↔
        LastOn effects id (.add id) ∨ (∀ e ∈ effects, e.item ≠ id) ∧ id ∈ inventory) ∧
      (inventory.applyAll effects).applyAll effects = inventory.applyAll effects := by
  refine ⟨?_, fun effects => ⟨fun id => mem_applyAll_iff, applyAll_applyAll⟩⟩
  intro p hquiet effects hperm
  have hdistinct : (p.effects.map (·.item)).Nodup := checkEffects_eq_nil_iff.mp hquiet
  have hdistinct' : (effects.map (·.item)).Nodup := (hperm.map _).nodup_iff.mpr hdistinct
  have hmem : ∀ id, id ∈ inventory.applyAll effects ↔
      (id ∈ inventory ∧ .remove id ∉ p.effects) ∨ .add id ∈ p.effects := by
    intro id
    rw [mem_applyAll_of_distinct hdistinct', hperm.mem_iff, hperm.mem_iff]
  constructor
  · apply ext_mem
    intro id
    rw [hmem, mem_applyAll_of_distinct hdistinct]
  · ext id
    exact hmem id

/-- A passage that takes the coin and gives the map. -/
def gate : Passage where
  id := 3
  paragraphs := ["The keeper holds out a hand."]
  choices := []
  effects := [.remove "coin", .add "map"]
  notes := none
  endingType := some "victory"

/-- It is the same whether the map is given before the coin is taken. -/
theorem effects_settle_gate :
    (ofList ["coin", "lamp"]).applyAll [.add "map", .remove "coin"] =
      (ofList ["coin", "lamp"]).applyAll gate.effects :=
  ((effects_settle _).1 gate (by decide) _ (.swap _ _ [])).1

/-- With a conflict it is not: the coin that is given and taken is gone, the one taken and given is there. -/
example : empty.applyAll [.add "coin", .remove "coin"] ≠ empty.applyAll [.remove "coin", .add "coin"] := by
  decide

end Inventory

end Gamebook
