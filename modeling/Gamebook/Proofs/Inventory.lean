import Gamebook.Inventory

/-!
# What effects and lists do to an inventory

An inventory is a set of items, kept as a list in strictly increasing order. Nothing here looks at that list:
an inventory is asked what it holds, and two that hold the same are equal. So each lemma is about membership.

* An inventory that is made of a list holds what the list holds (`mem_ofList`), and is made again of its own
  items in any order (`ofList_of_perm`). A record states the items in the order in which a hash set happens to
  give them, so this is what lets a record be read without asking how it was ordered.
* Effects add nothing but the items they name (`mem_of_mem_applyAll`). That is all the play has to know of them
  to keep to declared items. What a list of effects settles exactly, and when its order does not matter, is said
  where conflicts of effects are.
* Effects in two lists are applied one list after the other (`applyAll_append`), so a play that enters one
  passage after another has applied the effects of all of them.
-/

namespace Gamebook.Inventory

/-! ## Items of a list

A list of ids is taken into an inventory one by one. What comes of it is known by its members alone, since there is one
increasing list of them only. -/

theorem mem_foldl_insert {id : ItemId} (ids : List ItemId) (inventory : Inventory) :
    id ∈ ids.foldl insert inventory ↔ id ∈ inventory ∨ id ∈ ids := by
  induction ids generalizing inventory with
  | nil => simp
  | cons other ids ih => simp [ih, or_left_comm, or_assoc]

theorem mem_ofList {id : ItemId} {ids : List ItemId} : id ∈ ofList ids ↔ id ∈ ids := by
  simp [ofList, mem_foldl_insert]

/-- The items of an inventory make it up again, in whatever order they come. Order and repetition are lost on
the way into an inventory, and an inventory is determined by what it holds. -/
theorem ofList_of_perm {inventory : Inventory} {ids : List ItemId} (h : ids.Perm inventory.ids) :
    ofList ids = inventory := by
  refine ext_mem fun id => ?_
  rw [mem_ofList, mem_def, h.mem_iff]

/-! ## Effects

What effects do to one item is decided by the effects on it, and all that callers ask here is where an item can come
from: it was carried before, or one of the effects names it. -/

/-- What is carried behind one effect was carried before, or the effect adds it. -/
theorem added_of_mem_apply {item : ItemId} {inventory : Inventory} {e : Effect}
    (h : item ∈ inventory.apply e) : item ∈ inventory ∨ e = .add item := by
  cases e with
  | add id =>
    rcases mem_insert.mp h with rfl | hmem
    · exact .inr rfl
    · exact .inl hmem
  | remove id => exact .inl (mem_erase.mp h).1

theorem added_of_mem_applyAll {item : ItemId} {es : List Effect} {inventory : Inventory}
    (h : item ∈ inventory.applyAll es) : item ∈ inventory ∨ .add item ∈ es := by
  induction es generalizing inventory with
  | nil => exact .inl h
  | cons e es ih =>
    rcases ih h with hmem | hadd
    · rcases added_of_mem_apply hmem with hmem | rfl
      · exact .inl hmem
      · exact .inr List.mem_cons_self
    · exact .inr (List.mem_cons_of_mem _ hadd)

/-- Effects add nothing but the items they name. Whether an effect adds its item or removes it is not asked: the
bound holds of both, and callers only want the items of a play to be among those it was given or met. -/
theorem mem_of_mem_applyAll {item : ItemId} {es : List Effect} {inventory : Inventory}
    (h : item ∈ inventory.applyAll es) : item ∈ inventory ∨ ∃ e ∈ es, item = e.item := by
  rcases added_of_mem_applyAll h with hmem | hadd
  · exact .inl hmem
  · exact .inr ⟨.add item, hadd, rfl⟩

theorem applyAll_append (inventory : Inventory) (es fs : List Effect) :
    inventory.applyAll (es ++ fs) = (inventory.applyAll es).applyAll fs := by
  simp [applyAll, List.foldl_append]

end Gamebook.Inventory
