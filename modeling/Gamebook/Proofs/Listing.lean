import Gamebook.Proofs.EffectConflicts
import Gamebook.Proofs.Inventory
import Gamebook.Proofs.Text.ByteOrder
import Gamebook.Proofs.Validation

/-!
# How an inventory is listed

The listing has two parts: the carried items that the document declares, in its order, and the carried ids that it
does not declare, in increasing order. The one part is sifted from the document and the other from the inventory;
where no id is declared twice, each carried id is in exactly one of them, and once (`mem_entries`, `nodup_entries`).
An item that is declared twice would be listed twice, and the checks do not let that pass.

Ids that are not declared come from records, which are not checked against the adventure. They are listed by their ids
for want of a name, and nothing that is carried is left out.

A listing can also be made of the members of an inventory as they come, in any order (`listed`). It is the same
listing (`itemNames_eq_listed`), so nothing but the members counts. An inventory is kept in increasing order here; the
program keeps it in a hash table, gives its members in the order of the table, and sorts those that are not declared.
That a sorted list does not depend on what it was sorted from is a fact about strict orders: two lists with the same
members, both strictly increasing, are equal (`mergeSort_eq_of_perm`).

The order of ids is that of their bytes, which is what increasing means in the statement. Texts are compared by
characters here, and that the two orders agree is shown where the encoding is.
-/

namespace Gamebook

namespace Adventure

variable {a : Adventure} {id : ItemId}

theorem nodup_itemIds (h : a.isPlayable = true) : a.itemIds.Nodup :=
  repeats_eq_empty_iff.mp (a.isPlayable_iff_flawless.mp h).itemIds

/-- No item is found under an id if, and only if, the id is not declared. -/
theorem item?_isNone_iff : (a.item? id).isNone = true ↔ id ∉ a.itemIds := by
  simp [item?, itemIds]

end Adventure

namespace Inventory

variable (inventory : Inventory) (a : Adventure)

/-! ## The two parts

A listing goes over the items of the document first and over the inventory after that. The parts are described by the
ids in them: those that are carried and declared, and those that are carried and not declared. -/

/-- The carried items that the document declares, in its order. -/
def declared : List Item := a.items.filter fun item => inventory.contains item.id

/-- The carried ids that the document does not declare, in increasing order. -/
def undeclared : List ItemId := inventory.ids.filter fun id => (a.item? id).isNone

theorem itemNames_eq : inventory.itemNames a = (inventory.declared a).map (·.name) ++ inventory.undeclared a := rfl

/-- The ids of what is listed, entry by entry. -/
def entries : List ItemId := (inventory.declared a).map (·.id) ++ inventory.undeclared a

variable {inventory a} {id : ItemId}

theorem mem_map_declared : id ∈ (inventory.declared a).map (·.id) ↔ id ∈ inventory ∧ id ∈ a.itemIds := by
  simp only [declared, contains, Adventure.itemIds, List.mem_map, List.mem_filter, decide_eq_true_eq]
  constructor
  · rintro ⟨item, ⟨hitem, hheld⟩, rfl⟩
    exact ⟨hheld, item, hitem, rfl⟩
  · rintro ⟨hheld, item, hitem, rfl⟩
    exact ⟨item, ⟨hitem, hheld⟩, rfl⟩

theorem mem_undeclared : id ∈ inventory.undeclared a ↔ id ∈ inventory ∧ id ∉ a.itemIds := by
  rw [undeclared, List.mem_filter, Adventure.item?_isNone_iff, mem_def]

theorem pairwise_undeclared : (inventory.undeclared a).Pairwise (· < ·) := inventory.sorted.filter _

theorem nodup_ids (inventory : Inventory) : inventory.ids.Nodup := inventory.sorted.imp String.ne_of_lt

/-- What is carried has an entry, and nothing else has. -/
theorem mem_entries : id ∈ inventory.entries a ↔ id ∈ inventory := by
  rw [entries, List.mem_append, mem_map_declared, mem_undeclared]
  tauto

/-- Nothing has two entries, unless it is declared twice. -/
theorem nodup_entries (hdistinct : a.itemIds.Nodup) : (inventory.entries a).Nodup := by
  refine List.nodup_append.mpr ⟨?_, inventory.nodup_ids.filter _, ?_⟩
  · exact (List.filter_sublist.map _).nodup hdistinct
  · rintro id hdeclared _ hundeclared rfl
    exact (mem_undeclared.mp hundeclared).2 (mem_map_declared.mp hdeclared).2

/-! ## Members in any order -/

/-- The listing of some ids, in whatever order they come: the names of the declared items among them, in the order
of the document, and after them the others, sorted. -/
def listed (held : List ItemId) (a : Adventure) : List String :=
  (a.items.filter fun item => item.id ∈ held).map (·.name) ++
    (held.filter fun id => id ∉ a.itemIds).mergeSort fun x y => x ≤ y

/-- A sorted list of distinct texts is what it is sorted to from any order. -/
theorem mergeSort_eq_of_perm {xs ys : List String} (hperm : xs.Perm ys) (hys : ys.Pairwise (· < ·)) :
    (xs.mergeSort fun x y => x ≤ y) = ys := by
  have hsorted : (xs.mergeSort fun x y => x ≤ y).Pairwise (· ≤ ·) := by
    have hpairwise : (xs.mergeSort fun x y => x ≤ y).Pairwise fun x y => decide (x ≤ y) = true := by
      refine List.pairwise_mergeSort (fun x y z hxy hyz => ?_) (fun x y => ?_) xs
      · exact decide_eq_true (String.le_trans (of_decide_eq_true hxy) (of_decide_eq_true hyz))
      · simpa using String.le_total x y
    exact hpairwise.imp of_decide_eq_true
  refine List.Perm.eq_of_pairwise ?_ hsorted (hys.imp le_of_lt) ((List.mergeSort_perm ..).trans hperm)
  intro x y _ _ hxy hyx
  exact String.le_antisymm hxy hyx

/-- The members of an inventory are listed alike in whatever order they come. The first part asks of each declared
item only whether it is a member; the second is sorted. -/
theorem itemNames_eq_listed {held : List ItemId} (hnodup : held.Nodup) (hheld : ∀ id, id ∈ held ↔ id ∈ inventory) :
    inventory.itemNames a = listed held a := by
  have hdeclared : (a.items.filter fun item => item.id ∈ held) = inventory.declared a :=
    List.filter_congr fun item _ => decide_eq_decide.mpr (hheld item.id)
  have hperm : (held.filter fun id => id ∉ a.itemIds).Perm (inventory.undeclared a) := by
    refine (List.perm_ext_iff_of_nodup (hnodup.filter _) (inventory.nodup_ids.filter _)).mpr fun id => ?_
    show _ ↔ id ∈ inventory.undeclared a
    rw [List.mem_filter, decide_eq_true_eq, hheld, mem_undeclared]
  rw [listed, hdeclared, mergeSort_eq_of_perm hperm pairwise_undeclared, itemNames_eq]

/-- **The listing loses nothing and lists nothing twice.** No id is declared twice in an adventure that can be played.
Then the listing of any inventory has exactly one entry for each item that is carried: first the names of the declared
items, in the order of the document, and then the other ids, whose bytes are strictly increasing. The same list is
made of the members in whatever order they come; so inventories that hold the same items, however they came to be, are
listed and summarized alike. The first part is the only one that asks for an adventure that can be played, and the
last needs nothing of the adventure at all. -/
theorem listing_exact (a : Adventure) :
    (a.isPlayable = true → a.itemIds.Nodup) ∧
    (a.itemIds.Nodup → ∀ inventory : Inventory, ∃ (declared : List Item) (undeclared : List ItemId),
      inventory.itemNames a = declared.map (·.name) ++ undeclared ∧
      declared.Sublist a.items ∧
      (∀ id ∈ undeclared, id ∉ a.itemIds) ∧
      (undeclared.map Text.bytes).Pairwise (· < ·) ∧
      (declared.map (·.id) ++ undeclared).Nodup ∧
      ∀ id, id ∈ declared.map (·.id) ++ undeclared ↔ id ∈ inventory) ∧
    (∀ (inventory : Inventory) (held : List ItemId), held.Nodup → (∀ id, id ∈ held ↔ id ∈ inventory) →
      inventory.itemNames a = listed held a) ∧
    ∀ x y : Inventory, (∀ id, id ∈ x ↔ id ∈ y) → x.itemNames a = y.itemNames a ∧ x.summary a = y.summary a := by
  refine ⟨Adventure.nodup_itemIds, fun hdistinct inventory => ?_, fun _ _ => itemNames_eq_listed,
    fun x y hsame => ?_⟩
  · refine ⟨inventory.declared a, inventory.undeclared a, itemNames_eq .., List.filter_sublist,
      fun id hid => (mem_undeclared.mp hid).2, ?_, nodup_entries hdistinct, fun id => mem_entries⟩
    exact List.pairwise_map.mpr (pairwise_undeclared.imp Text.lt_iff_bytes_lt.mp)
  · rw [ext_mem hsame]
    exact ⟨rfl, rfl⟩

/-- The lamp is declared in the cellar, the rope and the wax are not. They are listed alike whether they were loaded
or taken up, with a coin taken up and put down or a lamp put down and taken up on the way. -/
theorem listing_exact_cellar :
    (∃ (declared : List Item) (undeclared : List ItemId),
      (ofList ["wax", "lamp", "rope"]).itemNames .cellar = declared.map (·.name) ++ undeclared ∧
      (declared.map (·.id) ++ undeclared).Nodup) ∧
    (ofList ["wax", "lamp", "rope"]).itemNames .cellar = listed ["rope", "wax", "lamp"] .cellar ∧
    ((ofList ["wax", "lamp", "rope"]).applyAll [.add "coin", .remove "coin"]).summary .cellar =
      (empty.applyAll [.add "rope", .add "wax", .remove "lamp", .add "lamp"]).summary .cellar := by
  obtain ⟨hplayable, hexact, hlisted, hsame⟩ := listing_exact .cellar
  refine ⟨?_, hlisted _ _ (by decide) ?_, (hsame _ _ ?_).2⟩
  · obtain ⟨declared, undeclared, hnames, -, -, -, hnodup, -⟩ :=
      hexact (hplayable Adventure.cellar_isPlayable) (ofList ["wax", "lamp", "rope"])
    exact ⟨declared, undeclared, hnames, hnodup⟩
  · intro id
    rw [mem_ofList]
    simp only [List.mem_cons]
    tauto
  · intro id
    have hequal : (ofList ["wax", "lamp", "rope"]).applyAll [.add "coin", .remove "coin"] =
        empty.applyAll [.add "rope", .add "wax", .remove "lamp", .add "lamp"] := by decide
    rw [hequal]

/-- The declared lamp comes first, under its name. -/
example : (ofList ["wax", "lamp", "rope"]).summary .cellar = "Lamp, rope, wax" := by decide

end Inventory

end Gamebook
