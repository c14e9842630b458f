import Gamebook.Adventure

/-!
# What the reader carries

An inventory is a finite set of item ids. It is kept as the list of its members in strictly increasing
order, so two inventories that hold the same items are equal (`Inventory.ext_mem`), whatever the
history that led to them.
-/

namespace Gamebook

/-- Puts an id into its place in an ordered list, unless it is there. -/
def insertSorted (id : ItemId) : List ItemId → List ItemId
  | [] => [id]
  | other :: rest =>
    if id < other then id :: other :: rest
    else if id = other then other :: rest
    else other :: insertSorted id rest

theorem mem_insertSorted {x id : ItemId} {ids : List ItemId} :
    x ∈ insertSorted id ids ↔ x = id ∨ x ∈ ids := by
  induction ids with
  | nil => simp [insertSorted]
  | cons other rest ih =>
    by_cases hlt : id < other
    · simp [insertSorted, hlt]
    · by_cases heq : id = other
      · subst heq
        simp [insertSorted]
      · simp [insertSorted, hlt, heq, ih, or_left_comm]

theorem pairwise_insertSorted {id : ItemId} {ids : List ItemId} (h : ids.Pairwise (· < ·)) :
    (insertSorted id ids).Pairwise (· < ·) := by
  induction ids with
  | nil => simp [insertSorted]
  | cons other rest ih =>
    obtain ⟨hhead, hrest⟩ := List.pairwise_cons.mp h
    by_cases hlt : id < other
    · simp only [insertSorted, hlt, if_true]
      refine List.pairwise_cons.mpr ⟨fun x hx => ?_, h⟩
      rcases List.mem_cons.mp hx with rfl | hx
      · exact hlt
      · exact String.lt_trans hlt (hhead x hx)
    · by_cases heq : id = other
      · subst heq
        simpa [insertSorted] using h
      · simp only [insertSorted, hlt, heq, if_false]
        refine List.pairwise_cons.mpr ⟨fun x hx => ?_, ih hrest⟩
        rcases mem_insertSorted.mp hx with rfl | hx
        · rcases String.le_total x other with hle | hle
          · exact absurd (String.le_antisymm hle (String.not_lt.mp hlt)) heq
          · refine Classical.byContradiction fun hn => heq ?_
            exact String.le_antisymm (String.not_lt.mp hn) hle
        · exact hhead x hx

/-- Two strictly increasing lists with the same members are equal. -/
theorem eq_of_pairwise_of_mem_iff {xs ys : List ItemId} (hx : xs.Pairwise (· < ·))
    (hy : ys.Pairwise (· < ·)) (h : ∀ id, id ∈ xs ↔ id ∈ ys) : xs = ys := by
  induction xs generalizing ys with
  | nil =>
    cases ys with
    | nil => rfl
    | cons y _ => exact absurd ((h y).mpr (List.mem_cons_self ..)) (List.not_mem_nil)
  | cons x xs ih =>
    cases ys with
    | nil => exact absurd ((h x).mp (List.mem_cons_self ..)) (List.not_mem_nil)
    | cons y ys =>
      obtain ⟨hxhead, hxrest⟩ := List.pairwise_cons.mp hx
      obtain ⟨hyhead, hyrest⟩ := List.pairwise_cons.mp hy
      have hxy : x = y := by
        rcases List.mem_cons.mp ((h x).mp (List.mem_cons_self ..)) with heq | hin
        · exact heq
        · rcases List.mem_cons.mp ((h y).mpr (List.mem_cons_self ..)) with heq | hin'
          · exact heq.symm
          · exact absurd (hyhead x hin) (String.lt_asymm (hxhead y hin'))
      subst hxy
      refine congrArg (x :: ·) (ih hxrest hyrest fun id => ⟨fun hid => ?_, fun hid => ?_⟩)
      · rcases List.mem_cons.mp ((h id).mp (List.mem_cons_of_mem _ hid)) with rfl | hin
        · exact absurd (hxhead id hid) (String.lt_irrefl id)
        · exact hin
      · rcases List.mem_cons.mp ((h id).mpr (List.mem_cons_of_mem _ hid)) with rfl | hin
        · exact absurd (hyhead id hid) (String.lt_irrefl id)
        · exact hin

/-- A set of items, listed in strictly increasing order of their ids. -/
structure Inventory where
  ids : List ItemId
  sorted : ids.Pairwise (· < ·) := by simp
deriving DecidableEq, Repr

namespace Inventory

instance : Membership ItemId Inventory := ⟨fun inventory id => id ∈ inventory.ids⟩

instance (id : ItemId) (inventory : Inventory) : Decidable (id ∈ inventory) :=
  inferInstanceAs (Decidable (id ∈ inventory.ids))

theorem mem_def {id : ItemId} {inventory : Inventory} : id ∈ inventory ↔ id ∈ inventory.ids := Iff.rfl

/-- Nothing carried. -/
def empty : Inventory := { ids := [] }

instance : Inhabited Inventory := ⟨empty⟩

/-- Takes an item up. -/
def insert (inventory : Inventory) (id : ItemId) : Inventory where
  ids := insertSorted id inventory.ids
  sorted := pairwise_insertSorted inventory.sorted

/-- Puts an item down. -/
def erase (inventory : Inventory) (id : ItemId) : Inventory where
  ids := inventory.ids.filter (· ≠ id)
  sorted := inventory.sorted.filter _

/-- Whether an item is carried. -/
def contains (inventory : Inventory) (id : ItemId) : Bool := decide (id ∈ inventory)

/-- The number of items carried. -/
def size (inventory : Inventory) : Nat := inventory.ids.length

/-- Whether nothing is carried. -/
def isEmpty (inventory : Inventory) : Bool := inventory.ids.isEmpty

/-- The inventory that holds the items of a list, in whatever order they come. -/
def ofList (ids : List ItemId) : Inventory := ids.foldl insert empty

@[simp] theorem not_mem_empty (id : ItemId) : id ∉ empty := by
  simp [mem_def, empty]

@[simp] theorem mem_insert {x id : ItemId} {inventory : Inventory} :
    x ∈ inventory.insert id ↔ x = id ∨ x ∈ inventory := mem_insertSorted

@[simp] theorem mem_erase {x id : ItemId} {inventory : Inventory} :
    x ∈ inventory.erase id ↔ x ∈ inventory ∧ x ≠ id := by
  simp [mem_def, erase]

theorem ext_mem {x y : Inventory} (h : ∀ id, id ∈ x ↔ id ∈ y) : x = y := by
  cases x; cases y
  congr
  exact eq_of_pairwise_of_mem_iff ‹_› ‹_› h

/-! ## Effects -/

/-- One effect. Adding what is carried and removing what is not change nothing. -/
def apply (inventory : Inventory) : Effect → Inventory
  | .add id => inventory.insert id
  | .remove id => inventory.erase id

/-- Effects one after the other. -/
def applyAll (inventory : Inventory) (effects : List Effect) : Inventory :=
  effects.foldl apply inventory

@[simp] theorem applyAll_nil (inventory : Inventory) : inventory.applyAll [] = inventory := rfl

@[simp] theorem applyAll_cons (inventory : Inventory) (e : Effect) (es : List Effect) :
    inventory.applyAll (e :: es) = (inventory.apply e).applyAll es := rfl

/-! ## Listing -/

/-- The names of the declared items that are carried, in the order of the document, and after them
the ids that the document does not declare, in increasing order. -/
def itemNames (inventory : Inventory) (a : Adventure) : List String :=
  (a.items.filter fun item => inventory.contains item.id).map (·.name) ++
    inventory.ids.filter fun id => (a.item? id).isNone

/-- One line about what is carried. -/
def summary (inventory : Inventory) (a : Adventure) : String :=
  if inventory.isEmpty then "No items yet" else ", ".intercalate (inventory.itemNames a)

end Inventory

end Gamebook
