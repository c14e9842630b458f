import Gamebook.Table

/-!
# The order of tables

A table holds values under names, in a list. The records of a store, the files of a directory and the counts of a
playtest are such tables. A table that is written to and erased from keeps its names in strictly increasing order
(`Sorted`), and so names nothing twice; every table of the program was made from nothing in this way.

What writing and erasing do to what is found under a name is the same for any list of named values. What needs the
order is the other reading of a table, as a list of pairs: that a pair is in the list, and that its value is found
under its name, are the same where no name stands twice (`Sorted.get?_of_mem`). In any table at all, the names are
those under which something is found.

`total` is for the counts of a playtest, which are kept in tables of numbers: writing a number changes the sum by
what it is more than the number that stood there, so a sum of counts can be followed from step to step without
opening the table.
-/

namespace Gamebook.Table

variable {α : Type} {table : Table α}

/-- The names stand in strictly increasing order. -/
def Sorted (table : Table α) : Prop := table.names.Pairwise (· < ·)

theorem sorted_nil : Sorted ([] : Table α) := List.Pairwise.nil

theorem mem_names_iff {name : String} : name ∈ table.names ↔ ∃ value, get? name table = some value := by
  induction table with
  | nil => simp [names]
  | cons entry rest ih =>
    obtain ⟨n, v⟩ := entry
    show name ∈ n :: names rest ↔ _
    rw [List.mem_cons, ih]
    by_cases hn : n = name
    · simp [get?, hn]
    · simp [get?, hn, Ne.symm hn]

theorem mem_names_put {name other : String} {value : α} :
    other ∈ names (put name value table) ↔ other = name ∨ other ∈ table.names := by
  rw [mem_names_iff, get?_put, mem_names_iff]
  by_cases hn : name = other
  · simp [hn]
  · simp [hn, Ne.symm hn]

/-- Writing adds nothing but what is written. -/
theorem mem_of_mem_put {name : String} {value : α} {entry : String × α}
    (h : entry ∈ put name value table) : entry = (name, value) ∨ entry ∈ table := by
  induction table with
  | nil => exact .inl (List.mem_singleton.mp h)
  | cons first rest ih =>
    obtain ⟨n, v⟩ := first
    unfold put at h
    split at h
    · exact (List.mem_cons.mp h).imp_right (List.mem_cons_of_mem _)
    · split at h
      · exact List.mem_cons.mp h
      · rcases List.mem_cons.mp h with rfl | hrest
        · exact .inr List.mem_cons_self
        · exact (ih hrest).imp_right (List.mem_cons_of_mem _)

/-- Writing keeps the order. -/
theorem Sorted.put (h : table.Sorted) (name : String) (value : α) : (put name value table).Sorted := by
  induction table with
  | nil => exact List.pairwise_singleton ..
  | cons entry rest ih =>
    obtain ⟨n, v⟩ := entry
    have hcons : (∀ other ∈ names rest, n < other) ∧ Sorted rest := List.pairwise_cons.mp h
    unfold Table.put
    by_cases hn : n = name
    · subst hn
      rw [if_pos rfl]
      exact h
    · rw [if_neg hn]
      by_cases hlt : name < n
      · rw [if_pos hlt]
        refine List.pairwise_cons.mpr ⟨fun other hother => ?_, h⟩
        rcases List.mem_cons.mp hother with rfl | hother
        · exact hlt
        · exact String.lt_trans hlt (hcons.1 other hother)
      · rw [if_neg hlt]
        refine List.pairwise_cons.mpr ⟨fun other hother => ?_, ih hcons.2⟩
        rcases mem_names_put.mp hother with rfl | hother
        · exact Std.lt_of_le_of_ne (String.not_lt.mp hlt) hn
        · exact hcons.1 other hother

/-- Erasing keeps the order. -/
theorem Sorted.erase (h : table.Sorted) (name : String) : (erase name table).Sorted :=
  List.Pairwise.sublist (List.filter_sublist.map _) h

theorem Sorted.nodup (h : table.Sorted) : table.names.Nodup := List.Pairwise.imp String.ne_of_lt h

/-- A value is found under its name, if no name stands twice. -/
theorem get?_of_mem (h : table.names.Nodup) {name : String} {value : α} (hmem : (name, value) ∈ table) :
    get? name table = some value := by
  induction table with
  | nil => cases hmem
  | cons entry rest ih =>
    obtain ⟨n, v⟩ := entry
    have hcons : n ∉ names rest ∧ (names rest).Nodup := List.nodup_cons.mp h
    rcases List.mem_cons.mp hmem with heq | hrest
    · cases heq
      simp [get?]
    · have hne : n ≠ name := by
        rintro rfl
        exact hcons.1 (List.mem_map_of_mem hrest)
      rw [get?, if_neg hne]
      exact ih hcons.2 hrest

/-- A value is found under its name. -/
theorem Sorted.get?_of_mem (h : table.Sorted) {name : String} {value : α} (hmem : (name, value) ∈ table) :
    get? name table = some value := Table.get?_of_mem h.nodup hmem

/-- Nothing stands under a name that comes before all others. -/
theorem get?_eq_none_of_lt {name : String} (h : ∀ other ∈ table.names, name < other) :
    get? name table = none := by
  cases hget : get? name table with
  | none => rfl
  | some value =>
    have hlt : name < name := h name (mem_names_iff.mpr ⟨value, hget⟩)
    exact absurd hlt (String.lt_irrefl name)

/-- The sum of the numbers in a table. -/
def total : Table Nat → Nat
  | [] => 0
  | entry :: rest => entry.2 + total rest

@[simp] theorem total_nil : total [] = 0 := rfl

@[simp] theorem total_cons (entry : String × Nat) (rest : Table Nat) :
    total (entry :: rest) = entry.2 + total rest := rfl

theorem le_total {table : Table Nat} {entry : String × Nat} (h : entry ∈ table) :
    entry.2 ≤ total table := by
  induction table with
  | nil => cases h
  | cons first rest ih =>
    rw [total_cons]
    rcases List.mem_cons.mp h with rfl | hrest
    · exact Nat.le_add_right _ _
    · exact Nat.le_add_left_of_le (ih hrest)

/-- Writing a number under a name changes the sum by what it is more than the number that stood there. The old
number is added on the left and not taken away on the right, since subtraction of natural numbers would lose it. -/
theorem Sorted.total_put {table : Table Nat} (h : table.Sorted) (name : String) (value : Nat) :
    total (Table.put name value table) + (get? name table).getD 0 = total table + value := by
  induction table with
  | nil => simp [Table.put]
  | cons entry rest ih =>
    obtain ⟨n, v⟩ := entry
    have hcons : (∀ other ∈ names rest, n < other) ∧ Sorted rest := List.pairwise_cons.mp h
    unfold Table.put
    by_cases hn : n = name
    · simp [hn, get?]
      omega
    · rw [if_neg hn, get?, if_neg hn]
      by_cases hlt : name < n
      · have hnone : get? name rest = none :=
          get?_eq_none_of_lt fun other hother => String.lt_trans hlt (hcons.1 other hother)
        simp [hlt, hnone]
        omega
      · have hrest := ih hcons.2
        simp [hlt]
        omega

/-- What is written under a name takes the place of what was written there before. -/
theorem put_put (name : String) (first second : α) (table : Table α) :
    put name second (put name first table) = put name second table := by
  induction table with
  | nil => simp [put]
  | cons entry rest ih =>
    obtain ⟨n, v⟩ := entry
    by_cases hn : n = name
    · simp [put, hn]
    · by_cases hlt : name < n
      · simp [put, hn, hlt]
      · simp [put, hn, hlt, ih]

/-- Erasing a name under which nothing stands changes nothing. -/
theorem erase_eq_self {name : String} (h : get? name table = none) : erase name table = table := by
  refine List.filter_eq_self.mpr fun entry hentry => ?_
  have hname : entry.1 ≠ name := by
    intro heq
    have hmem : name ∈ table.names := heq ▸ List.mem_map_of_mem hentry
    obtain ⟨value, hvalue⟩ := mem_names_iff.mp hmem
    rw [h] at hvalue
    cases hvalue
  simpa using hname

end Gamebook.Table
