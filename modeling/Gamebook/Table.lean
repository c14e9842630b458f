/-!
# Tables of named values

A table lists values under names, in increasing order of the names as code points compare. Writing
under a name replaces what stood there and otherwise finds the place of the name; so a table built by
`put` and `erase` from the empty one names nothing twice.

What a table answers is pinned down by one equation for each operation, `get?_put` and `get?_erase`,
which hold of every list of named values, ordered or not.
-/

namespace Gamebook

/-- Values under names. -/
abbrev Table (α : Type) := List (String × α)

namespace Table

variable {α : Type}

/-- The value under a name. -/
def get? (name : String) : Table α → Option α
  | [] => none
  | (n, v) :: rest => if n = name then some v else get? name rest

/-- Writes a value under a name, replacing what stood there. -/
def put (name : String) (value : α) : Table α → Table α
  | [] => [(name, value)]
  | (n, v) :: rest =>
    if n = name then (name, value) :: rest
    else if name < n then (name, value) :: (n, v) :: rest
    else (n, v) :: put name value rest

/-- Takes a name out. -/
def erase (name : String) (table : Table α) : Table α :=
  table.filter fun entry => entry.1 ≠ name

/-- The names, in order. -/
def names (table : Table α) : List String := table.map (·.1)

@[simp] theorem get?_nil (name : String) : get? name ([] : Table α) = none := rfl

/-- Writing under a name changes what stands under that name and nothing else. -/
theorem get?_put (name other : String) (value : α) (table : Table α) :
    get? other (put name value table) = if name = other then some value else get? other table := by
  induction table with
  | nil => simp [put, get?]
  | cons entry rest ih =>
    obtain ⟨n, v⟩ := entry
    by_cases h : n = name
    · subst h
      by_cases ho : n = other <;> simp [put, get?, ho]
    · by_cases hlt : name < n
      · simp [put, h, hlt, get?]
      · by_cases ho : n = other
        · subst ho
          simp [put, get?, h, hlt, Ne.symm h]
        · simp [put, get?, h, hlt, ho, ih]

/-- Taking a name out changes what stands under that name and nothing else. -/
theorem get?_erase (name other : String) (table : Table α) :
    get? other (erase name table) = if name = other then none else get? other table := by
  induction table with
  | nil => simp [erase]
  | cons entry rest ih =>
    obtain ⟨n, v⟩ := entry
    by_cases h : n = name
    · subst h
      by_cases ho : n = other
      · simpa [erase, ho] using ih
      · simpa [erase, get?, ho] using ih
    · by_cases ho : n = other
      · subst ho
        simp [erase, h, get?, Ne.symm h]
      · simpa [erase, h, get?, ho] using ih

end Table

end Gamebook
