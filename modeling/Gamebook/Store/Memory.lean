import Gamebook.Store
import Gamebook.Table

/-!
# A store in memory

Records under the ids of their adventures. No call fails.
-/

namespace Gamebook

/-- Progress records under the ids of their adventures. -/
structure MemoryStore where
  records : Table Progress

namespace MemoryStore

/-- No records. -/
def empty : MemoryStore := ⟨[]⟩

/-- The number of records. -/
def size (store : MemoryStore) : Nat := store.records.length

instance : ProgressStore MemoryStore where
  load store id := (.ok (store.records.get? id), store)
  save store progress := (.ok (), ⟨store.records.put progress.adventureId progress⟩)
  clear store id := (.ok (), ⟨store.records.erase id⟩)

end MemoryStore

end Gamebook
