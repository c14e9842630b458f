import Gamebook.Store

/-!
# A store that can be switched off

A switch in front of a store refuses the operations it names, as a disk that has gone away would. What
is refused does not reach the store.
-/

namespace Gamebook

/-- The operations of a store. -/
inductive StoreOperation
  | load
  | save
  | clear
deriving DecidableEq, Repr

/-- A store behind a switch that refuses some operations. -/
structure SwitchedStore (σ : Type) where
  inner : σ
  refused : List StoreOperation

namespace SwitchedStore

/-- The failure of a refused operation. -/
def gone : StoreError := .file (.other "disk gone")

variable {σ α : Type}

/-- An operation on the store behind the switch, unless it is refused. -/
def pass (store : SwitchedStore σ) (operation : StoreOperation)
    (call : σ → Except StoreError α × σ) : Except StoreError α × SwitchedStore σ :=
  if operation ∈ store.refused then (.error gone, store)
  else
    let (result, inner) := call store.inner
    (result, { store with inner })

instance [ProgressStore σ] : ProgressStore (SwitchedStore σ) where
  load store id := store.pass .load fun inner => ProgressStore.load inner id
  save store progress := store.pass .save fun inner => ProgressStore.save inner progress
  clear store id := store.pass .clear fun inner => ProgressStore.clear inner id

end SwitchedStore

end Gamebook
