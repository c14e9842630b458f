import Gamebook.Store

/-!
# A store with listeners

Listeners are told of every record that was saved or cleared, after the store has done it; of failed
calls and of loads they are not told. They are numbered from zero in the order in which they come, and
a number is never given twice. The log holds what was told to whom, the earliest first.
-/

namespace Gamebook

/-- A change of a store. -/
inductive ProgressEvent
  | saved (progress : Progress)
  | cleared (adventureId : String)
deriving DecidableEq, Repr

/-- A store and those who listen to its changes. -/
structure ObservedStore (σ : Type) where
  inner : σ
  listeners : List Nat
  next : Nat
  log : List (Nat × ProgressEvent)

namespace ObservedStore

variable {σ : Type}

/-- A store nobody listens to yet. -/
def ofStore (inner : σ) : ObservedStore σ := ⟨inner, [], 0, []⟩

/-- A new listener, and its number. -/
def subscribe (store : ObservedStore σ) : Nat × ObservedStore σ :=
  (store.next,
    { store with listeners := store.listeners ++ [store.next], next := store.next + 1 })

/-- Takes a listener out, and tells whether there was one. -/
def unsubscribe (store : ObservedStore σ) (listener : Nat) : Bool × ObservedStore σ :=
  (store.listeners.contains listener,
    { store with listeners := store.listeners.filter (· ≠ listener) })

/-- Tells all listeners of a change. -/
def notify (store : ObservedStore σ) (event : ProgressEvent) : ObservedStore σ :=
  { store with log := store.log ++ store.listeners.map fun listener => (listener, event) }

/-- A call that changes the store, and the event it amounts to if it succeeds. -/
def change (store : ObservedStore σ) (event : ProgressEvent)
    (call : σ → Except StoreError Unit × σ) : Except StoreError Unit × ObservedStore σ :=
  let (result, inner) := call store.inner
  let store := { store with inner }
  match result with
  | .ok () => (.ok (), store.notify event)
  | .error e => (.error e, store)

instance [ProgressStore σ] : ProgressStore (ObservedStore σ) where
  load store id :=
    let (result, inner) := ProgressStore.load store.inner id
    (result, { store with inner })
  save store progress :=
    store.change (.saved progress) fun inner => ProgressStore.save inner progress
  clear store id := store.change (.cleared id) fun inner => ProgressStore.clear inner id

end ObservedStore

end Gamebook
