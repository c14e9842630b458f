import Gamebook.Play
import Gamebook.Store
import Gamebook.Validation

/-!
# Play with a store

A session plays one adventure and saves the position after every transition. The adventure must be
playable. The session takes up what the store holds when it is opened. After that the store never
decides anything: where it fails, the session notes a warning and play goes on from the snapshot in
hand.
-/

namespace Gamebook

/-- Options of a session. -/
structure SessionConfig where
  /-- Show with each choice the passage it leads to. -/
  showTargets : Bool := false
  /-- Save the position after every transition. -/
  autosave : Bool := true
deriving DecidableEq, Repr

/-- Play of one adventure with a store of type `σ`. The warnings are the failures of the store so far,
the oldest first. -/
structure Session (σ : Type) where
  adventure : Adventure
  adventureId : String
  store : σ
  config : SessionConfig
  snapshot : Snapshot
  warnings : List String

namespace Session

variable {σ : Type}

/-- The session with one more warning. -/
def warn (s : Session σ) (warning : String) : Session σ :=
  { s with warnings := s.warnings ++ [warning] }

/-- Takes up what the store holds. A record that cannot be loaded or used is left aside with a
warning. -/
def hydrate [ProgressStore σ] (s : Session σ) : Session σ :=
  let (loaded, store) := ProgressStore.load s.store s.adventureId
  let s := { s with store }
  match loaded with
  | .ok none => s
  | .ok (some progress) =>
    match Snapshot.resume s.adventure progress with
    | .ok snapshot => { s with snapshot }
    | .error e => s.warn ("discarding saved progress: " ++ e.message)
  | .error e => s.warn ("could not load saved progress: " ++ e.message)

/-- Opens a session on an adventure, or reports why it cannot be played. -/
def openOn [ProgressStore σ] (adventure : Adventure) (adventureId : String) (store : σ)
    (config : SessionConfig) : Except Report (Session σ) :=
  let report := adventure.validate
  if report.isPlayable then
    .ok (hydrate { adventure, adventureId, store, config, snapshot := .initial, warnings := [] })
  else .error report

/-- Saves the position, once play has started. -/
def persist [ProgressStore σ] (s : Session σ) : Session σ :=
  if s.config.autosave then
    match s.snapshot.state.passageId? with
    | none => s
    | some passage =>
      let (saved, store) := ProgressStore.save s.store ⟨s.adventureId, passage, s.snapshot.inventory⟩
      let s := { s with store }
      match saved with
      | .ok () => s
      | .error e => s.warn ("could not save progress: " ++ e.message)
  else s

/-- Forgets the saved position. -/
def forget [ProgressStore σ] (s : Session σ) : Session σ :=
  if s.config.autosave then
    let (cleared, store) := ProgressStore.clear s.store s.adventureId
    let s := { s with store }
    match cleared with
    | .ok () => s
    | .error e => s.warn ("could not clear saved progress: " ++ e.message)
  else s

/-- A transition, and after it the new position saved. An action that is not allowed changes
nothing. -/
def perform [ProgressStore σ] (s : Session σ) (action : Action) :
    Except PlayError Unit × Session σ :=
  match s.snapshot.step s.adventure action with
  | .ok snapshot => (.ok (), persist { s with snapshot })
  | .error e => (.error e, s)

/-- What a reader asks of a session. A restart forgets the saved position before it begins. -/
def act [ProgressStore σ] (s : Session σ) (action : Action) : Except PlayError Unit × Session σ :=
  match action with
  | .restart => s.forget.perform .restart
  | action => s.perform action

/-- The passage on screen, once play has started. -/
def passage? (s : Session σ) : Option Passage := s.snapshot.passage? s.adventure

/-- The labels of the choices on offer. -/
def labels (s : Session σ) : List String :=
  match s.snapshot.state, s.passage? with
  | .inPassage _, some passage => passage.choices.map fun choice => choice.label s.config.showTargets
  | _, _ => []

/-- One line about what is carried. -/
def inventorySummary (s : Session σ) : String := s.snapshot.inventory.summary s.adventure

/-- The session with the targets of choices shown or not. -/
def setShowTargets (s : Session σ) (shown : Bool) : Session σ :=
  { s with config := { s.config with showTargets := shown } }

end Session

end Gamebook
