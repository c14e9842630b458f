import Gamebook.Proofs.Session
import Gamebook.Proofs.Store

/-!
# Leaving a session and coming back

A reader may leave at any moment and open a new session over the same store. If the store is dependable
and the position is saved after every transition, nobody can tell: a session is `Synced` with its store
when opening a new one would lead to the same snapshot, and every action keeps it so. Therefore leaving
out some of the reopenings changes nothing of what is left (`trace_filter`).

What is compared are traces. Each move of a reader leaves an event, with its result, the snapshots before and after,
and the whole store; some reopenings are marked, and the trace without them is the trace of the moves without them. To
compare the snapshots at the end would not do, since a difference in the middle might be mended by a restart. The only
thing that a reopening does change are the warnings, which a new session begins without; they are no part of an event,
and `Alike` says that nothing else depends on them.

For the same reason the effects of a passage are applied once, on arriving there by a choice, and never again when the
position is taken up. A `Ledger` keeps account of them: what was carried when play was last begun, and the effects
since. It is kept from the events alone, by which choices were made and which passages they led to, so what it comes
to is another way to say what is carried.

To be synced is asked of the record that the store answers and not of the one that was saved. At the introduction
there is no record, and a new session would begin there too; a record that does not fit the adventure leads there as
well.
-/

namespace Gamebook

/-- What a reader can do with a session and its store. A reopening may be marked as one to be left out,
which makes no difference to the session. -/
inductive Move
  | act (action : Action)
  | reopen (omitted : Bool)
deriving DecidableEq, Repr

/-- Whether a move is one to be left out. -/
def Move.isOmitted : Move → Bool
  | act _ => false
  | reopen omitted => omitted

/-- Why a move has failed. -/
inductive SessionError
  | play (e : PlayError)
  | invalid (report : Report)
deriving DecidableEq, Repr

/-- What came of one move: the snapshot and the store that it left. -/
structure Event (σ : Type) where
  move : Move
  result : Except SessionError Unit
  before : Snapshot
  after : Snapshot
  store : σ

namespace Session

variable {σ : Type} [ProgressStore σ]

/-- A move. Reopening is to open a new session over the same store and id. -/
def take (s : Session σ) : Move → Except SessionError Unit × Session σ
  | .act action => ((s.act action).1.mapError .play, (s.act action).2)
  | .reopen _ =>
    match openOn s.adventure s.adventureId s.store s.config with
    | .ok t => (.ok (), t)
    | .error report => (.error (.invalid report), s)

/-- The session after some moves. -/
def afterMoves (s : Session σ) (moves : List Move) : Session σ :=
  moves.foldl (fun s move => (s.take move).2) s

/-- What comes of one move. -/
def event (s : Session σ) (move : Move) : Event σ :=
  ⟨move, (s.take move).1, s.snapshot, (s.take move).2.snapshot, (s.take move).2.store⟩

/-- What comes of each of some moves. -/
def trace (s : Session σ) : List Move → List (Event σ)
  | [] => []
  | move :: moves => s.event move :: (s.take move).2.trace moves

/-! ## Sessions that differ in their warnings -/

/-- The second session is the first one with other warnings. -/
def Alike (s t : Session σ) : Prop := ∃ warnings, t = { s with warnings := warnings }

variable {s t : Session σ}

theorem Alike.persist (h : Alike s t) : Alike s.persist t.persist := by
  obtain ⟨warnings, rfl⟩ := h
  unfold Session.persist
  dsimp only
  by_cases hautosave : s.config.autosave = true
  · rw [if_pos hautosave, if_pos hautosave]
    cases s.snapshot.state.passageId? with
    | none => exact ⟨warnings, rfl⟩
    | some passage =>
      dsimp only
      cases ProgressStore.save s.store ⟨s.adventureId, passage, s.snapshot.inventory⟩ with
      | mk saved store => cases saved <;> exact ⟨_, rfl⟩
  · rw [if_neg hautosave, if_neg hautosave]
    exact ⟨warnings, rfl⟩

theorem Alike.forget (h : Alike s t) : Alike s.forget t.forget := by
  obtain ⟨warnings, rfl⟩ := h
  unfold Session.forget
  dsimp only
  by_cases hautosave : s.config.autosave = true
  · rw [if_pos hautosave, if_pos hautosave]
    cases ProgressStore.clear s.store s.adventureId with
    | mk cleared store => cases cleared <;> exact ⟨_, rfl⟩
  · rw [if_neg hautosave, if_neg hautosave]
    exact ⟨warnings, rfl⟩

theorem Alike.perform (h : Alike s t) (action : Action) :
    (s.perform action).1 = (t.perform action).1 ∧ Alike (s.perform action).2 (t.perform action).2 := by
  obtain ⟨warnings, rfl⟩ := h
  unfold Session.perform
  dsimp only
  cases s.snapshot.step s.adventure action with
  | error e => exact ⟨rfl, warnings, rfl⟩
  | ok next => exact ⟨rfl, Alike.persist ⟨warnings, rfl⟩⟩

/-- No action depends on the warnings so far. -/
theorem Alike.act (h : Alike s t) (action : Action) :
    (s.act action).1 = (t.act action).1 ∧ Alike (s.act action).2 (t.act action).2 := by
  cases action with
  | start => exact h.perform .start
  | choose index => exact h.perform (.choose index)
  | restart => exact h.forget.perform .restart

theorem Alike.take (h : Alike s t) (move : Move) :
    (s.take move).1 = (t.take move).1 ∧ Alike (s.take move).2 (t.take move).2 := by
  cases move with
  | act action =>
    obtain ⟨hresult, halike⟩ := h.act action
    exact ⟨congrArg (Except.mapError SessionError.play) hresult, halike⟩
  | reopen omitted =>
    obtain ⟨warnings, rfl⟩ := h
    unfold Session.take
    dsimp only
    cases openOn s.adventure s.adventureId s.store s.config with
    | ok opened => exact ⟨rfl, opened.warnings, rfl⟩
    | error report => exact ⟨rfl, warnings, rfl⟩

/-- Nothing that comes of any moves depends on the warnings so far. -/
theorem Alike.trace_eq (h : Alike s t) (moves : List Move) : s.trace moves = t.trace moves := by
  induction moves generalizing s t with
  | nil => rfl
  | cons move moves ih =>
    obtain ⟨hresult, halike⟩ := h.take move
    rw [trace, trace, ih halike, event, event, hresult]
    obtain ⟨_, hs⟩ := h
    obtain ⟨_, ht⟩ := halike
    rw [ht, hs]

/-! ## Sessions in step with their store -/

/-- What the store holds is the position of the session: a new session would begin where this one is. -/
structure Synced (s : Session σ) : Prop where
  playable : s.adventure.isPlayable = true
  autosave : s.config.autosave = true
  record : ∃ record, (ProgressStore.load s.store s.adventureId).1 = .ok record ∧
    Snapshot.opening s.adventure (.ok record) = s.snapshot

theorem Synced.of_alike (h : Synced s) (halike : Alike s t) : Synced t := by
  obtain ⟨warnings, rfl⟩ := halike
  exact ⟨h.playable, h.autosave, h.record⟩

variable [Dependable σ]

/-- Saving the position at which a reader has arrived. -/
theorem synced_persist (hplayable : s.adventure.isPlayable = true) (hautosave : s.config.autosave = true)
    {record : Option Progress} (hload : (ProgressStore.load s.store s.adventureId).1 = .ok record)
    {id : PassageId} {p : Passage} (hp : s.adventure.passage? id = some p)
    (hstate : s.snapshot.state = .arrived p) : Synced s.persist := by
  have hpassage : s.snapshot.state.passageId? = some p.id := by
    rw [hstate, PlayState.passageId?_arrived]
  obtain ⟨store, hsave, hsaved⟩ :=
    Dependable.save_ok ⟨s.adventureId, p.id, s.snapshot.inventory⟩ hload rfl
  have hpersist : s.persist = { s with store := store } := by
    unfold Session.persist
    rw [if_pos hautosave, hpassage]
    simp only [hsave]
  rw [hpersist]
  refine ⟨hplayable, hautosave, _, hsaved, ?_⟩
  -- The record names the passage by its own id, under which it is found again.
  rw [Snapshot.opening_of_resume (Snapshot.resume_eq_ok_iff.mpr ⟨p, Adventure.passage?_id hp, rfl⟩)]
  show (⟨.arrived p, s.snapshot.inventory⟩ : Snapshot) = s.snapshot
  rw [← hstate]

/-- A transition that is allowed leaves the session in step with its store. -/
theorem synced_perform (hplayable : s.adventure.isPlayable = true) (hautosave : s.config.autosave = true)
    {record : Option Progress} (hload : (ProgressStore.load s.store s.adventureId).1 = .ok record)
    {action : Action} {next : Snapshot} (hstep : s.snapshot.step s.adventure action = .ok next) :
    Synced (s.perform action).2 := by
  obtain ⟨id, p, hp, hstate⟩ := (Snapshot.step_eq_ok_iff.mp hstep).arrived
  unfold Session.perform
  rw [hstep]
  exact synced_persist hplayable hautosave hload hp hstate

/-- Every action leaves the session in step with its store. -/
theorem Synced.act (h : Synced s) (action : Action) : Synced (s.act action).2 := by
  obtain ⟨record, hload, hopening⟩ := h.record
  have hperform : Synced (s.perform action).2 := by
    cases hstep : s.snapshot.step s.adventure action with
    | ok next => exact synced_perform h.playable h.autosave hload hstep
    | error e =>
      unfold Session.perform
      rw [hstep]
      exact h
  cases action with
  | start => exact hperform
  | choose index => exact hperform
  | restart =>
    -- The record is cleared first, and saved again once the restart has been made.
    obtain ⟨store, hclear, hcleared⟩ := Dependable.clear_ok hload
    have hforget : s.forget = { s with store := store } := by
      unfold Session.forget
      rw [if_pos h.autosave]
      simp only [hclear]
    obtain ⟨next, hstep⟩ :=
      Snapshot.exists_restart (Adventure.sound_of_isPlayable h.playable) s.snapshot
    unfold Session.act
    rw [hforget]
    exact synced_perform (s := { s with store := store }) h.playable h.autosave hcleared hstep

/-- Reopening a session in step with its store changes nothing but the warnings. The adventure is still playable, so
the new session opens, and the store answers the record from which it comes to the same snapshot. -/
theorem Synced.reopen (h : Synced s) (omitted : Bool) :
    (s.take (.reopen omitted)).1 = .ok () ∧ Alike s (s.take (.reopen omitted)).2 := by
  obtain ⟨record, hload, hopening⟩ := h.record
  obtain ⟨warnings, hopen⟩ := openOn_eq h.playable s.adventureId s.store s.config
  rw [hload, hopening, Dependable.load_store] at hopen
  unfold Session.take
  rw [hopen]
  exact ⟨rfl, warnings, rfl⟩

/-- Every move leaves the session in step with its store. -/
theorem Synced.take (h : Synced s) (move : Move) : Synced (s.take move).2 := by
  cases move with
  | act action => exact h.act action
  | reopen omitted => exact h.of_alike (h.reopen omitted).2

/-- **Leaving out some of the reopenings leaves out what came of them, and changes nothing else.** By induction on the
moves. Behind a reopening that is left out the two sessions are alike, and alike sessions have the same traces. -/
theorem Synced.trace_filter (h : Synced s) (moves : List Move) :
    s.trace (moves.filter (!·.isOmitted)) = (s.trace moves).filter (!·.move.isOmitted) := by
  induction moves generalizing s with
  | nil => rfl
  | cons move moves ih =>
    rw [trace]
    cases homitted : move.isOmitted with
    | false =>
      rw [List.filter_cons_of_pos (by simp [homitted]),
        List.filter_cons_of_pos (by simp [event, homitted]), trace, ih (h.take move)]
    | true =>
      rw [List.filter_cons_of_neg (by simp [homitted]),
        List.filter_cons_of_neg (by simp [event, homitted]), ← ih (h.take move)]
      -- The move is a reopening, and the session it leaves differs in its warnings only.
      cases move with
      | act action => cases homitted
      | reopen omitted => exact (h.reopen omitted).2.trace_eq _

end Session

/-! ## Accounts of what is carried -/

/-- What was carried when play was last begun, and the effects since. -/
structure Ledger where
  began : Inventory
  effects : List Effect

/-- What a ledger comes to. -/
def Ledger.inventory (l : Ledger) : Inventory := l.began.applyAll l.effects

namespace Event

variable {σ : Type}

/-- The target of the choice that was made, if one was. -/
def target? (a : Adventure) (e : Event σ) : Option Passage :=
  match e.move, e.result with
  | .act action, .ok () => e.before.target? a action
  | _, _ => none

/-- Whether play was begun again. -/
def isRestart (e : Event σ) : Bool :=
  match e.move, e.result with
  | .act .restart, .ok () => true
  | _, _ => false

end Event

/-- The ledger after one more move: a restart closes it and opens an empty one, a choice that was made
enters the effects of the passage it has led to, and nothing else is entered. -/
def Ledger.note {σ : Type} (a : Adventure) (l : Ledger) (e : Event σ) : Ledger :=
  if e.isRestart then ⟨.empty, []⟩
  else
    match e.target? a with
    | some target => { l with effects := l.effects ++ target.effects }
    | none => l

namespace Session

variable {σ : Type} [ProgressStore σ] {s : Session σ} {l : Ledger}

/-- What comes of an action is what the transition function says. -/
theorem event_act (s : Session σ) (action : Action) :
    s.event (.act action) =
      ⟨.act action, ((s.snapshot.step s.adventure action).map fun _ => ()).mapError .play, s.snapshot,
        s.snapshot.next s.adventure action, (s.act action).2.store⟩ := by
  rw [event, take, (s.act_eq action).1, act_snapshot]

theorem note_of_error {action : Action} {e : PlayError}
    (h : s.snapshot.step s.adventure action = .error e) :
    l.note s.adventure (s.event (.act action)) = l := by
  rw [event_act, h]
  cases action <;> rfl

theorem note_start {t : Snapshot} (h : s.snapshot.step s.adventure .start = .ok t) :
    l.note s.adventure (s.event (.act .start)) = l := by
  rw [event_act, h]
  rfl

theorem note_restart {t : Snapshot} (h : s.snapshot.step s.adventure .restart = .ok t) :
    l.note s.adventure (s.event (.act .restart)) = ⟨.empty, []⟩ := by
  rw [event_act, h]
  rfl

theorem note_choose {index : Nat} {t : Snapshot} {target : Passage}
    (h : s.snapshot.step s.adventure (.choose index) = .ok t)
    (htarget : s.snapshot.target? s.adventure (.choose index) = some target) :
    l.note s.adventure (s.event (.act (.choose index))) = ⟨l.began, l.effects ++ target.effects⟩ := by
  have hentered : (s.event (.act (.choose index))).target? s.adventure = some target := by
    rw [event_act, h]
    exact htarget
  have hrestart : (s.event (.act (.choose index))).isRestart = false := rfl
  rw [Ledger.note, hentered, hrestart]
  rfl

variable [Dependable σ]

/-- A ledger that comes to what is carried does so after one more move. -/
theorem Synced.inventory_note (h : Synced s) (move : Move) (hl : l.inventory = s.snapshot.inventory) :
    (l.note s.adventure (s.event move)).inventory = (s.take move).2.snapshot.inventory := by
  cases move with
  | reopen omitted =>
    obtain ⟨warnings, halike⟩ := (h.reopen omitted).2
    rw [halike]
    exact hl
  | act action =>
    have hafter : (s.take (.act action)).2.snapshot = s.snapshot.next s.adventure action :=
      s.act_snapshot action
    rw [hafter, Snapshot.next]
    cases hstep : s.snapshot.step s.adventure action with
    | error e =>
      rw [note_of_error hstep]
      exact hl
    | ok t =>
      have hsteps : Snapshot.Steps s.adventure s.snapshot action t := Snapshot.step_eq_ok_iff.mp hstep
      cases action with
      | start =>
        show _ = t.inventory
        rw [note_start hstep, hl, hsteps.inventory_start]
      | restart =>
        show _ = t.inventory
        rw [note_restart hstep, hsteps.inventory_restart]
        rfl
      | choose index =>
        obtain ⟨target, htarget, hinventory⟩ := hsteps.inventory_choose
        show _ = t.inventory
        rw [note_choose hstep htarget, hinventory, ← hl]
        exact Inventory.applyAll_append ..

theorem Synced.take_adventure (h : Synced s) (move : Move) :
    (s.take move).2.adventure = s.adventure := by
  cases move with
  | act action => exact s.act_adventure action
  | reopen omitted =>
    obtain ⟨warnings, halike⟩ := (h.reopen omitted).2
    rw [halike]

/-- A ledger that is kept from the beginning comes to what is carried in the end. -/
theorem Synced.inventory_foldl_note (h : Synced s) (moves : List Move)
    (hl : l.inventory = s.snapshot.inventory) :
    ((s.trace moves).foldl (Ledger.note s.adventure) l).inventory =
      (s.afterMoves moves).snapshot.inventory := by
  induction moves generalizing s l with
  | nil => exact hl
  | cons move moves ih =>
    have hrest := ih (h.take move) (h.inventory_note move hl)
    rw [h.take_adventure move] at hrest
    exact hrest

end Session

/-! ## Reopening -/

/-- The ledger of a session that is opened: it begins with what the record holds, if the record can be
used. -/
def Ledger.opening (a : Adventure) : Option Progress → Ledger
  | some progress => ⟨if (a.passage? progress.passage).isSome then progress.inventory else .empty, []⟩
  | none => ⟨.empty, []⟩

theorem Ledger.inventory_opening (a : Adventure) (record : Option Progress) :
    (Ledger.opening a record).inventory = (Snapshot.opening a (.ok record)).inventory := by
  cases record with
  | none => rfl
  | some progress =>
    show (if (a.passage? progress.passage).isSome then progress.inventory else Inventory.empty) = _
    cases hp : a.passage? progress.passage with
    | none =>
      have hresume : Snapshot.resume a progress = .error (.passage progress.passage) := by
        rw [Snapshot.resume, Adventure.passage, hp]
        rfl
      simp only [Snapshot.opening, hresume]
      rfl
    | some p =>
      rw [Snapshot.opening_of_resume (Snapshot.resume_eq_ok_iff.mpr ⟨p, hp, rfl⟩)]
      rfl

namespace Session

variable {σ : Type} [ProgressStore σ]

/-- Nobody can tell a session that is reopened at times from one that is not: leaving out some of the
reopenings changes no result, snapshot or store of the other moves. And at any moment the reader carries
what the record held at which the session was opened, or nothing after a restart, changed by the effects
of the targets of the choices that have been made since. -/
def ReopeningUnobservable (a : Adventure) (id : String) (store : σ) (record : Option Progress)
    (config : SessionConfig) : Prop :=
  ∃ opened, openOn a id store config = .ok opened ∧ ∀ moves : List Move,
    opened.trace (moves.filter (!·.isOmitted)) = (opened.trace moves).filter (!·.move.isOmitted) ∧
      (opened.afterMoves moves).snapshot.inventory =
        ((opened.trace moves).foldl (Ledger.note a) (.opening a record)).inventory

theorem reopeningUnobservable_of_dependable [Dependable σ] {a : Adventure} (h : a.isPlayable = true)
    {id : String} {store : σ} {record : Option Progress} {config : SessionConfig}
    (hload : (ProgressStore.load store id).1 = .ok record) (hautosave : config.autosave = true) :
    ReopeningUnobservable a id store record config := by
  obtain ⟨warnings, hopen⟩ := openOn_eq h id store config
  rw [hload, Dependable.load_store] at hopen
  refine ⟨_, hopen, fun moves => ?_⟩
  have hsynced : Synced (⟨a, id, store, config, .opening a (.ok record), warnings⟩ : Session σ) :=
    ⟨h, hautosave, record, hload, rfl⟩
  refine ⟨hsynced.trace_filter moves, ?_⟩
  exact (hsynced.inventory_foldl_note moves (Ledger.inventory_opening a record)).symm

/-- **Reopening cannot be observed, and effects are applied once**, over the store in memory, and over the store in
files unless it fails to answer when the session is opened. The moves are any: actions that are refused, restarts
and reopenings at every point, any of which may be left out. A store in files may fail to answer because its file is
no record; then the position could not be taken up in the first place. -/
theorem reopening_unobservable {a : Adventure} (h : a.isPlayable = true) (id : String)
    (config : SessionConfig) (hautosave : config.autosave = true) :
    (∀ store : MemoryStore,
      ReopeningUnobservable a id store (store.records.get? id) config) ∧
    (∀ (store : FileStore) (record : Option Progress), store.load id = .ok record →
      ReopeningUnobservable a id store record config) := by
  refine ⟨fun store => ?_, fun store record hload => ?_⟩
  · exact reopeningUnobservable_of_dependable h rfl hautosave
  · exact reopeningUnobservable_of_dependable h hload hautosave

/-- The cellar, over a store in memory and over an empty directory. -/
theorem reopening_unobservable_cellar :
    ReopeningUnobservable .cellar "cellar" MemoryStore.empty none { } ∧
      ReopeningUnobservable .cellar "cellar" (FileStore.ofPath "saves" []) none { } := by
  obtain ⟨hmemory, hfiles⟩ := reopening_unobservable Adventure.cellar_isPlayable "cellar" { } rfl
  exact ⟨hmemory MemoryStore.empty, hfiles _ none rfl⟩

end Session

end Gamebook
