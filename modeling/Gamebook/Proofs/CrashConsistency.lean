import Gamebook.Proofs.Transactions
import Gamebook.Store.Switched

/-!
# What is taken up after a crash

A reader may lose a session at any moment, also between the two writes of a restart. So actions are cut
into phases with one write each at most, and a moment is a beginning of the phases of some actions. Writes
may be refused, any of them, and then a session goes on with a record that is out of date. The journal of a session
lists the writes it has tried, with the snapshot that it held after each.

What can be lost is said by the journal. The record of an adventure is at every moment what the last accepted write of
the journal has left: one phase keeps this (`stands_phase`), and so do many (`stands_through`). It would not be enough
to follow the record along the actions. After a refused write the record and the session differ for as long as it takes
until one is accepted, and what they have in common is only that each record was at some moment the position held.

What a new session takes up follows from this by looking for that write in the journal (`mem_journal`): it was made by
a phase, with the snapshot that was held then, and a saved position is taken up where the step has led
(`Snapshot.Steps.opening`). A restart writes twice. Its first phase clears the record before the new position is
saved, so that between the two nothing is there, and nothing from before the restart can come back once either write was
accepted.

The store may be any in which a write that is accepted is what is loaded afterwards (`Transactional`). Stores in memory
and in files are such stores, and refusals are put between the session and either of them. A write that is itself torn
in the middle is not among the moments here; that is a matter of the file, and said of torn records.
-/

namespace Gamebook

/-! ## Phases

What is kept changes with a write only, so it is enough to look at a session after each part of an action that writes
once at most. A restart has two such parts, and between them is the moment at which the old record is gone and the new
one is not there yet. -/

/-- A part of an action that writes once or not at all. -/
inductive Phase
  | forget
  | perform (action : Action)
deriving DecidableEq, Repr

/-- The action that a phase is part of. Only a restart forgets. -/
def Phase.action : Phase → Action
  | forget => .restart
  | perform action => action

/-- The phases of an action. -/
def Action.phases : Action → List Phase
  | .restart => [.forget, .perform .restart]
  | action => [.perform action]

namespace Session

variable {σ : Type} [ProgressStore σ]

/-- The session after a phase. -/
def phase (s : Session σ) : Phase → Session σ
  | .forget => s.forget
  | .perform action => (s.perform action).2

/-- The session after some phases. -/
def through (s : Session σ) (phases : List Phase) : Session σ := phases.foldl phase s

theorem through_append (s : Session σ) (phases later : List Phase) :
    s.through (phases ++ later) = (s.through phases).through later := by
  rw [through, List.foldl_append]
  rfl

theorem act_eq_through (s : Session σ) (action : Action) :
    (s.act action).2 = s.through action.phases := by
  cases action <;> rfl

/-- Actions are made by going through their phases. -/
theorem through_phases (s : Session σ) (actions : List Action) :
    s.through (actions.flatMap Action.phases) = s.after actions := by
  induction actions generalizing s with
  | nil => rfl
  | cons action actions ih =>
    rw [List.flatMap_cons, through_append, ← act_eq_through, ih]
    rfl

/-! ## One phase -/

/-- The write of a phase, and the snapshot that is held then. A restart clears the record before it is
made; every transition that is made saves the new position. -/
inductive Writes (a : Adventure) (id : String) (s : Snapshot) : Phase → StoreCall → Snapshot → Prop
  | clear : Writes a id s .forget (.clear id) s
  | save {action : Action} {t : Snapshot} {progress : Progress} :
      s.step a action = .ok t → t.progress? id = some progress →
      Writes a id s (.perform action) (.save progress) t

theorem Writes.adventureId {a : Adventure} {id : String} {s held : Snapshot} {phase : Phase}
    {call : StoreCall} (h : Writes a id s phase call held) : call.adventureId = id := by
  cases h with
  | clear => rfl
  | save _ hprogress =>
    obtain ⟨passage, -, rfl⟩ := Option.map_eq_some_iff.mp hprogress
    rfl

/-- A session of an adventure that saves its positions under an id. -/
structure Autosaving (a : Adventure) (id : String) (s : Session σ) : Prop where
  adventure : s.adventure = a
  adventureId : s.adventureId = id
  autosave : s.config.autosave = true

variable {a : Adventure} {id : String} {s : Session σ}

/-- A phase does nothing, or it makes its write. -/
theorem Autosaving.phase_cases (h : Autosaving a id s) (phase : Phase) :
    s.phase phase = s ∨ ∃ call held, Writes a id s.snapshot phase call held ∧
      s.phase phase = { s with snapshot := held }.tell call := by
  obtain ⟨rfl, rfl, hautosave⟩ := h
  cases phase with
  | forget =>
    refine .inr ⟨_, _, .clear, ?_⟩
    rw [Session.phase, forget_eq, if_pos hautosave]
  | perform action =>
    rw [Session.phase]
    rcases s.perform_cases action with ⟨e, -, hperform⟩ | ⟨t, passage, hstep, hpassage, hperform⟩
    · rw [hperform]
      exact .inl rfl
    · have hprogress : t.progress? s.adventureId = some ⟨s.adventureId, passage, t.inventory⟩ := by
        rw [Snapshot.progress?, hpassage]
        rfl
      refine .inr ⟨_, t, .save hstep hprogress, ?_⟩
      rw [hperform, if_pos hautosave]

theorem Autosaving.phase (h : Autosaving a id s) (phase : Phase) : Autosaving a id (s.phase phase) := by
  rcases h.phase_cases phase with hphase | ⟨call, held, -, hphase⟩
  · rw [hphase]
    exact h
  · rw [hphase]
    exact ⟨h.adventure, h.adventureId, h.autosave⟩

end Session

/-! ## Journals -/

/-- A write that a session has tried: the action it was part of, the call and how it ended, and the
snapshot that the session held after it. -/
structure Attempt where
  action : Action
  reply : StoreReply
  held : Snapshot

/-- Whether the store has done what it was asked for. -/
def Attempt.accepted (attempt : Attempt) : Bool := attempt.reply.failure.isNone

/-- The last of some attempts that was accepted. -/
def lastAccepted (attempts : List Attempt) : Option Attempt := (attempts.filter (·.accepted)).getLast?

theorem lastAccepted_append (attempts later : List Attempt) :
    lastAccepted (attempts ++ later) = (lastAccepted later).or (lastAccepted attempts) := by
  rw [lastAccepted, List.filter_append, List.getLast?_append]
  rfl

theorem mem_of_lastAccepted {attempts : List Attempt} {attempt : Attempt}
    (h : lastAccepted attempts = some attempt) : attempt ∈ attempts :=
  (List.mem_filter.mp (List.mem_of_getLast? h)).1

/-- The record of an adventure after some attempts to write it. If none was accepted, it is the one there
was before. If the last that was accepted is the clear of a restart, there is none. Otherwise it is the
position of the snapshot that was held after the last one. -/
inductive Stands (id : String) (initial : Except StoreError (Option Progress)) :
    List Attempt → Except StoreError (Option Progress) → Prop
  | untouched {attempts : List Attempt} :
      lastAccepted attempts = none → Stands id initial attempts initial
  | cleared {attempts : List Attempt} {last : Attempt} :
      lastAccepted attempts = some last → last.action = .restart → last.reply.call = .clear id →
      Stands id initial attempts (.ok none)
  | saved {attempts : List Attempt} {last : Attempt} {progress : Progress} :
      lastAccepted attempts = some last → last.reply.call = .save progress →
      last.held.progress? id = some progress → Stands id initial attempts (.ok (some progress))

theorem Stands.append {id : String} {initial middle record : Except StoreError (Option Progress)}
    {attempts later : List Attempt} (h : Stands id initial attempts middle)
    (h' : Stands id middle later record) : Stands id initial (attempts ++ later) record := by
  have hlast := lastAccepted_append attempts later
  cases h' with
  | cleared haccepted haction hcall =>
    rw [haccepted] at hlast
    exact .cleared hlast haction hcall
  | saved haccepted hcall hheld =>
    rw [haccepted] at hlast
    exact .saved hlast hcall hheld
  | untouched hnone =>
    -- Nothing was accepted later, so the last accepted attempt is still the same.
    rw [hnone, Option.none_or] at hlast
    cases h with
    | untouched haccepted => exact .untouched (hlast.trans haccepted)
    | cleared haccepted haction hcall => exact .cleared (hlast.trans haccepted) haction hcall
    | saved haccepted hcall hheld => exact .saved (hlast.trans haccepted) hcall hheld

namespace Session

variable {σ : Type} [ProgressStore σ]

/-- What a phase has tried to write, as the store has noted it. -/
def attempts (s : Session (UnreliableStore σ)) (phase : Phase) : List Attempt :=
  ((s.phase phase).store.log.drop s.store.log.length).map fun reply =>
    ⟨phase.action, reply, (s.phase phase).snapshot⟩

/-- What some phases have tried to write. -/
def journal (s : Session (UnreliableStore σ)) : List Phase → List Attempt
  | [] => []
  | phase :: phases => s.attempts phase ++ (s.phase phase).journal phases

variable {a : Adventure} {id : String} {s : Session (UnreliableStore σ)} {phase : Phase}

theorem attempts_eq_nil (h : s.phase phase = s) : s.attempts phase = [] := by
  rw [attempts, h, List.drop_length]
  rfl

theorem attempts_tell {call : StoreCall} {held : Snapshot}
    (h : s.phase phase = { s with snapshot := held }.tell call) :
    s.attempts phase = [⟨phase.action, ⟨call, (call.send s.store).1⟩, held⟩] := by
  have hlog : (s.phase phase).store.log = s.store.log ++ [⟨call, (call.send s.store).1⟩] := by
    rw [h]
    exact s.store.log_send call
  rw [attempts, hlog, List.drop_left, h]
  rfl

/-- One phase leaves what its accepted write was to leave. If it makes no write, or the write is refused, the record
is as it was; if the write is accepted, it is the last one of the journal. -/
theorem stands_phase [Transactional σ] (h : Autosaving a id s) (phase : Phase) :
    Stands id (recordOf s.store id) (s.attempts phase) (recordOf (s.phase phase).store id) := by
  rcases h.phase_cases phase with hphase | ⟨call, held, hwrites, hphase⟩
  · rw [attempts_eq_nil hphase, hphase]
    exact .untouched rfl
  · have hstore : (s.phase phase).store = (call.send s.store).2 := by
      rw [hphase]
      rfl
    have hrecord := Transactional.recordOf_send s.store call
    rw [hwrites.adventureId, ← hstore] at hrecord
    rw [hrecord, attempts_tell hphase]
    -- The one attempt is the last accepted one, or it failed and the record is as it was.
    cases (call.send s.store).1 with
    | some e => exact .untouched rfl
    | none =>
      cases hwrites with
      | clear => exact .cleared rfl rfl rfl
      | save _ hprogress => exact .saved rfl rfl hprogress

/-- **At every moment the record is what the last accepted write has left.** By induction on the phases: what the
first leaves is the record that the others start from. -/
theorem stands_through [Transactional σ] (h : Autosaving a id s) (phases : List Phase) :
    Stands id (recordOf s.store id) (s.journal phases) (recordOf (s.through phases).store id) := by
  induction phases generalizing s with
  | nil => exact .untouched rfl
  | cons phase phases ih => exact (stands_phase h phase).append (ih (h.phase phase))

/-- Every attempt of a journal is the write of a phase, made from the snapshot that was held before it. This ties
what stands in the store to what the session has shown its reader. -/
theorem mem_journal {attempt : Attempt} {phases : List Phase} (h : Autosaving a id s)
    (hattempt : attempt ∈ s.journal phases) :
    ∃ earlier phase, earlier ++ [phase] <+: phases ∧ attempt.action = phase.action ∧
      attempt.held = (s.through (earlier ++ [phase])).snapshot ∧
      Writes a id (s.through earlier).snapshot phase attempt.reply.call attempt.held := by
  induction phases generalizing s with
  | nil => cases hattempt
  | cons phase phases ih =>
    rcases List.mem_append.mp hattempt with hnow | hlater
    -- It is the write of the first phase.
    · refine ⟨[], phase, List.prefix_append [phase] phases, ?_⟩
      rcases h.phase_cases phase with hphase | ⟨call, held, hwrites, hphase⟩
      · rw [attempts_eq_nil hphase] at hnow
        cases hnow
      · rw [attempts_tell hphase] at hnow
        obtain rfl := List.mem_singleton.mp hnow
        refine ⟨rfl, ?_, hwrites⟩
        show held = (s.phase phase).snapshot
        rw [hphase]
        rfl
    · obtain ⟨earlier, last, hprefix, hattempt⟩ := ih (h.phase phase) hlater
      exact ⟨phase :: earlier, last, List.cons_prefix_cons.mpr ⟨rfl, hprefix⟩, hattempt⟩

end Session

/-! ## Taking up the record -/

/-- A position that was saved after a step is taken up where the step has led. -/
theorem Snapshot.Steps.opening {a : Adventure} {id : String} {s t : Snapshot} {action : Action}
    {progress : Progress} (h : Steps a s action t) (hprogress : t.progress? id = some progress) :
    Snapshot.opening a (.ok (some progress)) = t := by
  obtain ⟨passage, p, hp, hstate⟩ := h.arrived
  obtain ⟨state, inventory⟩ := t
  obtain rfl : state = .arrived p := hstate
  rw [Snapshot.progress?, PlayState.passageId?_arrived] at hprogress
  obtain rfl := Option.some.inj hprogress
  exact Snapshot.opening_of_resume
    (Snapshot.resume_eq_ok_iff.mpr ⟨p, Adventure.passage?_id hp, rfl⟩)

/-- A restart leads to the entry, with nothing in hand. -/
theorem Snapshot.Steps.restarted {a : Adventure} {s t : Snapshot} (h : Steps a s .restart t) :
    ∃ entry, a.passage? .entry = some entry ∧ t = ⟨.arrived entry, .empty⟩ := by
  cases h with
  | restart hentry => exact ⟨_, hentry, rfl⟩

namespace Session

variable {σ : Type} [ProgressStore σ] {a : Adventure} {id : String} {s : Session (UnreliableStore σ)}
  {initial record : Except StoreError (Option Progress)} {phases : List Phase}

/-- What is taken up is nothing, or the record there was before, or a snapshot that was held. -/
theorem opening_of_stands (h : Autosaving a id s) (hstands : Stands id initial (s.journal phases) record) :
    Snapshot.opening a record = .initial ∨ Snapshot.opening a record = .opening a initial ∨
      ∃ earlier, earlier <+: phases ∧ Snapshot.opening a record = (s.through earlier).snapshot := by
  cases hstands with
  | untouched => exact .inr (.inl rfl)
  | cleared => exact .inl rfl
  | saved haccepted hcall hheld =>
    obtain ⟨earlier, phase, hprefix, -, hsnapshot, hwrites⟩ :=
      mem_journal h (mem_of_lastAccepted haccepted)
    refine .inr (.inr ⟨_, hprefix, ?_⟩)
    rw [hcall] at hwrites
    cases hwrites with
    | save hstep hprogress =>
      rw [(Snapshot.step_eq_ok_iff.mp hstep).opening hprogress, hsnapshot]

/-- If the last accepted write is part of a restart, what is taken up is nothing or the restart. -/
theorem opening_of_restart (h : Autosaving a id s)
    (hstands : Stands id initial (s.journal phases) record) {last : Attempt}
    (hlast : lastAccepted (s.journal phases) = some last) (haction : last.action = .restart) :
    Snapshot.opening a record = .initial ∨
      ∃ entry, a.passage? .entry = some entry ∧ Snapshot.opening a record = ⟨.arrived entry, .empty⟩ := by
  cases hstands with
  | untouched hnone =>
    rw [hlast] at hnone
    cases hnone
  | cleared => exact .inl rfl
  | saved haccepted hcall hheld =>
    rw [hlast] at haccepted
    obtain rfl := Option.some.inj haccepted
    -- A restart saves in one phase only, which is its own transition.
    obtain ⟨earlier, phase, -, hphase, -, hwrites⟩ := mem_journal h (mem_of_lastAccepted hlast)
    rw [hcall] at hwrites
    cases hwrites with
    | save hstep hprogress =>
      obtain rfl := hphase.symm.trans haction
      have hsteps := Snapshot.step_eq_ok_iff.mp hstep
      rw [hsteps.opening hprogress]
      exact .inr hsteps.restarted

/-- What holds of the record of an adventure at a moment of a session, given by the phases so far.

The store behind holds what the last accepted write of the journal has left. A new session opens; it is at
the introduction, or where the record there was at first would take it up, or at a snapshot that the lost
session has held. If the last accepted write is part of a restart, it is at the introduction or at the
entry with nothing in hand. -/
structure Recoverable (a : Adventure) (id : String) (initial : Except StoreError (Option Progress))
    (s : Session (UnreliableStore σ)) (phases : List Phase) : Prop where
  record : Stands id initial (s.journal phases) (recordOf (s.through phases).store.inner id)
  reopened : ∀ config, ∃ t, openOn a id (s.through phases).store.inner config = .ok t ∧
    (t.snapshot = .initial ∨ t.snapshot = .opening a initial ∨
      ∃ earlier, earlier <+: phases ∧ t.snapshot = (s.through earlier).snapshot)
  restarted : ∀ last, lastAccepted (s.journal phases) = some last → last.action = .restart →
    ∀ config t, openOn a id (s.through phases).store.inner config = .ok t →
      t.snapshot = .initial ∨ ∃ entry, a.passage? .entry = some entry ∧ t.snapshot = ⟨.arrived entry, .empty⟩

theorem recoverable [Transactional σ] (ha : a.isPlayable = true) (h : Autosaving a id s)
    (phases : List Phase) : Recoverable a id (recordOf s.store id) s phases := by
  have hstands := stands_through h phases
  -- A new session begins where the record says.
  have hopen : ∀ config, ∃ t, openOn a id (s.through phases).store.inner config = .ok t ∧
      t.snapshot = .opening a (recordOf (s.through phases).store id) := by
    intro config
    obtain ⟨warnings, hopen⟩ := openOn_eq ha id (s.through phases).store.inner config
    exact ⟨_, hopen, rfl⟩
  constructor
  · exact hstands
  · intro config
    obtain ⟨t, ht, hsnapshot⟩ := hopen config
    refine ⟨t, ht, ?_⟩
    rw [hsnapshot]
    exact opening_of_stands h hstands
  · intro last hlast haction config t ht
    obtain ⟨t', ht', hsnapshot⟩ := hopen config
    obtain rfl : t = t' := Except.ok.inj (ht.symm.trans ht')
    rw [hsnapshot]
    exact opening_of_restart h hstands hlast haction

/-- An autosaving session over a store, of which some writes are refused, opens, and its record can be
relied on at every moment of every run. -/
def CrashConsistent (a : Adventure) (id : String) (store : σ) (refusal : Nat → Option StoreError)
    (config : SessionConfig) : Prop :=
  ∃ opened, openOn a id (UnreliableStore.ofStore store refusal) config = .ok opened ∧
    ∀ actions : List Action, opened.through (actions.flatMap Action.phases) = opened.after actions ∧
      ∀ phases, phases <+: actions.flatMap Action.phases →
        Recoverable a id (recordOf store id) opened phases

/-- Opening leaves the record as it was. -/
theorem openOn_autosaving [Transactional σ] (ha : a.isPlayable = true) (id : String) (store : σ)
    {config : SessionConfig} (hautosave : config.autosave = true) :
    ∃ opened, openOn a id store config = .ok opened ∧ Autosaving a id opened ∧
      recordOf opened.store id = recordOf store id := by
  obtain ⟨warnings, hopen⟩ := openOn_eq ha id store config
  refine ⟨_, hopen, ⟨rfl, rfl, hautosave⟩, ?_⟩
  have hload := Transactional.recordOf_send store (.load id)
  split at hload
  · exact hload
  · exact hload

theorem crashConsistent [Transactional σ] (ha : a.isPlayable = true) (id : String) (store : σ)
    (refusal : Nat → Option StoreError) {config : SessionConfig} (hautosave : config.autosave = true) :
    CrashConsistent a id store refusal config := by
  obtain ⟨opened, hopen, hautosaving, hrecord⟩ :=
    openOn_autosaving ha id (UnreliableStore.ofStore store refusal) hautosave
  refine ⟨opened, hopen, fun actions => ⟨through_phases opened actions, fun phases _ => ?_⟩⟩
  have hrecoverable := recoverable ha hautosaving phases
  rw [hrecord] at hrecoverable
  exact hrecoverable

/-- **A crash loses no more than what was refused.** A session on a playable adventure saves its positions
in memory or in files, and any of its writes are refused. At every moment, between the two writes of a
restart too, the record is what the last accepted write has left: the position of the snapshot that was held
after it, nothing if it was the clear of a restart, or the record there was at first if none was accepted.
So a new session is at the introduction, where the first record would take it up, or at a snapshot that the
lost session has held; and once a write of a restart was accepted, nothing from before the restart comes
back. The store is any to begin with: it may hold a record of the adventure, one that does not fit it, or a file that
is no record. -/
theorem crash_consistency (ha : a.isPlayable = true) (id : String) (refusal : Nat → Option StoreError)
    (config : SessionConfig) (hautosave : config.autosave = true) :
    (∀ store : MemoryStore, CrashConsistent a id store refusal config) ∧
      ∀ store : FileStore, CrashConsistent a id store refusal config := by
  refine ⟨fun store => ?_, fun store => ?_⟩
  · exact crashConsistent ha id store refusal hautosave
  · exact crashConsistent ha id store refusal hautosave

/-- A reader of the cellar restarts at the ending, and the clear is refused. Right after it the ending is
taken up again; once the new position is saved, the restart is. -/
theorem crash_consistency_cellar :
    ∃ opened, openOn .cellar "cellar"
        (UnreliableStore.ofStore MemoryStore.empty fun n => if n = 3 then some SwitchedStore.gone else none)
        {} = .ok opened ∧
      Recoverable .cellar "cellar" (.ok none) opened [.perform .start, .perform (.choose 0), .forget] ∧
      recordOf (opened.through [.perform .start, .perform (.choose 0), .forget]).store.inner "cellar" =
        .ok (some ⟨"cellar", 2, .ofList ["lamp"]⟩) ∧
      recordOf (opened.after [.start, .choose 0, .restart]).store.inner "cellar" =
        .ok (some ⟨"cellar", 1, .empty⟩) ∧
      CrashConsistent .cellar "cellar" (FileStore.ofPath "saves" []) (fun _ => some SwitchedStore.gone) {} := by
  obtain ⟨opened, hopen, h⟩ := (crash_consistency Adventure.cellar_isPlayable "cellar"
    (fun n => if n = 3 then some SwitchedStore.gone else none) {} rfl).1 MemoryStore.empty
  have hfiles := (crash_consistency Adventure.cellar_isPlayable "cellar" (fun _ => some SwitchedStore.gone)
    {} rfl).2 (FileStore.ofPath "saves" [])
  refine ⟨opened, hopen, ?_, ?_, ?_, hfiles⟩
  · exact (h [.start, .choose 0, .restart]).2 _ (List.prefix_append _ [Phase.perform .restart])
  · cases hopen
    rfl
  · cases hopen
    rfl

end Session

end Gamebook
