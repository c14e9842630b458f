import Gamebook.Proofs.Session

/-!
# What a session asks of its store

A session does two things with a store once it is open: it makes a call, and it notes a warning if the call
fails. This is `Session.tell`, and actions are said in terms of it: `forget_eq` and `perform_cases` are all
that later proofs use of a session's dealings with its store. Whoever changes how a session saves has these two to
repair.

A call is a value here, so that what a session has asked for can be listed, compared with what it should have asked for,
and made again of another store. How a call ends is a failure or none: of a load the record is left out, which matters
when a session is opened and at no other time.

An `UnreliableStore` refuses some of the writes that it is asked for, as a script says, and keeps a log of
all calls with how they ended. Over it, one can say which calls a session makes, for every pattern of
failures. It stands between a session and any other store, and is a store like any other to the session; so what is
proved of sessions over all stores holds over this one, and its log is only looked at from outside. What is refused does
not reach the store behind. A failure of that store itself is in the log in the same way.
-/

namespace Gamebook

/-- A call of an operation of a store. -/
inductive StoreCall
  | load (adventureId : String)
  | save (progress : Progress)
  | clear (adventureId : String)
deriving DecidableEq, Repr

/-- A call, and the failure it ended with if it failed. -/
structure StoreReply where
  call : StoreCall
  failure : Option StoreError

/-- The failure that a result is, if it is one. -/
def failureOf {α : Type} : Except StoreError α → Option StoreError
  | .ok _ => none
  | .error e => some e

namespace StoreCall

/-- The failure with which a call of a store ends, if it fails, and the store after the call. -/
def send {σ : Type} [ProgressStore σ] (store : σ) : StoreCall → Option StoreError × σ
  | load id => ((failureOf (ProgressStore.load store id).1), (ProgressStore.load store id).2)
  | save progress =>
    (failureOf (ProgressStore.save store progress).1, (ProgressStore.save store progress).2)
  | clear id => (failureOf (ProgressStore.clear store id).1, (ProgressStore.clear store id).2)

/-- The warning about a call that has failed. -/
def warning (call : StoreCall) (e : StoreError) : String :=
  match call with
  | load _ => "could not load saved progress: " ++ e.message
  | save _ => "could not save progress: " ++ e.message
  | clear _ => "could not clear saved progress: " ++ e.message

end StoreCall

/-- The warning about a call, if it has failed. -/
def StoreReply.warning? (reply : StoreReply) : Option String := reply.failure.map reply.call.warning

theorem StoreReply.warning?_toList (reply : StoreReply) :
    reply.warning?.toList = [reply].filterMap (·.warning?) := by
  cases h : reply.warning? <;> simp [h]

/-! ## Sessions and their stores -/

namespace Session

variable {σ : Type} [ProgressStore σ]

/-- A call of the store, and a warning if it fails. -/
def tell (s : Session σ) (call : StoreCall) : Session σ :=
  { s with
    store := (call.send s.store).2
    warnings := s.warnings ++ (StoreReply.warning? ⟨call, (call.send s.store).1⟩).toList }

theorem forget_eq (s : Session σ) :
    s.forget = if s.config.autosave then s.tell (.clear s.adventureId) else s := by
  unfold forget tell
  split
  · simp only [StoreCall.send]
    rcases ProgressStore.clear s.store s.adventureId with ⟨_ | e, store⟩
    · rfl
    · simp [failureOf, StoreReply.warning?]
  · rfl

theorem persist_eq {s : Session σ} {progress : Progress}
    (h : s.snapshot.progress? s.adventureId = some progress) :
    s.persist = if s.config.autosave then s.tell (.save progress) else s := by
  obtain ⟨passage, hpassage, rfl⟩ := Option.map_eq_some_iff.mp h
  unfold persist tell
  rw [hpassage]
  split
  · simp only [StoreCall.send]
    rcases ProgressStore.save s.store ⟨s.adventureId, passage, s.snapshot.inventory⟩ with ⟨_ | e, store⟩
    · rfl
    · simp [failureOf, StoreReply.warning?]
  · rfl

/-- **A transition fails and leaves the session as it is; or it is made, and the position saved.** There is no third
way: a position can always be saved once play has started, and whether the save succeeds does not change the answer. -/
theorem perform_cases (s : Session σ) (action : Action) :
    (∃ e, s.snapshot.step s.adventure action = .error e ∧ s.perform action = (.error e, s)) ∨
    (∃ t passage, s.snapshot.step s.adventure action = .ok t ∧ t.state.passageId? = some passage ∧
      s.perform action = (.ok (),
        if s.config.autosave then
          { s with snapshot := t }.tell (.save ⟨s.adventureId, passage, t.inventory⟩)
        else { s with snapshot := t })) := by
  unfold perform
  cases hstep : s.snapshot.step s.adventure action with
  | error e => exact .inl ⟨e, rfl, rfl⟩
  | ok t =>
    obtain ⟨id, p, -, hstate⟩ := (Snapshot.step_eq_ok_iff.mp hstep).arrived
    have hpassage : t.state.passageId? = some p.id := by
      rw [hstate, PlayState.passageId?_arrived]
    have hprogress : t.progress? s.adventureId = some ⟨s.adventureId, p.id, t.inventory⟩ := by
      rw [Snapshot.progress?, hpassage]
      rfl
    exact .inr ⟨t, p.id, rfl, hpassage,
      congrArg (Prod.mk _) (persist_eq (s := { s with snapshot := t }) hprogress)⟩

end Session

/-! ## Unreliable stores -/

/-- A store that refuses some of the writes it is asked for. The script says which, by the number of the
call, and with which failure; what is refused does not reach the store behind. -/
structure UnreliableStore (σ : Type) where
  inner : σ
  refusal : Nat → Option StoreError
  log : List StoreReply

namespace UnreliableStore

variable {σ α : Type}

/-- A store that has not been asked for anything yet. -/
def ofStore (inner : σ) (refusal : Nat → Option StoreError) : UnreliableStore σ := ⟨inner, refusal, []⟩

/-- Notes a call and its result, from which it is seen whether it failed. -/
def note (store : UnreliableStore σ) (call : StoreCall) (answer : Except StoreError α × σ) :
    Except StoreError α × UnreliableStore σ :=
  (answer.1, { store with inner := answer.2, log := store.log ++ [⟨call, failureOf answer.1⟩] })

/-- A write, unless the script refuses it. -/
def write (store : UnreliableStore σ) (call : StoreCall) (answer : Except StoreError Unit × σ) :
    Except StoreError Unit × UnreliableStore σ :=
  match store.refusal store.log.length with
  | some e => store.note call (.error e, store.inner)
  | none => store.note call answer

instance [ProgressStore σ] : ProgressStore (UnreliableStore σ) where
  load store id := store.note (.load id) (ProgressStore.load store.inner id)
  save store progress := store.write (.save progress) (ProgressStore.save store.inner progress)
  clear store id := store.write (.clear id) (ProgressStore.clear store.inner id)

theorem log_write (store : UnreliableStore σ) (call : StoreCall) (answer : Except StoreError Unit × σ) :
    (store.write call answer).2.log =
      store.log ++ [⟨call, failureOf (store.write call answer).1⟩] := by
  unfold write
  split <;> rfl

/-- Every call is noted with how it ended. -/
theorem log_send [ProgressStore σ] (store : UnreliableStore σ) (call : StoreCall) :
    (call.send store).2.log = store.log ++ [⟨call, (call.send store).1⟩] := by
  cases call with
  | load id => rfl
  | save progress => exact store.log_write _ _
  | clear id => exact store.log_write _ _

end UnreliableStore

end Gamebook
