import Gamebook.Proofs.RecordFiles
import Gamebook.Store.Observed
import Gamebook.Store.Switched
import Mathlib.Data.List.Nodup
import Mathlib.Data.List.TakeWhile

/-!
# What the listeners of a store are told

A store with listeners does what the store behind it does, and answers what that one answers
(`answers_and_inner`): listeners make no difference to it. A listener is told of the changes that are made
from the moment it subscribes to the moment it is taken out (`told_subscribe`), so the list of what it was
told is a journal of the store: whoever replays it arrives at the records of the store (`replay_told`).

The store behind may be any. It may fail when it is asked to write, and a write that fails is no change and is told to
nobody; a load is none either. What counts as a change is said by the call and by how it ended, and not by comparing
records, for a record that is saved again as it was is a change all the same.

Numbers are given in increasing order, and those who listen are among the numbers that have been given. This is the
invariant `Numbered`; it is why a number means one listener only. What a listener is told has two halves. While
it listens, each call adds its change, if it makes one (`told_stateAfter_of_mem`); once it is taken out, nothing is
added any more, whoever else subscribes (`told_stateAfter_of_not_mem`). The second half is where it matters that a
number is never given again: no call makes a listener of an old number.

A journal is worth what the store makes of its calls. `Journaled` asks that the records of a store change just as the
change says; the store in memory does, and so does one that refuses some writes. For a store in files it would not be
true as it stands, since adventures may share a file.
-/

namespace Gamebook

/-! ## Changes -/

namespace StoreCall

/-- The change that a call asks for, if it asks for any. -/
def event? : StoreCall → Option ProgressEvent
  | load _ => none
  | save progress => some (.saved progress)
  | clear id => some (.cleared id)

variable {σ : Type} [ProgressStore σ]

/-- The change that a call makes. One that fails makes none. -/
def change? (store : σ) (call : StoreCall) : Option ProgressEvent :=
  match (call.send store).1 with
  | none => call.event?
  | some _ => none

/-- How a call ended leaves its change, or none. -/
theorem change?_eq (store : σ) (call : StoreCall) :
    call.change? store = (call.send store).1.elim call.event? fun _ => none := by
  unfold change?
  cases (call.send store).1 <;> rfl

end StoreCall

/-- The changes that some calls make, the earliest first. -/
def changes {σ : Type} [ProgressStore σ] (store : σ) : List StoreCall → List ProgressEvent
  | [] => []
  | call :: calls => (call.change? store).toList ++ changes (call.send store).2 calls

namespace ProgressEvent

/-- Records after a change. -/
def apply (records : Table Progress) : ProgressEvent → Table Progress
  | saved progress => records.put progress.adventureId progress
  | cleared adventureId => records.erase adventureId

/-- Records after some changes. -/
def replay (records : Table Progress) (events : List ProgressEvent) : Table Progress :=
  events.foldl apply records

end ProgressEvent

open ProgressEvent (replay)

/-! ## Calls

A store with listeners is asked what any store is asked, and for listeners besides. The calls of the store behind are
the ones that remain when those about listeners are left out. -/

/-- What is asked of a store with listeners. -/
inductive ObservedCall
  | subscribe
  | unsubscribe (listener : Nat)
  | ask (call : StoreCall)
deriving DecidableEq, Repr

/-- The call of the store behind the listeners, if it is one. -/
def ObservedCall.asked? : ObservedCall → Option StoreCall
  | ask call => some call
  | _ => none

/-- The calls of the store behind the listeners. -/
def asked (calls : List ObservedCall) : List StoreCall := calls.filterMap ObservedCall.asked?

/-- What a store with listeners answers: the number of a new listener, whether there was such a listener, or
what a store answers. -/
inductive ObservedAnswer
  | number (listener : Nat)
  | present (wasThere : Bool)
  | store (answer : StoreAnswer)
deriving DecidableEq, Repr

namespace ObservedAnswer

/-- The number that is given by an answer. -/
def number? : ObservedAnswer → Option Nat
  | number listener => some listener
  | _ => none

/-- What the store behind the listeners answers. -/
def store? : ObservedAnswer → Option StoreAnswer
  | store answer => some answer
  | _ => none

end ObservedAnswer

namespace ObservedStore

variable {σ : Type} [ProgressStore σ]

/-- The answer to a call, and the store after the call. -/
def respond (store : ObservedStore σ) : ObservedCall → ObservedAnswer × ObservedStore σ
  | .subscribe => (.number store.subscribe.1, store.subscribe.2)
  | .unsubscribe listener =>
    (.present (store.unsubscribe listener).1, (store.unsubscribe listener).2)
  | .ask call => (.store (call.answer store), (call.send store).2)

/-- A store to which nobody listened at first, after some calls. -/
def observed (inner : σ) (calls : List ObservedCall) : ObservedStore σ :=
  stateAfter respond (ofStore inner) calls

omit [ProgressStore σ] in
/-- What a listener was told, the earliest first. -/
def told (store : ObservedStore σ) (listener : Nat) : List ProgressEvent :=
  (store.log.filter fun entry => entry.1 = listener).map (·.2)

/-! ## One call -/

/-- A call of the store behind the listeners is answered as that store answers. All who listen are told of
the change, and nothing else becomes different. -/
theorem respond_ask (store : ObservedStore σ) (call : StoreCall) :
    store.respond (.ask call) =
      (.store (call.answer store.inner),
        { store with
          inner := (call.send store.inner).2
          log := store.log ++ (call.change? store.inner).toList.flatMap fun event =>
            store.listeners.map fun listener => (listener, event) }) := by
  have hchange : ∀ (event : ProgressEvent) (ask : σ → Except StoreError Unit × σ),
      store.change event ask =
        ((ask store.inner).1,
          { store with
            inner := (ask store.inner).2
            log := store.log ++ (match failureOf (ask store.inner).1 with
              | none => some event
              | some _ => none).toList.flatMap fun event =>
                store.listeners.map fun listener => (listener, event) }) := by
    intro event ask
    unfold change
    rcases ask store.inner with ⟨_ | ⟨⟨⟩⟩, inner⟩
    · simp [failureOf]
    · simp [failureOf, notify]
  cases call with
  | load id =>
    have hload : (StoreCall.change? store.inner (.load id)) = none := by
      unfold StoreCall.change?
      split <;> rfl
    rw [hload]
    show (ObservedAnswer.store (.loaded (ProgressStore.load store.inner id).1),
      { store with inner := (ProgressStore.load store.inner id).2 }) = _
    simp [StoreCall.answer, StoreCall.send]
  | save progress =>
    show (ObservedAnswer.store (.written (store.change _ _).1), (store.change _ _).2) = _
    rw [hchange]
    rfl
  | clear id =>
    show (ObservedAnswer.store (.written (store.change _ _).1), (store.change _ _).2) = _
    rw [hchange]
    rfl

theorem next_respond_ask (store : ObservedStore σ) (call : StoreCall) :
    (store.respond (.ask call)).2.next = store.next := by
  rw [respond_ask]

/-- The numbers of those who listen, and of those who were told of something, have been given, each to one
listener. -/
structure Numbered (store : ObservedStore σ) : Prop where
  nodup : store.listeners.Nodup
  listeners_lt : ∀ listener ∈ store.listeners, listener < store.next
  log_lt : ∀ entry ∈ store.log, entry.1 < store.next

omit [ProgressStore σ] in
theorem numbered_ofStore (inner : σ) : Numbered (ofStore inner) where
  nodup := List.nodup_nil
  listeners_lt := fun _ h => absurd h List.not_mem_nil
  log_lt := fun _ h => absurd h List.not_mem_nil

/-- Every call keeps the numbers in order. -/
theorem Numbered.respond {store : ObservedStore σ} (h : Numbered store) (call : ObservedCall) :
    Numbered (store.respond call).2 := by
  cases call with
  | subscribe =>
    have hfresh : store.next ∉ store.listeners := by
      intro hmem
      exact Nat.lt_irrefl _ (h.listeners_lt store.next hmem)
    refine ⟨?_, ?_, ?_⟩
    · show (store.listeners ++ [store.next]).Nodup
      rw [List.nodup_append_comm, List.singleton_append]
      exact List.nodup_cons.mpr ⟨hfresh, h.nodup⟩
    · intro listener hmem
      show listener < store.next + 1
      rcases List.mem_append.mp hmem with hmem | hmem
      · exact Nat.lt_succ_of_lt (h.listeners_lt listener hmem)
      · rw [List.mem_singleton.mp hmem]
        exact Nat.lt_succ_self _
    · intro entry hentry
      exact Nat.lt_succ_of_lt (h.log_lt entry hentry)
  | unsubscribe listener =>
    refine ⟨h.nodup.filter _, ?_, h.log_lt⟩
    intro other hmem
    exact h.listeners_lt other (List.mem_filter.mp hmem).1
  | ask call =>
    rw [respond_ask]
    refine ⟨h.nodup, h.listeners_lt, ?_⟩
    intro entry hentry
    rcases List.mem_append.mp hentry with hold | hnew
    · exact h.log_lt entry hold
    · obtain ⟨event, -, hevent⟩ := List.mem_flatMap.mp hnew
      obtain ⟨listener, hlistener, rfl⟩ := List.mem_map.mp hevent
      exact h.listeners_lt listener hlistener

/-- Those who listen are told of a change once, and the others are not. -/
theorem told_respond_ask {store : ObservedStore σ} (h : Numbered store) (call : StoreCall)
    (listener : Nat) :
    (store.respond (.ask call)).2.told listener =
      store.told listener ++
        if listener ∈ store.listeners then (call.change? store.inner).toList else [] := by
  have hone : ∀ event : ProgressEvent,
      (((store.listeners.map fun other => (other, event)).filter fun entry => entry.1 = listener).map (·.2)) =
        if listener ∈ store.listeners then [event] else [] := by
    intro event
    rw [List.filter_map, List.map_map]
    show (store.listeners.filter fun other => decide (other = listener)).map (fun _ => event) = _
    rw [List.map_const', ← List.countP_eq_length_filter]
    by_cases hmem : listener ∈ store.listeners
    · have hcount : store.listeners.countP (fun other => decide (other = listener)) = 1 := by
        have h1 := List.count_eq_one_of_mem h.nodup hmem
        simpa [List.count, beq_eq_decide] using h1
      rw [if_pos hmem, hcount]
      rfl
    · have hcount : store.listeners.countP (fun other => decide (other = listener)) = 0 := by
        rw [List.countP_eq_zero]
        intro other hother heq
        exact hmem (of_decide_eq_true heq ▸ hother)
      rw [if_neg hmem, hcount]
      rfl
  rw [respond_ask]
  unfold told
  rw [List.filter_append, List.map_append]
  congr 1
  cases call.change? store.inner with
  | none => simp
  | some event =>
    have hevent := hone event
    simpa using hevent

/-! ## Many calls -/

/-- The calls of the store behind the listeners are answered as if nobody listened, and leave it as they
would then. -/
theorem answers_and_inner (store : ObservedStore σ) (calls : List ObservedCall) :
    (answersOf respond store calls).filterMap ObservedAnswer.store? =
        answersOf ProgressStore.respond store.inner (asked calls) ∧
      (stateAfter respond store calls).inner =
        stateAfter ProgressStore.respond store.inner (asked calls) := by
  induction calls generalizing store with
  | nil => exact ⟨rfl, rfl⟩
  | cons call calls ih =>
    obtain ⟨hanswers, hinner⟩ := ih (store.respond call).2
    cases call with
    | subscribe => exact ⟨hanswers, hinner⟩
    | unsubscribe listener => exact ⟨hanswers, hinner⟩
    | ask call =>
      have hstep := store.respond_ask call
      rw [hstep] at hanswers hinner
      refine ⟨?_, ?_⟩
      · show ((store.respond (.ask call)).1 ::
            answersOf respond (store.respond (.ask call)).2 calls).filterMap _ = _
        rw [hstep]
        exact congrArg (call.answer store.inner :: ·) hanswers
      · show (stateAfter respond (store.respond (.ask call)).2 calls).inner = _
        rw [hstep]
        exact hinner

/-- Numbers are given in order and without a gap. -/
theorem numbers_given (store : ObservedStore σ) (calls : List ObservedCall) :
    (answersOf respond store calls).filterMap ObservedAnswer.number? =
        List.range' store.next (calls.count .subscribe) ∧
      (stateAfter respond store calls).next = store.next + calls.count .subscribe := by
  induction calls generalizing store with
  | nil => exact ⟨rfl, rfl⟩
  | cons call calls ih =>
    obtain ⟨hnumbers, hnext⟩ := ih (store.respond call).2
    cases call with
    | subscribe =>
      rw [List.count_cons_self, List.range'_succ]
      refine ⟨congrArg (store.next :: ·) hnumbers, hnext.trans ?_⟩
      show store.next + 1 + _ = _
      omega
    | unsubscribe listener =>
      rw [List.count_cons_of_ne (by simp)]
      exact ⟨hnumbers, hnext⟩
    | ask call =>
      rw [List.count_cons_of_ne (by simp)]
      rw [next_respond_ask] at hnumbers hnext
      exact ⟨hnumbers, hnext⟩

/-- Every number that has been given stays given. -/
theorem next_le_respond (store : ObservedStore σ) (call : ObservedCall) :
    store.next ≤ (store.respond call).2.next := by
  cases call with
  | subscribe => exact Nat.le_succ store.next
  | unsubscribe listener => exact Nat.le_refl store.next
  | ask call =>
    exact Nat.le_of_eq (store.next_respond_ask call).symm

/-- Of those whose number has been given, the ones who listen after a call listened before it, and were not
taken out by it. -/
theorem mem_listeners_respond {store : ObservedStore σ} {listener : Nat} (hlt : listener < store.next)
    (call : ObservedCall) :
    listener ∈ (store.respond call).2.listeners ↔
      listener ∈ store.listeners ∧ call ≠ .unsubscribe listener := by
  cases call with
  | subscribe =>
    have hne : listener ≠ store.next := Nat.ne_of_lt hlt
    show listener ∈ store.listeners ++ [store.next] ↔ _
    simp [hne]
  | unsubscribe other =>
    show listener ∈ store.listeners.filter (· ≠ other) ↔ _
    rw [List.mem_filter, decide_eq_true_iff]
    refine and_congr_right fun _ => not_congr ⟨?_, ?_⟩
    · intro heq
      rw [heq]
    · intro heq
      exact (ObservedCall.unsubscribe.inj heq).symm
  | ask call =>
    rw [respond_ask]
    simp

theorem mem_listeners_stateAfter {store : ObservedStore σ} {listener : Nat} (hlt : listener < store.next)
    (calls : List ObservedCall) :
    listener ∈ (stateAfter respond store calls).listeners ↔
      listener ∈ store.listeners ∧ .unsubscribe listener ∉ calls := by
  induction calls generalizing store with
  | nil => simp [stateAfter]
  | cons call calls ih =>
    have hlt' : listener < (store.respond call).2.next :=
      Nat.lt_of_lt_of_le hlt (store.next_le_respond call)
    show listener ∈ (stateAfter respond (store.respond call).2 calls).listeners ↔ _
    rw [ih hlt', mem_listeners_respond hlt, List.mem_cons, not_or, and_assoc, ne_comm]

/-- Who is not asked to listen again is told nothing more. -/
theorem told_stateAfter_of_not_mem {store : ObservedStore σ} (h : Numbered store) {listener : Nat}
    (hlt : listener < store.next) (hmem : listener ∉ store.listeners) (calls : List ObservedCall) :
    (stateAfter respond store calls).told listener = store.told listener := by
  induction calls generalizing store with
  | nil => rfl
  | cons call calls ih =>
    have hlt' : listener < (store.respond call).2.next :=
      Nat.lt_of_lt_of_le hlt (store.next_le_respond call)
    have hmem' : listener ∉ (store.respond call).2.listeners := by
      rw [mem_listeners_respond hlt]
      exact fun hlistens => hmem hlistens.1
    have hlater := ih (h.respond call) hlt' hmem'
    show (stateAfter respond (store.respond call).2 calls).told listener = _
    rw [hlater]
    cases call with
    | subscribe => rfl
    | unsubscribe other => rfl
    | ask call => rw [told_respond_ask h, if_neg hmem, List.append_nil]

/-- Who listens is told of the changes that are made until it is taken out. By induction on the calls: one of the
store behind adds its change, one that takes the listener out ends it, and others make no difference. -/
theorem told_stateAfter_of_mem {store : ObservedStore σ} (h : Numbered store) {listener : Nat}
    (hmem : listener ∈ store.listeners) (calls : List ObservedCall) :
    (stateAfter respond store calls).told listener =
      store.told listener ++
        changes store.inner (asked (calls.takeWhile (· ≠ .unsubscribe listener))) := by
  induction calls generalizing store with
  | nil => exact (List.append_nil _).symm
  | cons call calls ih =>
    have hlt : listener < store.next := h.listeners_lt listener hmem
    have hlt' : listener < (store.respond call).2.next :=
      Nat.lt_of_lt_of_le hlt (store.next_le_respond call)
    show (stateAfter respond (store.respond call).2 calls).told listener = _
    by_cases hout : call = .unsubscribe listener
    · -- It is taken out: nothing that follows reaches it.
      have hgone : listener ∉ (store.respond call).2.listeners := by
        rw [mem_listeners_respond hlt]
        exact fun hlistens => hlistens.2 hout
      rw [told_stateAfter_of_not_mem (h.respond call) hlt' hgone, List.takeWhile_cons_of_neg (by simp [hout]),
        hout]
      exact (List.append_nil _).symm
    · have hstays : listener ∈ (store.respond call).2.listeners :=
        (mem_listeners_respond hlt call).mpr ⟨hmem, hout⟩
      rw [ih (h.respond call) hstays, List.takeWhile_cons_of_pos (by simp [hout])]
      cases call with
      | subscribe => rfl
      | unsubscribe other => rfl
      | ask call =>
        have hinner : (store.respond (.ask call)).2.inner = (call.send store.inner).2 := by
          rw [respond_ask]
        rw [told_respond_ask h, if_pos hmem, hinner, List.append_assoc]
        rfl

theorem numbered_observed (inner : σ) (calls : List ObservedCall) : Numbered (observed inner calls) := by
  induction calls using List.reverseRecOn with
  | nil => exact numbered_ofStore inner
  | append_singleton calls call ih =>
    rw [observed, stateAfter_concat]
    exact ih.respond call

/-- A new listener is told of the changes that are made from then on, until it is taken out. -/
theorem told_subscribe (inner : σ) (before rest : List ObservedCall) :
    (observed inner (before ++ .subscribe :: rest)).told (observed inner before).next =
      changes (observed inner before).inner
        (asked (rest.takeWhile (· ≠ .unsubscribe (observed inner before).next))) := by
  have hsplit : observed inner (before ++ .subscribe :: rest) =
      stateAfter respond ((observed inner before).respond .subscribe).2 rest :=
    stateAfter_append respond (ofStore inner) before (.subscribe :: rest)
  have h : Numbered (observed inner before) := numbered_observed inner before
  rw [hsplit]
  generalize observed inner before = store at h ⊢
  have hmem : store.next ∈ (store.respond .subscribe).2.listeners :=
    List.mem_append_right _ (List.mem_singleton.mpr rfl)
  have hnothing : store.told store.next = [] := by
    unfold told
    rw [List.map_eq_nil_iff, List.filter_eq_nil_iff]
    intro entry hentry heq
    exact Nat.ne_of_lt (h.log_lt entry hentry) (of_decide_eq_true heq)
  rw [told_stateAfter_of_mem (h.respond .subscribe) hmem rest]
  show store.told store.next ++ _ = _
  rw [hnothing]
  rfl

/-- A listener is there to be taken out as long as it has not been. -/
theorem unsubscribe_subscribe (inner : σ) (before rest : List ObservedCall) :
    let listener := (observed inner before).next
    ((observed inner (before ++ .subscribe :: rest)).unsubscribe listener).1 = true ↔
      .unsubscribe listener ∉ rest := by
  intro listener
  have hmem : listener ∈ ((observed inner before).respond .subscribe).2.listeners :=
    List.mem_append_right _ (List.mem_singleton.mpr rfl)
  have hlt : listener < ((observed inner before).respond .subscribe).2.next := Nat.lt_succ_self _
  rw [observed, stateAfter_append]
  show (stateAfter respond ((observed inner before).respond .subscribe).2 rest).listeners.contains listener
    = true ↔ _
  rw [List.contains_iff_mem, mem_listeners_stateAfter hlt]
  exact and_iff_right hmem

/-- Who has been taken out is never there again. -/
theorem unsubscribe_twice (inner : σ) (before rest : List ObservedCall) (listener : Nat)
    (h : ((observed inner before).unsubscribe listener).1 = true) :
    ((observed inner (before ++ .unsubscribe listener :: rest)).unsubscribe listener).1 = false := by
  have hmem : listener ∈ (observed inner before).listeners := List.contains_iff_mem.mp h
  have hlt : listener < (observed inner before).next :=
    (numbered_observed inner before).listeners_lt listener hmem
  rw [observed, stateAfter_append]
  show (stateAfter respond (observed inner before) (.unsubscribe listener :: rest)).listeners.contains
    listener = false
  rw [← Bool.not_eq_true, List.contains_iff_mem, mem_listeners_stateAfter hlt]
  exact fun hlistens => hlistens.2 List.mem_cons_self

omit [ProgressStore σ] in
/-- To take a listener out takes out that one and leaves the others in their order. -/
theorem Numbered.unsubscribe_eq {store : ObservedStore σ} (h : Numbered store) (listener : Nat) :
    (store.unsubscribe listener).2.listeners = store.listeners.erase listener := by
  rw [h.nodup.erase_eq_filter]
  show store.listeners.filter (fun other => decide (other ≠ listener)) = _
  refine List.filter_congr fun other _ => ?_
  exact decide_not

end ObservedStore

/-! ## Journals -/

/-- The records of a store, if a call changes them just as the change says that it makes. -/
structure Journaled {σ : Type} [ProgressStore σ] (records : σ → Table Progress) : Prop where
  send : ∀ (store : σ) (call : StoreCall),
    records (call.send store).2 = replay (records store) (call.change? store).toList

/-- The changes that some calls make, made to the records before them, give the records after them. One call does so
by assumption, and many by induction. -/
theorem Journaled.replay_changes {σ : Type} [ProgressStore σ] {records : σ → Table Progress}
    (h : Journaled records) (store : σ) (calls : List StoreCall) :
    replay (records store) (changes store calls) =
      records (stateAfter ProgressStore.respond store calls) := by
  induction calls generalizing store with
  | nil => rfl
  | cons call calls ih =>
    have hfirst : replay (records store) (changes store (call :: calls)) =
        replay (replay (records store) (call.change? store).toList) (changes (call.send store).2 calls) :=
      List.foldl_append
    rw [hfirst, ← h.send store call, ih]
    rfl

theorem MemoryStore.journaled : Journaled MemoryStore.records where
  send := by
    intro store call
    cases call with
    | load id => rfl
    | save progress => rfl
    | clear id => rfl

/-- A write that is refused does not reach the store behind, and is no change. -/
theorem UnreliableStore.journaled {σ : Type} [ProgressStore σ] {records : σ → Table Progress}
    (h : Journaled records) : Journaled fun store : UnreliableStore σ => records store.inner where
  send := by
    intro store call
    have hwrite : ∀ answer : Except StoreError Unit × σ,
        records answer.2 = replay (records store.inner)
          ((failureOf answer.1).elim call.event? fun _ => none).toList →
        records (store.write call answer).2.inner = replay (records store.inner)
          ((failureOf (store.write call answer).1).elim call.event? fun _ => none).toList := by
      intro answer hanswer
      unfold write
      split
      · rfl
      · exact hanswer
    have hinner := h.send store.inner call
    rw [StoreCall.change?_eq] at hinner ⊢
    cases call with
    | load id => exact hinner
    | save progress => exact hwrite _ hinner
    | clear id => exact hwrite _ hinner

/-! ## The journal of a listener -/

namespace ObservedStore

/-- Who listens from the start and is not taken out is told of all changes. -/
theorem replay_told {σ : Type} [ProgressStore σ] {records : σ → Table Progress} (h : Journaled records)
    (inner : σ) {before rest : List ObservedCall}
    (hbefore : asked before = [])
    (hrest : .unsubscribe (observed inner before).next ∉ rest) :
    replay (records inner)
        ((observed inner (before ++ .subscribe :: rest)).told (observed inner before).next) =
      records (observed inner (before ++ .subscribe :: rest)).inner := by
  have hstart : (observed inner before).inner = inner := by
    have hinner := (answers_and_inner (ofStore inner) before).2
    rw [hbefore] at hinner
    exact hinner
  have hall : rest.takeWhile (· ≠ .unsubscribe (observed inner before).next) = rest := by
    rw [List.takeWhile_eq_self_iff]
    intro call hcall
    have hne : call ≠ .unsubscribe (observed inner before).next := by
      rintro rfl
      exact hrest hcall
    simpa using hne
  have hend : (observed inner (before ++ .subscribe :: rest)).inner =
      stateAfter ProgressStore.respond inner (asked rest) := by
    have hinner := (answers_and_inner (ofStore inner) (before ++ .subscribe :: rest)).2
    have hasked : asked (before ++ .subscribe :: rest) = asked rest := by
      rw [asked, List.filterMap_append, ← asked, hbefore]
      rfl
    rw [hasked] at hinner
    exact hinner
  rw [told_subscribe, hall, hstart, hend, h.replay_changes]

/-- **Listeners make no difference to a store, and what each is told is a journal of its time.** A store is
asked, listened to and left by `before`, then someone listens, and `rest` follows.

The store behind the listeners answers as if nobody listened, with the same failures, and becomes what it
would then be. The new listener is told of the changes that succeed from then on until it is taken out, once
of each and in order, and of nothing else. Numbers are given in order, each once; a listener can be taken out
as long as it has not been, and never again; the others stay. So whoever listens from the start can replay
what it was told over the first records and has the last, for records in memory, also if some of the writes
are refused. Both lists of calls are any, with others who subscribe and are taken out in between. -/
theorem transparent_and_faithful {σ : Type} [ProgressStore σ] (inner : σ)
    (before rest : List ObservedCall) :
    let listener := (observed inner before).subscribe.1
    let final := observed inner (before ++ .subscribe :: rest)
    ((answersOf respond (ofStore inner) before).filterMap ObservedAnswer.store? =
        answersOf ProgressStore.respond inner (asked before) ∧
      (observed inner before).inner = stateAfter ProgressStore.respond inner (asked before)) ∧
    final.told listener = changes (stateAfter ProgressStore.respond inner (asked before))
      (asked (rest.takeWhile (· ≠ .unsubscribe listener))) ∧
    (answersOf respond (ofStore inner) before).filterMap ObservedAnswer.number? =
      List.range (before.count .subscribe) ∧
    ((final.unsubscribe listener).1 = true ↔ .unsubscribe listener ∉ rest) ∧
    (∀ other : Nat,
      ((observed inner before).unsubscribe other).2.listeners =
        (observed inner before).listeners.erase other ∧
      (((observed inner before).unsubscribe other).1 = true →
        ((observed inner (before ++ .unsubscribe other :: rest)).unsubscribe other).1 = false)) ∧
    ∀ memory : MemoryStore, asked before = [] → .unsubscribe (observed memory before).subscribe.1 ∉ rest →
      replay memory.records ((observed memory (before ++ .subscribe :: rest)).told
          (observed memory before).subscribe.1) =
        (observed memory (before ++ .subscribe :: rest)).inner.records ∧
      ∀ refusal : Nat → Option StoreError,
        let store := UnreliableStore.ofStore memory refusal
        replay memory.records ((observed store (before ++ .subscribe :: rest)).told
            (observed store before).subscribe.1) =
          (observed store (before ++ .subscribe :: rest)).inner.inner.records := by
  intro listener final
  have hbehind := answers_and_inner (ofStore inner) before
  have hnumbered := numbered_observed inner before
  refine ⟨hbehind, ?_, ?_, unsubscribe_subscribe inner before rest, ?_, ?_⟩
  · have htold := told_subscribe inner before rest
    rw [show (observed inner before).inner = _ from hbehind.2] at htold
    exact htold
  · have hnumbers := (numbers_given (ofStore inner) before).1
    rw [List.range_eq_range']
    exact hnumbers
  · intro other
    exact ⟨hnumbered.unsubscribe_eq other, unsubscribe_twice inner before rest other⟩
  · intro memory hbefore hrest
    refine ⟨replay_told MemoryStore.journaled memory hbefore hrest, ?_⟩
    intro refusal store
    -- The number of a listener does not depend on the store.
    have hsame : (observed store before).next = (observed memory before).next :=
      (numbers_given (ofStore store) before).2.trans (numbers_given (ofStore memory) before).2.symm
    have hrest' : .unsubscribe (observed store before).next ∉ rest := by
      rw [hsame]
      exact hrest
    exact replay_told (UnreliableStore.journaled MemoryStore.journaled) store hbefore hrest'

/-- Of two listeners to a store in memory that refuses its first write, one listens all the time and one
until it is taken out. What the first was told makes the records of the store. -/
theorem transparent_and_faithful_refused :
    let refusal : Nat → Option StoreError := fun n => if n = 0 then some SwitchedStore.gone else none
    let store := UnreliableStore.ofStore MemoryStore.empty refusal
    let here : Progress := ⟨"cellar", 1, .empty⟩
    let there : Progress := ⟨"cellar", 2, .empty⟩
    let rest : List ObservedCall := [.ask (.save here), .subscribe, .ask (.save there), .unsubscribe 1,
      .ask (.load "cellar"), .ask (.clear "attic")]
    .unsubscribe (observed MemoryStore.empty []).subscribe.1 ∉ rest ∧
      (observed store (.subscribe :: rest)).told 0 = [.saved there, .cleared "attic"] ∧
      (observed store (.subscribe :: rest)).told 1 = [.saved there] ∧
      replay [] ((observed store (.subscribe :: rest)).told 0) =
        (observed store (.subscribe :: rest)).inner.inner.records ∧
      ((observed store (.subscribe :: rest)).unsubscribe 1).1 = false := by
  intro refusal store here there rest
  have hrest : ObservedCall.unsubscribe (observed MemoryStore.empty []).subscribe.1 ∉ rest := by decide
  have hthere : ((observed store [.subscribe, .ask (.save here), .subscribe, .ask (.save there)]).unsubscribe
      1).1 = true := by decide
  have hfirst := transparent_and_faithful store [] rest
  have hsecond := transparent_and_faithful store
    [.subscribe, .ask (.save here), .subscribe, .ask (.save there)]
    [.ask (.load "cellar"), .ask (.clear "attic")]
  have htold := transparent_and_faithful store [.subscribe, .ask (.save here)]
    [.ask (.save there), .unsubscribe 1, .ask (.load "cellar"), .ask (.clear "attic")]
  refine ⟨hrest, hfirst.2.1, htold.2.1, ?_, ?_⟩
  · exact (hfirst.2.2.2.2.2 MemoryStore.empty rfl hrest).2 refusal
  · exact (hsecond.2.2.2.2.1 1).2 hthere

end ObservedStore

end Gamebook
