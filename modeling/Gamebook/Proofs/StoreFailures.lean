import Gamebook.Proofs.StoreCalls
import Gamebook.Store.Memory
import Gamebook.Store.Switched

/-!
# Play goes on whatever the store does

Whatever writes the store refuses, and whatever it does on its own account, a session answers each action as
the transition function does. Which calls it makes is known from the transition function alone (`AsksAll`),
and each that fails leaves one warning.

So there are three accounts of one run, and they are independent of each other. What the reader is answered is said by
the transition function, without a store. What the store is asked for is said by the transition function too, in
`Asks`: nothing for an action that fails, the new position for one that is made, and the clear of the old record before
that for a restart. And what the reader is warned of is said by the log, which knows how each call ended. A failure
appears in the third account and in neither of the others, and that is what it means that it never influences play. A
session that tried a failed save again, or kept the old position until it had saved the new one, would be found out.

The step lemma is `told_act`: one action makes the calls it should and warns of those that fail. The run
lemma is `told_after`. Both are about `Told`, which speaks of two moments of a session and composes; so an action of two
calls is two of one. Without autosave no calls are made after the first, and the statements carry this as a condition in
front of the calls.

A restart on an adventure without passage 1 would clear the record and then fail. On a sound adventure it cannot, and
only there are the calls those of `Asks`.
-/

namespace Gamebook

namespace Snapshot

/-- What the transition function answers to some actions, each taken from where the ones before it have
led. -/
def answers (a : Adventure) (s : Snapshot) : List Action → List (Except PlayError Snapshot)
  | [] => []
  | action :: actions => s.step a action :: (s.next a action).answers a actions

/-- The calls that an action amounts to: none if it fails, a save of the new position if it is made, and
before that, for a restart, that the record is cleared. -/
inductive Asks (a : Adventure) (id : String) (s : Snapshot) : Action → List StoreCall → Prop
  | failed {action : Action} {e : PlayError} : s.step a action = .error e → Asks a id s action []
  | moved {action : Action} {t : Snapshot} {passage : PassageId} :
      action ≠ .restart → s.step a action = .ok t → t.state.passageId? = some passage →
      Asks a id s action [.save ⟨id, passage, t.inventory⟩]
  | restarted {t : Snapshot} {passage : PassageId} :
      s.step a .restart = .ok t → t.state.passageId? = some passage →
      Asks a id s .restart [.clear id, .save ⟨id, passage, t.inventory⟩]

/-- The calls that some actions amount to, in order. -/
inductive AsksAll (a : Adventure) (id : String) : Snapshot → List Action → List StoreCall → Prop
  | nil {s : Snapshot} : AsksAll a id s [] []
  | cons {s : Snapshot} {action : Action} {actions : List Action} {calls later : List StoreCall} :
      Asks a id s action calls → AsksAll a id (s.next a action) actions later →
      AsksAll a id s (action :: actions) (calls ++ later)

end Snapshot

namespace Session

/-! ## Answers -/

section Answers

variable {σ : Type} [ProgressStore σ]

/-- What a session answers to some actions: the error, or the snapshot it has then. -/
def answers (s : Session σ) : List Action → List (Except PlayError Snapshot)
  | [] => []
  | action :: actions =>
    ((s.act action).1.map fun _ => (s.act action).2.snapshot) :: (s.act action).2.answers actions

/-- A session answers as the transition function does. -/
theorem answers_eq (s : Session σ) (actions : List Action) :
    s.answers actions = s.snapshot.answers s.adventure actions := by
  induction actions generalizing s with
  | nil => rfl
  | cons action actions ih =>
    have hanswer : ((s.act action).1.map fun _ => (s.act action).2.snapshot) =
        s.snapshot.step s.adventure action := by
      rw [(s.act_eq action).1, act_snapshot, Snapshot.next]
      cases s.snapshot.step s.adventure action <;> rfl
    rw [answers, Snapshot.answers, hanswer, ih, act_snapshot, act_adventure]

theorem act_adventureId (s : Session σ) (action : Action) :
    (s.act action).2.adventureId = s.adventureId := by
  obtain ⟨store, warnings, h⟩ := (s.act_eq action).2
  rw [h]

theorem act_config (s : Session σ) (action : Action) : (s.act action).2.config = s.config := by
  obtain ⟨store, warnings, h⟩ := (s.act_eq action).2
  rw [h]

theorem forget_adventureId (s : Session σ) : s.forget.adventureId = s.adventureId := by
  obtain ⟨store, warnings, h⟩ := s.forget_keeps
  rw [h]

theorem forget_config (s : Session σ) : s.forget.config = s.config := by
  obtain ⟨store, warnings, h⟩ := s.forget_keeps
  rw [h]

theorem forget_step (s : Session σ) (action : Action) :
    s.forget.snapshot.step s.forget.adventure action = s.snapshot.step s.adventure action := by
  obtain ⟨store, warnings, h⟩ := s.forget_keeps
  rw [h]

theorem after_append (s : Session σ) (actions later : List Action) :
    s.after (actions ++ later) = (s.after actions).after later := by
  rw [after, List.foldl_append]
  rfl

end Answers

/-! ## Calls and warnings -/

section Told

variable {σ : Type} {s t u : Session (UnreliableStore σ)} {calls later : List StoreCall}

/-- From one moment of a session to another its store has received some calls, and a warning has been noted
of each that has failed, in order. -/
def Told (s t : Session (UnreliableStore σ)) (calls : List StoreCall) : Prop :=
  ∃ replies : List StoreReply, replies.map (·.call) = calls ∧
    t.store.log = s.store.log ++ replies ∧ t.warnings = s.warnings ++ replies.filterMap (·.warning?)

theorem Told.none (hstore : t.store = s.store) (hwarnings : t.warnings = s.warnings) : Told s t [] :=
  ⟨[], rfl, by simp [hstore], by simp [hwarnings]⟩

theorem Told.trans (h : Told s t calls) (h' : Told t u later) : Told s u (calls ++ later) := by
  obtain ⟨replies, hcalls, hlog, hwarnings⟩ := h
  obtain ⟨replies', hcalls', hlog', hwarnings'⟩ := h'
  refine ⟨replies ++ replies', ?_, ?_, ?_⟩
  · rw [List.map_append, hcalls, hcalls']
  · rw [hlog', hlog, List.append_assoc]
  · rw [hwarnings', hwarnings, List.filterMap_append, List.append_assoc]

/-- Calls that are made on the same condition are made one after the other on that condition. -/
theorem Told.trans_ite {condition : Prop} [Decidable condition]
    (h : Told s t (if condition then calls else [])) (h' : Told t u (if condition then later else [])) :
    Told s u (if condition then calls ++ later else []) := by
  by_cases hcondition : condition
  · rw [if_pos hcondition] at h h' ⊢
    exact h.trans h'
  · rw [if_neg hcondition] at h h' ⊢
    exact h.trans h'

end Told

variable {σ : Type} [ProgressStore σ] {s : Session (UnreliableStore σ)}

theorem told_tell (s : Session (UnreliableStore σ)) (call : StoreCall) : Told s (s.tell call) [call] := by
  refine ⟨[⟨call, (call.send s.store).1⟩], rfl, s.store.log_send call, ?_⟩
  exact congrArg (s.warnings ++ ·) (StoreReply.warning?_toList _)

/-- To forget the record makes one call, or none. -/
theorem told_forget (s : Session (UnreliableStore σ)) :
    Told s s.forget (if s.config.autosave then [.clear s.adventureId] else []) := by
  rw [forget_eq]
  split
  · exact told_tell s _
  · exact .none rfl rfl

/-- A transition that fails makes no call. -/
theorem told_perform_error {action : Action} {e : PlayError}
    (h : s.snapshot.step s.adventure action = .error e) : Told s (s.perform action).2 [] := by
  unfold perform
  rw [h]
  exact .none rfl rfl

/-- A transition that is made makes one call, which saves the position. -/
theorem told_perform_ok {action : Action} {t : Snapshot}
    (h : s.snapshot.step s.adventure action = .ok t) :
    ∃ passage, t.state.passageId? = some passage ∧ Told s (s.perform action).2
      (if s.config.autosave then [.save ⟨s.adventureId, passage, t.inventory⟩] else []) := by
  rcases s.perform_cases action with ⟨e, herror, -⟩ | ⟨t', passage, hok, hpassage, hperform⟩
  · rw [h] at herror
    cases herror
  · obtain rfl : t = t' := Except.ok.inj (h.symm.trans hok)
    refine ⟨passage, hpassage, ?_⟩
    rw [hperform]
    -- The snapshot is replaced before the call is made, which the store does not see.
    have hbefore : Told s { s with snapshot := t } [] := .none rfl rfl
    split
    · exact hbefore.trans (told_tell _ _)
    · exact hbefore

theorem asks_perform {action : Action} (haction : action ≠ .restart) :
    ∃ calls, s.snapshot.Asks s.adventure s.adventureId action calls ∧
      Told s (s.perform action).2 (if s.config.autosave then calls else []) := by
  cases hstep : s.snapshot.step s.adventure action with
  | error e =>
    refine ⟨[], .failed hstep, ?_⟩
    rw [ite_self]
    exact told_perform_error hstep
  | ok t =>
    obtain ⟨passage, hpassage, htold⟩ := told_perform_ok hstep
    exact ⟨_, .moved haction hstep hpassage, htold⟩

/-- An action makes the calls it amounts to, and a warning is noted of each of them that fails. -/
theorem told_act (ha : s.adventure.Sound) (action : Action) :
    ∃ calls, s.snapshot.Asks s.adventure s.adventureId action calls ∧
      Told s (s.act action).2 (if s.config.autosave then calls else []) := by
  cases action with
  | start =>
    have hstart : Action.start ≠ .restart := by simp
    exact asks_perform hstart
  | choose index =>
    have hchoose : Action.choose index ≠ .restart := by simp
    exact asks_perform hchoose
  | restart =>
    -- A restart is always made, and so the record that it clears is always saved again.
    obtain ⟨t, ht⟩ := Snapshot.exists_restart ha s.snapshot
    obtain ⟨passage, hpassage, htold⟩ := told_perform_ok ((forget_step s .restart).trans ht)
    refine ⟨_, .restarted ht hpassage, ?_⟩
    rw [forget_config, forget_adventureId] at htold
    exact (told_forget s).trans_ite htold

/-- **Some actions make the calls they amount to.** By induction on the actions, each taken from where the ones
before it have led. -/
theorem told_after (ha : s.adventure.Sound) (actions : List Action) :
    ∃ calls, s.snapshot.AsksAll s.adventure s.adventureId actions calls ∧
      Told s (s.after actions) (if s.config.autosave then calls else []) := by
  induction actions generalizing s with
  | nil =>
    refine ⟨[], .nil, ?_⟩
    rw [ite_self]
    exact .none rfl rfl
  | cons action actions ih =>
    obtain ⟨calls, hasks, htold⟩ := told_act ha action
    have ha' : (s.act action).2.adventure.Sound := by
      rw [act_adventure]
      exact ha
    obtain ⟨later, hlater, htold'⟩ := ih ha'
    rw [act_adventure, act_adventureId, act_snapshot] at hlater
    rw [act_config] at htold'
    exact ⟨calls ++ later, .cons hasks hlater, htold.trans_ite htold'⟩

/-! ## Opening -/

/-- The warning about a record of a passage that does not exist. -/
def staleWarnings (a : Adventure) : Except StoreError (Option Progress) → List String
  | .ok (some progress) =>
    match a.passage? progress.passage with
    | none => ["discarding saved progress: " ++ (LookupError.passage progress.passage).message]
    | some _ => []
  | _ => []

/-- Opening makes one call, which loads the record, and warns if it fails or if the record is of no
use. -/
theorem openOn_warnings {τ : Type} [ProgressStore τ] {a : Adventure} (h : a.isPlayable = true)
    (id : String) (store : τ) (config : SessionConfig) :
    openOn a id store config = .ok ⟨a, id, (ProgressStore.load store id).2, config,
      .opening a (ProgressStore.load store id).1,
      staleWarnings a (ProgressStore.load store id).1 ++
        (StoreReply.warning? ⟨.load id, failureOf (ProgressStore.load store id).1⟩).toList⟩ := by
  unfold openOn
  rw [if_pos (by exact h)]
  unfold hydrate
  cases ProgressStore.load store id with
  | mk loaded store' =>
    cases loaded with
    | error e => rfl
    | ok record =>
      cases record with
      | none => rfl
      | some progress =>
        cases hpassage : a.passage? progress.passage with
        | none =>
          have hresume : Snapshot.resume a progress = .error (.passage progress.passage) := by
            rw [Snapshot.resume, Adventure.passage, hpassage]
            rfl
          simp only [Snapshot.opening, staleWarnings, hresume, hpassage]
          rfl
        | some p =>
          have hresume : Snapshot.resume a progress = .ok ⟨.arrived p, progress.inventory⟩ :=
            Snapshot.resume_eq_ok_iff.mpr ⟨p, hpassage, rfl⟩
          simp only [Snapshot.opening, staleWarnings, hresume, hpassage]
          rfl

theorem openOn_unreliable {a : Adventure} (h : a.isPlayable = true) (id : String) (store : σ)
    (refusal : Nat → Option StoreError) (config : SessionConfig) :
    ∃ opened, openOn a id (UnreliableStore.ofStore store refusal) config = .ok opened ∧
      opened.adventure = a ∧ opened.adventureId = id ∧ opened.config = config ∧
      opened.store.log.map (·.call) = [.load id] ∧
      opened.warnings = staleWarnings a (ProgressStore.load store id).1 ++
        opened.store.log.filterMap (·.warning?) := by
  refine ⟨_, openOn_warnings h id _ config, rfl, rfl, rfl, rfl, ?_⟩
  exact congrArg (staleWarnings a (ProgressStore.load store id).1 ++ ·) (StoreReply.warning?_toList _)

/-- Warnings are never withdrawn. -/
theorem warnings_prefix (ha : s.adventure.Sound) (actions later : List Action) :
    (s.after actions).warnings <+: (s.after (actions ++ later)).warnings := by
  have ha' : (s.after actions).adventure.Sound := by
    rw [after_adventure]
    exact ha
  obtain ⟨_, -, replies, -, -, hwarnings⟩ := told_after ha' later
  rw [after_append, hwarnings]
  exact List.prefix_append _ _

/-- **Store failures never influence play.** Over any store, of which any writes are refused, a session on a
playable adventure answers as the transition function does and has the snapshots that it says. The store
receives one load when the session is opened, and then, if positions are saved, the calls that the actions
amount to, and no others. There is one warning for each call that has failed, in order, after one for a
record of a passage that does not exist; and none is ever withdrawn. Which writes are refused, and with which failures,
is any function of the number of the call. -/
theorem store_failures_never_influence_play {a : Adventure} (h : a.isPlayable = true) (id : String)
    (store : σ) (refusal : Nat → Option StoreError) (config : SessionConfig) :
    ∃ opened, openOn a id (UnreliableStore.ofStore store refusal) config = .ok opened ∧
      ∀ actions : List Action,
        opened.answers actions = opened.snapshot.answers a actions ∧
        (opened.after actions).snapshot = opened.snapshot.after a actions ∧
        (∃ calls, opened.snapshot.AsksAll a id actions calls ∧
          (opened.after actions).store.log.map (·.call) =
            .load id :: if config.autosave then calls else []) ∧
        (opened.after actions).warnings =
          staleWarnings a (ProgressStore.load store id).1 ++
            (opened.after actions).store.log.filterMap (·.warning?) ∧
        ∀ later, (opened.after actions).warnings <+: (opened.after (actions ++ later)).warnings := by
  obtain ⟨opened, hopen, rfl, rfl, rfl, hload, hstale⟩ := openOn_unreliable h id store refusal config
  have ha : opened.adventure.Sound := Adventure.sound_of_isPlayable h
  refine ⟨opened, hopen, fun actions => ?_⟩
  obtain ⟨calls, hasks, replies, hcalls, hlog, hwarnings⟩ := told_after ha actions
  refine ⟨opened.answers_eq actions, opened.after_snapshot actions, ⟨calls, hasks, ?_⟩, ?_, ?_⟩
  · rw [hlog, List.map_append, hload, hcalls]
    rfl
  · rw [hwarnings, hstale, hlog, List.filterMap_append, List.append_assoc]
  · exact warnings_prefix ha actions

/-- A reader of the cellar whose store refuses every write gets the same answers, and four warnings: of
two saves, and of the clear and the save of a restart. -/
theorem store_failures_never_influence_play_cellar :
    ∃ opened, openOn .cellar "cellar"
        (UnreliableStore.ofStore MemoryStore.empty fun _ => some SwitchedStore.gone) {} = .ok opened ∧
      opened.answers [.start, .choose 0, .restart] =
        opened.snapshot.answers .cellar [.start, .choose 0, .restart] ∧
      (opened.after [.start, .choose 0, .restart]).warnings =
        ["could not save progress: IO error: disk gone",
          "could not save progress: IO error: disk gone",
          "could not clear saved progress: IO error: disk gone",
          "could not save progress: IO error: disk gone"] := by
  obtain ⟨opened, hopen, h⟩ := store_failures_never_influence_play Adventure.cellar_isPlayable "cellar"
    MemoryStore.empty (fun _ => some SwitchedStore.gone) {}
  refine ⟨opened, hopen, (h _).1, ?_⟩
  cases hopen
  decide

end Session

end Gamebook
