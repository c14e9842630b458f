import Gamebook.Proofs.Play
import Gamebook.Session
import Gamebook.Store.Memory

/-!
# Sessions play as the transition function says

A session is what a reader in a terminal plays with: an adventure, a store, and a snapshot. It saves its position after
each transition, clears the record before a restart, and notes a warning where the store fails. What it answers to an
action, and the snapshot it has then, is what `Snapshot.step` says of the snapshot before; the store has no part in it
(`act_eq`). So what holds of play holds of sessions, whatever their store does.

The store can be any that answers calls at all. It may fail whenever it likes, lose what it was given, or answer with a
record that nobody has saved; no law of stores is used here. It has its one say when the session is opened: play begins
at the record that it answers, if the passage is there, and at the introduction otherwise (`Snapshot.opening`). After
that nothing it answers is looked at but for a warning, and this is what `persist_keeps` and `forget_keeps` say.

On a playable adventure this means that a session never gets stuck (`never_stuck`). The invariant is that of play: the
snapshot is at a place of play, and what is carried is declared or comes from the record. It holds when the session
opens, whatever the record is, and every action keeps it.
-/

namespace Gamebook

/-- Where play begins, given what a store answered when it was asked for a record. -/
def Snapshot.opening (a : Adventure) : Except StoreError (Option Progress) → Snapshot
  | .ok (some progress) =>
    match Snapshot.resume a progress with
    | .ok s => s
    | .error _ => .initial
  | _ => .initial

namespace Session

variable {σ : Type} {a : Adventure}

/-- The labels are those of the choices on offer. -/
theorem labels_eq (s : Session σ) :
    s.labels = (s.snapshot.choices s.adventure).map fun choice => choice.label s.config.showTargets := by
  unfold labels passage? Snapshot.choices
  cases s.snapshot.state <;> cases s.snapshot.passage? s.adventure <;> rfl

theorem labels_length (s : Session σ) : s.labels.length = (s.snapshot.choices s.adventure).length := by
  simp [labels_eq]

theorem labels_eq_nil_iff {s : Session σ} : s.labels = [] ↔ s.snapshot.choices s.adventure = [] := by
  simp [labels_eq]

/-! ## What the store cannot change -/

variable [ProgressStore σ]

theorem persist_keeps (s : Session σ) :
    ∃ store warnings, s.persist = { s with store := store, warnings := warnings } := by
  unfold persist
  split
  · split
    · exact ⟨_, _, rfl⟩
    · dsimp only
      split
      · exact ⟨_, _, rfl⟩
      · exact ⟨_, _, rfl⟩
  · exact ⟨_, _, rfl⟩

theorem forget_keeps (s : Session σ) :
    ∃ store warnings, s.forget = { s with store := store, warnings := warnings } := by
  unfold forget
  split
  · dsimp only
    split
    · exact ⟨_, _, rfl⟩
    · exact ⟨_, _, rfl⟩
  · exact ⟨_, _, rfl⟩

theorem perform_eq (s : Session σ) (action : Action) :
    (s.perform action).1 = (s.snapshot.step s.adventure action).map (fun _ => ()) ∧
      ∃ store warnings, (s.perform action).2 =
        { s with snapshot := s.snapshot.next s.adventure action, store := store, warnings := warnings } := by
  unfold perform Snapshot.next
  cases s.snapshot.step s.adventure action with
  | ok t =>
    obtain ⟨store, warnings, h⟩ := persist_keeps { s with snapshot := t }
    exact ⟨rfl, store, warnings, h⟩
  | error e => exact ⟨rfl, s.store, s.warnings, rfl⟩

/-- **An action is answered as the transition function says**, and takes the session to the snapshot that it
says. The store and the warnings are the only other things that change. -/
theorem act_eq (s : Session σ) (action : Action) :
    (s.act action).1 = (s.snapshot.step s.adventure action).map (fun _ => ()) ∧
      ∃ store warnings, (s.act action).2 =
        { s with snapshot := s.snapshot.next s.adventure action, store := store, warnings := warnings } := by
  cases action with
  | start => exact s.perform_eq .start
  | choose index => exact s.perform_eq (.choose index)
  | restart =>
    -- To forget the record leaves the snapshot alone, so the restart is made from the same one.
    obtain ⟨store, warnings, hforget⟩ := s.forget_keeps
    have h := perform_eq { s with store := store, warnings := warnings } .restart
    unfold act
    rw [hforget]
    exact h

theorem act_eq_ok_iff {s : Session σ} {action : Action} :
    (s.act action).1 = .ok () ↔ ∃ t, s.snapshot.step s.adventure action = .ok t := by
  rw [(s.act_eq action).1]
  cases s.snapshot.step s.adventure action <;> simp [Except.map]

theorem act_eq_error_iff {s : Session σ} {action : Action} {e : PlayError} :
    (s.act action).1 = .error e ↔ s.snapshot.step s.adventure action = .error e := by
  rw [(s.act_eq action).1]
  cases s.snapshot.step s.adventure action <;> simp [Except.map]

@[simp] theorem act_snapshot (s : Session σ) (action : Action) :
    (s.act action).2.snapshot = s.snapshot.next s.adventure action := by
  obtain ⟨store, warnings, h⟩ := (s.act_eq action).2
  rw [h]

@[simp] theorem act_adventure (s : Session σ) (action : Action) :
    (s.act action).2.adventure = s.adventure := by
  obtain ⟨store, warnings, h⟩ := (s.act_eq action).2
  rw [h]

/-! ## Opening -/

/-- A session on a playable adventure opens at what the store holds for it. -/
theorem openOn_eq (h : a.isPlayable = true) (id : String) (store : σ) (config : SessionConfig) :
    ∃ warnings, openOn a id store config =
      .ok ⟨a, id, (ProgressStore.load store id).2, config,
        .opening a (ProgressStore.load store id).1, warnings⟩ := by
  unfold openOn
  rw [if_pos (by exact h)]
  unfold hydrate
  cases ProgressStore.load store id with
  | mk loaded store' =>
    cases loaded with
    | error e => exact ⟨_, rfl⟩
    | ok record =>
      cases record with
      | none => exact ⟨_, rfl⟩
      | some progress =>
        dsimp only [Snapshot.opening]
        cases Snapshot.resume a progress with
        | ok s => exact ⟨_, rfl⟩
        | error e => exact ⟨_, rfl⟩

end Session

namespace Snapshot

variable {a : Adventure}

theorem opening_of_resume {progress : Progress} {s : Snapshot} (h : resume a progress = .ok s) :
    opening a (.ok (some progress)) = s := by
  simp only [opening, h]

theorem placed_opening (loaded : Except StoreError (Option Progress)) : Placed a (opening a loaded) := by
  unfold opening
  split
  · split
    · rename_i hresume
      exact placed_of_resume hresume
    · exact placed_initial
  · exact placed_initial

/-- What is carried at the beginning comes from the record that was taken up. -/
theorem carried_opening {loaded : Except StoreError (Option Progress)} {item : ItemId}
    (h : item ∈ (opening a loaded).inventory) :
    ∃ progress, loaded = .ok (some progress) ∧ resume a progress = .ok (opening a loaded) ∧
      item ∈ progress.inventory := by
  unfold opening at h ⊢
  split at h
  · rename_i progress
    split at h
    · rename_i t hresume
      obtain ⟨p, -, rfl⟩ := resume_eq_ok_iff.mp hresume
      exact ⟨progress, rfl, by simp only [hresume], h⟩
    · exact absurd h (Inventory.not_mem_empty item)
  · exact absurd h (Inventory.not_mem_empty item)

end Snapshot

namespace Session

variable {σ : Type} [ProgressStore σ] {a : Adventure}

/-! ## Runs -/

/-- The session after some actions. -/
def after (s : Session σ) (actions : List Action) : Session σ :=
  actions.foldl (fun s action => (s.act action).2) s

theorem after_adventure (s : Session σ) (actions : List Action) :
    (s.after actions).adventure = s.adventure := by
  induction actions generalizing s with
  | nil => rfl
  | cons action actions ih =>
    show ((s.act action).2.after actions).adventure = s.adventure
    rw [ih, act_adventure]

/-- A session runs through the snapshots that the transition function gives. -/
theorem after_snapshot (s : Session σ) (actions : List Action) :
    (s.after actions).snapshot = s.snapshot.after s.adventure actions := by
  induction actions generalizing s with
  | nil => rfl
  | cons action actions ih =>
    show ((s.act action).2.after actions).snapshot = _
    rw [ih, act_snapshot, act_adventure]
    rfl

/-- **A playable adventure never gets stuck.** Whatever the store does, a session opens, and at every
state that actions lead to: choices are accepted as far as they are on offer, and they are on offer
everywhere but at the introduction and at endings; play starts at the introduction only and can be
restarted anywhere; no passage is found missing; and what is carried was declared, or comes from the
record the session was opened from. The actions are any, also those that are refused on the way. A record may hold
items that the adventure does not declare, for records are not checked against it; such items stay until an effect takes
them or play is restarted. -/
theorem never_stuck (h : a.isPlayable = true) (id : String) (store : σ) (config : SessionConfig) :
    ∃ opened, openOn a id store config = .ok opened ∧ ∀ (actions : List Action) (s : Session σ),
      s = opened.after actions →
      (∀ index, (s.act (.choose index)).1 = .ok () ↔ index < s.labels.length) ∧
      (s.labels = [] ↔ s.snapshot.state = .introduction ∨
        ∃ passage endingType, s.snapshot.state = .ended passage endingType) ∧
      ((s.act .start).1 = .ok () ↔ s.snapshot.state = .introduction) ∧
      (s.act .restart).1 = .ok () ∧
      (∀ action missing, (s.act action).1 ≠ .error (.document missing)) ∧
      (s.passage? = none ↔ s.snapshot.state = .introduction) ∧
      (∀ item ∈ s.snapshot.inventory, item ∈ a.itemIds ∨
        ∃ progress, (ProgressStore.load store id).1 = .ok (some progress) ∧
          Snapshot.resume a progress = .ok opened.snapshot ∧ item ∈ progress.inventory) := by
  have ha : a.Sound := Adventure.sound_of_isPlayable h
  obtain ⟨warnings, hopen⟩ := openOn_eq h id store config
  refine ⟨_, hopen, ?_⟩
  rintro actions s rfl
  have hplaced : Snapshot.Placed a
      ((Snapshot.opening a (ProgressStore.load store id).1).after a actions) :=
    (Snapshot.placed_opening _).after actions
  refine ⟨?_, ?_, ?_, ?_, ?_, ?_, ?_⟩
  · intro index
    rw [act_eq_ok_iff, labels_length, after_snapshot, after_adventure]
    exact hplaced.exists_choose_iff ha
  · rw [labels_eq_nil_iff, after_snapshot, after_adventure]
    exact hplaced.choices_eq_nil_iff ha
  · rw [act_eq_ok_iff, after_snapshot, after_adventure]
    exact Snapshot.exists_start_iff ha
  · rw [act_eq_ok_iff, after_snapshot, after_adventure]
    exact Snapshot.exists_restart ha _
  · intro action missing
    rw [ne_eq, act_eq_error_iff, after_snapshot, after_adventure]
    exact hplaced.step_ne_document ha action missing
  · rw [passage?, after_snapshot, after_adventure]
    exact hplaced.passage?_eq_none_iff ha
  · intro item hitem
    rw [after_snapshot] at hitem
    rcases Snapshot.carried_after ha actions hitem with hdeclared | hmem
    · exact .inl hdeclared
    · exact .inr (Snapshot.carried_opening hmem)

/-- A session on the cellar, taken up at the top of the stairs, can go down. -/
theorem never_stuck_cellar :
    ∃ opened, openOn .cellar "cellar" (⟨[("cellar", ⟨"cellar", 1, .ofList ["rope"]⟩)]⟩ : MemoryStore) {} =
        .ok opened ∧ (opened.act (.choose 0)).1 = .ok () := by
  obtain ⟨opened, hopen, h⟩ := never_stuck Adventure.cellar_isPlayable "cellar"
    (⟨[("cellar", ⟨"cellar", 1, .ofList ["rope"]⟩)]⟩ : MemoryStore) {}
  refine ⟨opened, hopen, ((h [] _ rfl).1 0).mpr ?_⟩
  cases hopen
  decide

end Session

end Gamebook
