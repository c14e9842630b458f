import Gamebook.Play
import Gamebook.Proofs.Inventory
import Gamebook.Proofs.Validation

/-!
# What an action can do

`Steps a s action t` lists the three ways in which an action leads from one snapshot to the next; it is
what `Snapshot.step` computes (`step_eq_ok_iff`), and every law of play is proved by going through it. So the
function is opened here once. Each of the three says everything that must be the case for the action to be made: to
start, play is at the introduction; to choose, the passage at hand has the choice, and its target exists; to restart,
nothing but passage 1 is needed. Effects are applied on arriving by a choice, and neither at the start nor on taking up
a record.

A snapshot is `Placed` if play can be there: at the introduction, or arrived at a passage of the
adventure. Every step and every resumption leads to such a snapshot, and in a sound adventure it is known
from there which actions are allowed. `Placed` is the invariant of play. A snapshot as a type may be anywhere, at a
passage that does not exist or in the middle of an ending; one that play has led to may not.

An action that is not allowed is answered by an error and changes nothing, so a run of actions is a run of those that
are made (`next_cases`). What is true of every run is proved of one step and carried along by `Placed.after`. Play
never looks for a passage in vain in a sound adventure (`Placed.step_ne_document`); what remains are refusals, of
choices that are not on offer and of starting twice.
-/

namespace Gamebook

variable {a : Adventure} {s t : Snapshot} {action : Action}

theorem PlayState.passageId?_arrived (p : Passage) : (PlayState.arrived p).passageId? = some p.id := by
  unfold PlayState.arrived
  split <;> rfl

namespace Snapshot

/-- The choices on offer: those of the passage on screen, unless the story has ended. -/
def choices (a : Adventure) (s : Snapshot) : List Choice :=
  match s.state, s.passage? a with
  | .inPassage _, some passage => passage.choices
  | _, _ => []

/-- The saved position of a snapshot, once play has started. -/
def progress? (s : Snapshot) (adventureId : String) : Option Progress :=
  s.state.passageId?.map fun passage => ⟨adventureId, passage, s.inventory⟩

/-- The actions that are allowed, and where they lead. -/
inductive Steps (a : Adventure) : Snapshot → Action → Snapshot → Prop
  | start {inventory : Inventory} {entry : Passage} :
      a.passage? .entry = some entry →
      Steps a ⟨.introduction, inventory⟩ .start ⟨.arrived entry, inventory⟩
  | choose {id : PassageId} {inventory : Inventory} {current target : Passage} {index : Nat}
      {choice : Choice} :
      a.passage? id = some current → current.choices[index]? = some choice →
      a.passage? choice.goto = some target →
      Steps a ⟨.inPassage id, inventory⟩ (.choose index)
        ⟨.arrived target, inventory.applyAll target.effects⟩
  | restart {s : Snapshot} {entry : Passage} :
      a.passage? .entry = some entry → Steps a s .restart ⟨.arrived entry, .empty⟩

theorem require_of_passage? {id : PassageId} {p : Passage} (h : a.passage? id = some p) :
    require a id = .ok p := by
  rw [require, Adventure.passage, h]
  rfl

/-- What goes on from a passage that play needs has a result only if the passage is there. -/
theorem require_bind_eq_ok_iff {id : PassageId} {f : Passage → Except PlayError Snapshot} :
    (require a id >>= f) = .ok t ↔ ∃ p, a.passage? id = some p ∧ f p = .ok t := by
  unfold require Adventure.passage
  cases a.passage? id with
  | none =>
    constructor
    · intro h
      cases h
    · rintro ⟨p, hp, -⟩
      cases hp
  | some p =>
    constructor
    · intro h
      exact ⟨p, rfl, h⟩
    · rintro ⟨q, hq, h⟩
      cases hq
      exact h

theorem start_steps (h : s.start a = .ok t) : Steps a s .start t := by
  obtain ⟨state, inventory⟩ := s
  cases state with
  | introduction =>
    obtain ⟨entry, hentry, ht⟩ := require_bind_eq_ok_iff.mp h
    cases ht
    exact .start hentry
  | inPassage id => cases h
  | ended id endingType => cases h

theorem choose_steps {index : Nat} (h : s.choose a index = .ok t) : Steps a s (.choose index) t := by
  obtain ⟨state, inventory⟩ := s
  cases state with
  | introduction => cases h
  | ended id endingType => cases h
  | inPassage id =>
    obtain ⟨current, hcurrent, h⟩ := require_bind_eq_ok_iff.mp h
    split at h
    · cases h
    · split at h
      · cases h
      · rename_i choice hchoice
        obtain ⟨target, htarget, ht⟩ := require_bind_eq_ok_iff.mp h
        cases ht
        exact .choose hcurrent hchoice htarget

theorem restart_steps (h : restart a = .ok t) : Steps a s .restart t := by
  obtain ⟨entry, hentry, ht⟩ := require_bind_eq_ok_iff.mp h
  cases ht
  exact .restart hentry

/-- **The transition function and the list of transitions agree.** From left to right the function is taken apart, one
lemma for each action; from right to left the conditions of each transition are what the function asks for. -/
theorem step_eq_ok_iff : s.step a action = .ok t ↔ Steps a s action t := by
  constructor
  · intro h
    cases action with
    | start => exact start_steps h
    | choose index => exact choose_steps h
    | restart => exact restart_steps h
  · intro h
    cases h with
    | start hentry => exact require_bind_eq_ok_iff.mpr ⟨_, hentry, rfl⟩
    | restart hentry => exact require_bind_eq_ok_iff.mpr ⟨_, hentry, rfl⟩
    | @choose id inventory current target index choice hcurrent hchoice htarget =>
      -- A passage that has the choice is not terminal, so this is not asked in `Steps`.
      refine require_bind_eq_ok_iff.mpr ⟨current, hcurrent, ?_⟩
      have hterminal : ¬ current.isTerminal = true := by
        intro h
        rw [List.isEmpty_iff.mp h] at hchoice
        cases hchoice
      rw [if_neg hterminal]
      simp only [hchoice]
      exact require_bind_eq_ok_iff.mpr ⟨target, htarget, rfl⟩

/-! ## Where play can be -/

/-- Play can be at the introduction, or at a passage where it has arrived. -/
inductive Placed (a : Adventure) : Snapshot → Prop
  | introduction (inventory : Inventory) : Placed a ⟨.introduction, inventory⟩
  | arrived {id : PassageId} {p : Passage} (inventory : Inventory) :
      a.passage? id = some p → Placed a ⟨.arrived p, inventory⟩

theorem placed_initial : Placed a .initial := .introduction .empty

/-- Every step arrives at a passage. -/
theorem Steps.arrived (h : Steps a s action t) :
    ∃ id p, a.passage? id = some p ∧ t.state = .arrived p := by
  cases h with
  | start hentry => exact ⟨_, _, hentry, rfl⟩
  | choose _ _ htarget => exact ⟨_, _, htarget, rfl⟩
  | restart hentry => exact ⟨_, _, hentry, rfl⟩

/-- Every step leads to a place of play. -/
theorem Steps.placed (h : Steps a s action t) : Placed a t := by
  obtain ⟨id, p, hp, hstate⟩ := h.arrived
  obtain ⟨state, inventory⟩ := t
  obtain rfl : state = .arrived p := hstate
  exact .arrived inventory hp

theorem resume_eq_ok_iff {progress : Progress} :
    resume a progress = .ok t ↔
      ∃ p, a.passage? progress.passage = some p ∧ t = ⟨.arrived p, progress.inventory⟩ := by
  unfold resume Adventure.passage
  cases a.passage? progress.passage with
  | none => simp [bind, Except.bind]
  | some p =>
    simp only [bind, Except.bind, pure, Except.pure, Except.ok.injEq, Option.some.injEq]
    constructor
    · rintro rfl
      exact ⟨p, rfl, rfl⟩
    · rintro ⟨_, rfl, rfl⟩
      rfl

/-- Every resumption leads to a place of play. -/
theorem placed_of_resume {progress : Progress} (h : resume a progress = .ok t) : Placed a t := by
  obtain ⟨p, hp, rfl⟩ := resume_eq_ok_iff.mp h
  exact .arrived _ hp

/-! ## Which actions are allowed -/

/-- In a sound adventure a reader has arrived at an ending, or at a passage that offers a choice. -/
theorem arrived_cases (ha : a.Sound) {p : Passage} (hp : p ∈ a.passages) :
    (∃ endingType, PlayState.arrived p = .ended p.id endingType) ∨
      (PlayState.arrived p = .inPassage p.id ∧ p.choices ≠ []) := by
  unfold PlayState.arrived Passage.isTerminal
  cases hchoices : p.choices with
  | nil =>
    obtain ⟨endingType, hending⟩ := ha.ending p hp hchoices
    rw [hending]
    exact .inl ⟨endingType, rfl⟩
  | cons c cs => exact .inr ⟨rfl, by simp⟩

/-- **Where play can be in a sound adventure**, with the passage on screen. In the third case a choice is on offer,
so there is no place without a way on but an ending. -/
theorem Placed.cases_of_sound (ha : a.Sound) (h : Placed a s) :
    s.state = .introduction ∨
      (∃ p endingType, a.passage? p.id = some p ∧ s.state = .ended p.id endingType) ∨
      (∃ p, a.passage? p.id = some p ∧ s.state = .inPassage p.id ∧ p.choices ≠ []) := by
  cases h with
  | introduction inventory => exact .inl rfl
  | @arrived id p inventory hp =>
    have hid : a.passage? p.id = some p := Adventure.passage?_id hp
    rcases arrived_cases ha (Adventure.mem_of_passage? hp) with ⟨endingType, hended⟩ | ⟨hin, hchoices⟩
    · exact .inr (.inl ⟨p, endingType, hid, hended⟩)
    · exact .inr (.inr ⟨p, hid, hin, hchoices⟩)

theorem choices_inPassage {p : Passage} (hp : a.passage? p.id = some p)
    (hstate : s.state = .inPassage p.id) : s.choices a = p.choices := by
  simp [choices, passage?, hstate, PlayState.passageId?, hp]

theorem choices_introduction (hstate : s.state = .introduction) : s.choices a = [] := by
  simp [choices, hstate]

theorem choices_ended {id : PassageId} {endingType : String} (hstate : s.state = .ended id endingType) :
    s.choices a = [] := by
  simp [choices, hstate]

/-- Choices are on offer everywhere but at the introduction and at endings. -/
theorem Placed.choices_eq_nil_iff (ha : a.Sound) (h : Placed a s) :
    s.choices a = [] ↔ s.state = .introduction ∨ ∃ id endingType, s.state = .ended id endingType := by
  rcases h.cases_of_sound ha with hstate | ⟨p, endingType, -, hstate⟩ | ⟨p, hp, hstate, hchoices⟩
  · simp [choices_introduction hstate, hstate]
  · simp [choices_ended hstate, hstate]
  · simp [choices_inPassage hp hstate, hstate, hchoices]

/-- Play is nowhere without a passage but at the introduction. -/
theorem Placed.passage?_eq_none_iff (ha : a.Sound) (h : Placed a s) :
    s.passage? a = none ↔ s.state = .introduction := by
  rcases h.cases_of_sound ha with hstate | ⟨p, endingType, hp, hstate⟩ | ⟨p, hp, hstate, -⟩
  · simp [passage?, hstate, PlayState.passageId?]
  · simp [passage?, hstate, PlayState.passageId?, hp]
  · simp [passage?, hstate, PlayState.passageId?, hp]

theorem exists_start_iff (ha : a.Sound) :
    (∃ t, s.step a .start = .ok t) ↔ s.state = .introduction := by
  constructor
  · rintro ⟨t, h⟩
    cases step_eq_ok_iff.mp h with
    | start => rfl
  · intro hstate
    obtain ⟨state, inventory⟩ := s
    obtain rfl : state = .introduction := hstate
    obtain ⟨entry, hentry⟩ := ha.entry
    exact ⟨_, step_eq_ok_iff.mpr (.start hentry)⟩

theorem exists_restart (ha : a.Sound) (s : Snapshot) : ∃ t, s.step a .restart = .ok t := by
  obtain ⟨entry, hentry⟩ := ha.entry
  exact ⟨_, step_eq_ok_iff.mpr (.restart hentry)⟩

/-- A choice can be made if and only if it is on offer. -/
theorem Placed.exists_choose_iff (ha : a.Sound) (h : Placed a s) {index : Nat} :
    (∃ t, s.step a (.choose index) = .ok t) ↔ index < (s.choices a).length := by
  constructor
  · rintro ⟨t, hstep⟩
    cases step_eq_ok_iff.mp hstep with
    | @choose id inventory current target _ choice hcurrent hchoice htarget =>
      obtain rfl : current.id = id := Adventure.id_of_passage? hcurrent
      rw [choices_inPassage hcurrent rfl]
      exact (List.getElem?_eq_some_iff.mp hchoice).1
  · intro hindex
    rcases h.cases_of_sound ha with hstate | ⟨p, endingType, -, hstate⟩ | ⟨p, hp, hstate, -⟩
    · simp [choices_introduction hstate] at hindex
    · simp [choices_ended hstate] at hindex
    · rw [choices_inPassage hp hstate] at hindex
      obtain ⟨state, inventory⟩ := s
      obtain rfl : state = .inPassage p.id := hstate
      obtain ⟨target, htarget⟩ :=
        ha.target p (Adventure.mem_of_passage? hp) p.choices[index] (List.getElem_mem hindex)
      exact ⟨_, step_eq_ok_iff.mpr (.choose hp (List.getElem?_eq_getElem hindex) htarget)⟩

/-- A choice that is not on offer is refused as out of range. -/
theorem choose_outOfRange {p : Passage} (hp : a.passage? p.id = some p)
    (hstate : s.state = .inPassage p.id) (hchoices : p.choices ≠ []) {index : Nat}
    (hindex : p.choices.length ≤ index) :
    s.choose a index = .error (.refused (.choiceOutOfRange p.id index p.choices.length)) := by
  have hterminal : ¬ p.isTerminal = true := by simpa [Passage.isTerminal] using hchoices
  unfold choose
  simp only [hstate, require_of_passage? hp]
  show (if p.isTerminal = true then _ else _) = _
  rw [if_neg hterminal, List.getElem?_eq_none hindex]

/-- In a sound adventure no action fails for want of a passage. The passage at hand is there because play has arrived
at it, and the target of a choice because every choice of the adventure leads to a passage. -/
theorem Placed.step_ne_document (ha : a.Sound) (h : Placed a s) (action : Action)
    (missing : LookupError) : s.step a action ≠ .error (.document missing) := by
  intro hstep
  -- The action is not allowed here, and so it is refused before any passage is looked up.
  have hnone : ¬ ∃ t, s.step a action = .ok t := by
    rintro ⟨t, ht⟩
    rw [ht] at hstep
    cases hstep
  cases action with
  | start =>
    rw [exists_start_iff ha] at hnone
    rw [step, start] at hstep
    split at hstep
    · exact hnone ‹_›
    · cases hstep
  | restart => exact hnone (exists_restart ha s)
  | choose index =>
    rw [h.exists_choose_iff ha] at hnone
    rcases h.cases_of_sound ha with hstate | ⟨p, endingType, -, hstate⟩ | ⟨p, hp, hstate, hchoices⟩
    · simp [step, choose, hstate] at hstep
    · simp [step, choose, hstate] at hstep
    · rw [choices_inPassage hp hstate] at hnone
      rw [step, choose_outOfRange hp hstate hchoices (by omega)] at hstep
      cases hstep

/-! ## What is carried

Play takes an item up only by an effect of the passage that it comes to by a choice, and a sound adventure declares
every item that its effects name. So what is carried was declared, or was carried to begin with. -/

/-- A step adds declared items only. -/
theorem Steps.carried (ha : a.Sound) (h : Steps a s action t) {item : ItemId}
    (hitem : item ∈ t.inventory) : item ∈ a.itemIds ∨ item ∈ s.inventory := by
  cases h with
  | start => exact .inr hitem
  | restart => exact absurd hitem (Inventory.not_mem_empty item)
  | choose _ _ htarget =>
    rcases Inventory.mem_of_mem_applyAll hitem with hmem | ⟨e, he, rfl⟩
    · exact .inr hmem
    · exact .inl (ha.declared _ (Adventure.mem_of_passage? htarget) e he)

/-- The passage that an action leads to by a choice on offer. -/
def target? (a : Adventure) (s : Snapshot) : Action → Option Passage
  | .choose index => (s.choices a)[index]?.bind fun choice => a.passage? choice.goto
  | _ => none

theorem Steps.inventory_start (h : Steps a s .start t) : t.inventory = s.inventory := by
  cases h with
  | start => rfl

theorem Steps.inventory_restart (h : Steps a s .restart t) : t.inventory = .empty := by
  cases h with
  | restart => rfl

/-- A choice applies the effects of its target. -/
theorem Steps.inventory_choose {index : Nat} (h : Steps a s (.choose index) t) :
    ∃ target, s.target? a (.choose index) = some target ∧
      t.inventory = s.inventory.applyAll target.effects := by
  cases h with
  | @choose id inventory current target _ choice hcurrent hchoice htarget =>
    obtain rfl : current.id = id := Adventure.id_of_passage? hcurrent
    refine ⟨target, ?_, rfl⟩
    rw [target?, choices_inPassage hcurrent rfl, hchoice]
    exact htarget

/-! ## Runs -/

/-- The snapshot after an action. An action that is not allowed changes nothing. -/
def next (a : Adventure) (s : Snapshot) (action : Action) : Snapshot :=
  match s.step a action with
  | .ok t => t
  | .error _ => s

/-- The snapshot after some actions. -/
def after (a : Adventure) (s : Snapshot) (actions : List Action) : Snapshot :=
  actions.foldl (next a) s

theorem next_cases (a : Adventure) (s : Snapshot) (action : Action) :
    Steps a s action (s.next a action) ∨ s.next a action = s := by
  unfold next
  cases hstep : s.step a action with
  | ok t => exact .inl (step_eq_ok_iff.mp hstep)
  | error e => exact .inr rfl

theorem Placed.next (h : Placed a s) (action : Action) : Placed a (s.next a action) := by
  rcases next_cases a s action with hsteps | hsame
  · exact hsteps.placed
  · rw [hsame]
    exact h

/-- Play never leaves its places. -/
theorem Placed.after (h : Placed a s) (actions : List Action) : Placed a (s.after a actions) := by
  induction actions generalizing s with
  | nil => exact h
  | cons action actions ih => exact ih (h.next action)

/-- What is carried was declared, or carried from the beginning. -/
theorem carried_after (ha : a.Sound) {item : ItemId} (actions : List Action)
    (hitem : item ∈ (s.after a actions).inventory) : item ∈ a.itemIds ∨ item ∈ s.inventory := by
  induction actions generalizing s with
  | nil => exact .inr hitem
  | cons action actions ih =>
    rcases ih hitem with hdeclared | hmem
    · exact .inl hdeclared
    · rcases next_cases a s action with hsteps | hsame
      · exact hsteps.carried ha hmem
      · rw [hsame] at hmem
        exact .inr hmem

end Snapshot

end Gamebook
