import Gamebook.Playtest
import Gamebook.Proofs.Play
import Mathlib.Logic.Relation

/-!
# How a playtest goes

A run of a playtest is a chain of moments. From one moment to the next a choice is followed (`Turn`), and in
the end the run has come to an ending or is given up (`Ends`). Which choice it is stays open here, so what is
proved of the moments that a run `Passes` holds whatever the random numbers are. A law of runs has two halves:
what every turn keeps (`Passes.invariant`), and what the end of a run then adds. A law of playtests follows run
by run (`playRuns_invariant`).

So there are two loops, one in the other, and an induction for each, made here once. The inner loop looks at the
screen, notes what it sees, and stops or draws a choice; the outer one goes on with what has been noted and with the
random numbers where the last run has left them. A moment is taken before the screen is looked at. What has been noted
when it has been looked at is `Moment.seen`, and laws about what is seen are stated of that.

The numbers that are drawn have no part in any law but one. A number that is drawn is below its bound, and so it is
that of a choice on offer; therefore no run fails in a sound adventure (`exists_playtest`). That the same seed makes the
same playtest needs no proof, since a playtest is a function of it.

Nothing is asked of the adventure in the first part. A playtest can be made of one that was never checked; then a run
may fail for want of a passage, and the laws are about the runs that have a result.
-/

namespace Gamebook

variable {a : Adventure} {s : Snapshot} {t : Tally} {id : PassageId} {item : ItemId}

theorem PlayState.isEnded_eq_true_iff {state : PlayState} :
    state.isEnded = true ↔ ∃ id endingType, state = .ended id endingType := by
  cases state <;> simp [isEnded]

/-! ## What is noted -/

namespace Tally

/-- A look at the screen adds the passage that is on it. -/
@[simp] theorem mem_visited_observe :
    id ∈ (t.observe s).visited ↔ id ∈ t.visited ∨ s.state.passageId? = some id := by
  cases hpassage : s.state.passageId? with
  | none => simp [observe, hpassage]
  | some here =>
    by_cases hhere : here ∈ t.visited
    · simp only [observe, hpassage, if_pos hhere, Option.some.injEq]
      constructor
      · exact .inl
      · rintro (hid | rfl)
        · exact hid
        · exact hhere
    · simp only [observe, hpassage, if_neg hhere, List.mem_append, List.mem_singleton, Option.some.injEq,
        eq_comm]

/-- And it adds what is carried. -/
@[simp] theorem mem_held_observe : item ∈ (t.observe s).held ↔ item ∈ t.held ∨ item ∈ s.inventory :=
  Inventory.mem_foldl_insert _ _

end Tally

/-! ## Moments of a run -/

namespace Playtest

/-- A moment of a run: where the reader is, what has been noted before this moment is looked at, and how many
choices are left. -/
structure Moment where
  snapshot : Snapshot
  state : PlaytestState
  choicesLeft : Nat

/-- What has been noted when this moment has been looked at. -/
def Moment.seen (m : Moment) : Tally := m.state.tally.observe m.snapshot

/-- One choice is made, whichever it is. -/
inductive Turn (a : Adventure) : Moment → Moment → Prop
  | choose {s next : Snapshot} {state : PlaytestState} {random : Generator} {choicesLeft index : Nat} :
      s.Steps a (.choose index) next →
      Turn a ⟨s, state, choicesLeft + 1⟩ ⟨next, ⟨(state.tally.observe s).countStep, random⟩, choicesLeft⟩

/-- A run ends: it has come to an ending, or it is given up because no choice is left or none is on offer. -/
inductive Ends (a : Adventure) (m : Moment) : PlaytestState → Prop
  | ending {id : PassageId} {endingType : String} :
      m.snapshot.state = .ended id endingType →
      Ends a m { m.state with tally := m.seen.countEnding endingType }
  | givenUp :
      m.snapshot.state.isEnded = false → m.choicesLeft = 0 →
      Ends a m { m.state with tally := m.seen.countUnfinished }
  | deadEnd :
      m.snapshot.state.isEnded = false → m.snapshot.choices a = [] →
      Ends a m { m.state with tally := m.seen.countUnfinished }

variable {m n : Moment} {before after : PlaytestState} {choicesLeft maxSteps : Nat}

theorem walk_of_ended {endingType : String} (h : s.state = .ended id endingType) :
    walk a s before choicesLeft =
      .ok { before with tally := (before.tally.observe s).countEnding endingType } := by
  cases choicesLeft <;> simp [walk, h]

theorem walk_zero (h : s.state.isEnded = false) :
    walk a s before 0 = .ok { before with tally := (before.tally.observe s).countUnfinished } := by
  unfold walk
  split
  · rename_i hstate
    simp [hstate, PlayState.isEnded] at h
  · rfl

/-- While choices are left, one of those on offer is drawn, if there is any. -/
theorem walk_succ (h : s.state.isEnded = false) :
    walk a s before (choicesLeft + 1) =
      if s.choices a = [] then .ok { before with tally := (before.tally.observe s).countUnfinished }
      else
        match s.choose a (before.random.below (s.choices a).length).1 with
        | .error e => .error e
        | .ok next =>
          walk a next ⟨(before.tally.observe s).countStep,
            (before.random.below (s.choices a).length).2⟩ choicesLeft := by
  -- What is on offer is read off the passage on screen, and none is on screen at the introduction.
  cases hstate : s.state with
  | ended id endingType => simp [hstate, PlayState.isEnded] at h
  | introduction =>
    have hpassage : s.passage? a = none := by simp [Snapshot.passage?, hstate, PlayState.passageId?]
    simp [walk, hstate, hpassage, Snapshot.choices_introduction hstate]
  | inPassage id =>
    cases hpassage : s.passage? a with
    | none => simp [walk, Snapshot.choices, hstate, hpassage]
    | some passage =>
      simp only [walk, Snapshot.choices, hstate, hpassage]
      exact ite_congr (propext List.length_eq_zero_iff) (fun _ => rfl) (fun _ => rfl)

/-- A run that has a result ends here, or goes on with a turn. This is the inner loop, taken apart once; all that is
proved of runs goes through it. -/
theorem walk_cases (h : walk a s before choicesLeft = .ok after) :
    Ends a ⟨s, before, choicesLeft⟩ after ∨
      ∃ n, Turn a ⟨s, before, choicesLeft⟩ n ∧ walk a n.snapshot n.state n.choicesLeft = .ok after := by
  cases hended : s.state.isEnded with
  | true =>
    obtain ⟨id, endingType, hstate⟩ := PlayState.isEnded_eq_true_iff.mp hended
    rw [walk_of_ended hstate] at h
    cases h
    exact .inl (.ending hstate)
  | false =>
    cases choicesLeft with
    | zero =>
      rw [walk_zero hended] at h
      cases h
      exact .inl (.givenUp hended rfl)
    | succ choicesLeft =>
      rw [walk_succ hended] at h
      split at h
      · rename_i hchoices
        cases h
        exact .inl (.deadEnd hended hchoices)
      · split at h
        · cases h
        · rename_i next hchoose
          exact .inr ⟨_, .choose (Snapshot.choose_steps hchoose), h⟩

/-- A run that has a result is a chain of turns and an end. -/
theorem walk_ends (h : walk a s before choicesLeft = .ok after) :
    ∃ m, Relation.ReflTransGen (Turn a) ⟨s, before, choicesLeft⟩ m ∧ Ends a m after := by
  induction choicesLeft generalizing s before with
  | zero =>
    rcases walk_cases h with hends | ⟨n, hturn, -⟩
    · exact ⟨_, .refl, hends⟩
    · cases hturn
  | succ choicesLeft ih =>
    rcases walk_cases h with hends | ⟨n, hturn, hwalk⟩
    · exact ⟨_, .refl, hends⟩
    · cases hturn with
      | choose hsteps =>
        obtain ⟨m, hturns, hends⟩ := ih hwalk
        exact ⟨m, .head (.choose hsteps) hturns, hends⟩

/-- A run goes from the first passage on. -/
theorem playOnce_eq_ok_iff :
    playOnce a maxSteps before = .ok after ↔
      ∃ s, Snapshot.Steps a .initial .start s ∧ walk a s before maxSteps = .ok after := by
  unfold playOnce
  constructor
  · intro h
    split at h
    · cases h
    · rename_i s hstart
      exact ⟨s, Snapshot.start_steps hstart, h⟩
  · rintro ⟨s, hstart, h⟩
    have hok : Snapshot.initial.start a = .ok s := Snapshot.step_eq_ok_iff.mpr hstart
    rw [hok]
    exact h

/-- A run that begins where the test stands can pass this moment, if the reader chooses so. -/
def Passes (a : Adventure) (maxSteps : Nat) (before : PlaytestState) (m : Moment) : Prop :=
  ∃ s, Snapshot.Steps a .initial .start s ∧
    Relation.ReflTransGen (Turn a) ⟨s, before, maxSteps⟩ m

/-- **What holds when a run begins and is kept by every turn holds at every moment.** -/
theorem Passes.invariant {motive : Moment → Prop} (h : Passes a maxSteps before m)
    (begin : ∀ s, Snapshot.Steps a .initial .start s → motive ⟨s, before, maxSteps⟩)
    (turn : ∀ m n, Turn a m n → motive m → motive n) : motive m := by
  obtain ⟨s, hstart, hturns⟩ := h
  induction hturns with
  | refl => exact begin s hstart
  | tail _ hturn ih => exact turn _ _ hturn ih

/-- The reader has arrived at a passage. -/
def Moment.Arrived (a : Adventure) (m : Moment) : Prop :=
  ∃ id p, a.passage? id = some p ∧ m.snapshot.state = .arrived p

theorem Passes.arrived (h : Passes a maxSteps before m) : m.Arrived a := by
  apply h.invariant (motive := Moment.Arrived a)
  · intro s hstart
    exact hstart.arrived
  · intro m n hturn _
    cases hturn with
    | choose hsteps => exact hsteps.arrived

/-- A run that has a result ends at a moment that it passes. -/
theorem playOnce_ends (h : playOnce a maxSteps before = .ok after) :
    ∃ m, Passes a maxSteps before m ∧ Ends a m after := by
  obtain ⟨s, hstart, hwalk⟩ := playOnce_eq_ok_iff.mp h
  obtain ⟨m, hturns, hends⟩ := walk_ends hwalk
  exact ⟨m, ⟨s, hstart, hturns⟩, hends⟩

/-! ## One run after the other -/

variable {runs more : Nat} {settings : PlaytestSettings} {report : PlaytestReport}

/-- Runs go on where the runs before them have stopped. -/
theorem playRuns_add (runs more : Nat) (before : PlaytestState) :
    playRuns a maxSteps (runs + more) before =
      (playRuns a maxSteps runs before).bind (playRuns a maxSteps more) := by
  induction runs generalizing before with
  | zero => simp [playRuns, Except.bind]
  | succ runs ih =>
    rw [Nat.succ_add, playRuns, playRuns]
    cases playOnce a maxSteps before with
    | error e => rfl
    | ok next => exact ih next

/-- Some runs succeed exactly if the first of them do and the others go on from there. -/
theorem playRuns_add_eq_ok_iff :
    playRuns a maxSteps (runs + more) before = .ok after ↔
      ∃ middle, playRuns a maxSteps runs before = .ok middle ∧
        playRuns a maxSteps more middle = .ok after := by
  rw [playRuns_add]
  cases playRuns a maxSteps runs before <;> simp [Except.bind]

/-- Runs that succeed have succeeded on the way. -/
theorem exists_playRuns_of_le {k : Nat} (hk : k ≤ runs)
    (h : playRuns a maxSteps runs before = .ok after) :
    ∃ middle, playRuns a maxSteps k before = .ok middle ∧
      playRuns a maxSteps (runs - k) middle = .ok after := by
  rw [← Nat.add_sub_cancel' hk] at h
  exact playRuns_add_eq_ok_iff.mp h

theorem playRuns_one (a : Adventure) (maxSteps : Nat) (before : PlaytestState) :
    playRuns a maxSteps 1 before = playOnce a maxSteps before := by
  rw [playRuns]
  cases playOnce a maxSteps before <;> rfl

/-- **What holds before all runs and is kept by each run holds after them.** The number of runs that have been made is
at hand in each. -/
theorem playRuns_invariant {motive : Nat → PlaytestState → Prop} (begin : motive 0 before)
    (run : ∀ k middle next, motive k middle → playOnce a maxSteps middle = .ok next → motive (k + 1) next)
    (h : playRuns a maxSteps runs before = .ok after) : motive runs after := by
  induction runs generalizing after with
  | zero =>
    cases h
    exact begin
  | succ runs ih =>
    obtain ⟨middle, hruns, hrun⟩ := playRuns_add_eq_ok_iff.mp h
    rw [playRuns_one] at hrun
    exact run runs middle after (ih hruns) hrun

/-- Where a playtest stands before its first run. -/
def opening (seed : UInt64) : PlaytestState := ⟨.empty, .ofSeed seed⟩

/-- What a playtest reports of a tally. -/
def reportOf (a : Adventure) (runs : Nat) (t : Tally) : PlaytestReport where
  runs := runs
  endings := t.endings
  unfinished := t.unfinished
  steps := t.steps
  visited := t.visited
  neverHeld := (a.items.filter fun item => !t.held.contains item.id).map (·.id)

theorem playtest_eq_ok_iff :
    playtest a settings = .ok report ↔
      ∃ state, playRuns a settings.maxSteps settings.runs (opening settings.seed) = .ok state ∧
        reportOf a settings.runs state.tally = report := by
  unfold playtest opening
  constructor
  · intro h
    split at h
    · cases h
    · rename_i state hruns
      cases h
      exact ⟨state, hruns, rfl⟩
  · rintro ⟨state, hruns, rfl⟩
    rw [hruns]
    rfl

/-! ## No run fails -/

theorem exists_walk_of_ended (h : s.state.isEnded = true) (before : PlaytestState) (choicesLeft : Nat) :
    ∃ after, walk a s before choicesLeft = .ok after := by
  obtain ⟨id, endingType, hstate⟩ := PlayState.isEnded_eq_true_iff.mp h
  exact ⟨_, walk_of_ended hstate⟩

/-- A run in a sound adventure has a result, from each place that play can have come to. -/
theorem exists_walk (ha : a.Sound) (hs : s.Placed a) (before : PlaytestState) (choicesLeft : Nat) :
    ∃ after, walk a s before choicesLeft = .ok after := by
  induction choicesLeft generalizing s before with
  | zero =>
    cases hended : s.state.isEnded with
    | true => exact exists_walk_of_ended hended before 0
    | false => exact ⟨_, walk_zero hended⟩
  | succ choicesLeft ih =>
    cases hended : s.state.isEnded with
    | true => exact exists_walk_of_ended hended before (choicesLeft + 1)
    | false =>
      rw [walk_succ hended]
      by_cases hchoices : s.choices a = []
      · rw [if_pos hchoices]
        exact ⟨_, rfl⟩
      · -- The number that is drawn is that of a choice on offer, so the choice can be made.
        have hlt := Generator.below_lt (List.length_pos_iff.mpr hchoices) before.random
        obtain ⟨next, hnext⟩ := (hs.exists_choose_iff ha).mpr hlt
        have hchoose : s.choose a (before.random.below (s.choices a).length).1 = .ok next := hnext
        rw [if_neg hchoices, hchoose]
        exact ih (Snapshot.choose_steps hchoose).placed _

theorem exists_playOnce (ha : a.Sound) (maxSteps : Nat) (before : PlaytestState) :
    ∃ after, playOnce a maxSteps before = .ok after := by
  obtain ⟨s, hs⟩ := (Snapshot.exists_start_iff ha).mpr (rfl : Snapshot.initial.state = .introduction)
  have hsteps := Snapshot.step_eq_ok_iff.mp hs
  obtain ⟨after, hafter⟩ := exists_walk ha hsteps.placed before maxSteps
  exact ⟨after, playOnce_eq_ok_iff.mpr ⟨s, hsteps, hafter⟩⟩

theorem exists_playRuns (ha : a.Sound) (maxSteps runs : Nat) (before : PlaytestState) :
    ∃ after, playRuns a maxSteps runs before = .ok after := by
  induction runs with
  | zero => exact ⟨before, rfl⟩
  | succ runs ih =>
    obtain ⟨middle, hmiddle⟩ := ih
    obtain ⟨after, hafter⟩ := exists_playOnce ha maxSteps middle
    refine ⟨after, playRuns_add_eq_ok_iff.mpr ⟨middle, hmiddle, ?_⟩⟩
    rw [playRuns_one, hafter]

/-- **A playtest of a sound adventure has a report.** Each run starts at passage 1, goes from one place of play to
another, and draws among choices that are on offer; the bound on the choices ends it at the latest. -/
theorem exists_playtest (ha : a.Sound) (settings : PlaytestSettings) :
    ∃ report, playtest a settings = .ok report := by
  obtain ⟨state, hstate⟩ := exists_playRuns ha settings.maxSteps settings.runs (opening settings.seed)
  exact ⟨_, playtest_eq_ok_iff.mpr ⟨state, hstate, rfl⟩⟩

end Playtest

/-- An adventure in which a reader can walk in circles. -/
def Adventure.crossroads : Adventure where
  title := "The Crossroads"
  introduction := ["Two ways lead on."]
  items := [⟨"lamp", "Lamp"⟩, ⟨"rope", "Rope"⟩]
  passages := [
    { id := 1, paragraphs := ["A crossroads."], choices := [⟨"Left", 2⟩, ⟨"Right", 3⟩], effects := [],
      notes := none, endingType := none },
    { id := 2, paragraphs := ["A shed."], choices := [⟨"Back", 1⟩], effects := [.add "lamp"],
      notes := none, endingType := none },
    { id := 3, paragraphs := ["A cliff."], choices := [], effects := [], notes := none,
      endingType := some "fall" },
    { id := 4, paragraphs := ["A valley."], choices := [], effects := [], notes := none,
      endingType := some "rest" }]

theorem Adventure.crossroads_isPlayable : crossroads.isPlayable = true := by decide

end Gamebook
