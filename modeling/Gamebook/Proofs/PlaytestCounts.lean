import Gamebook.Proofs.Playtest
import Gamebook.Proofs.Table

/-!
# The counts of a playtest add up

Every run is counted once, under the type of the ending it came to or among those that came to none, and it
makes no more choices than it may (`counted_of_playOnce`). In a sound adventure a run comes to no ending only
for want of choices that are left, so it has made them all (`exhausted_of_playOnce`).

Both are laws of a single run: a run that is `Underway` has counted nothing yet, and a choice it makes is taken off
those it has left. After any number of runs the counts are `Balanced`. The counts of endings are in a table by types,
so their sum is followed through what writing one entry does to it; for that the table must be sorted, and this is
part of the invariant.

The program keeps its counts in words of 32 and 64 bits, and the counts here are natural numbers. They are the same as
long as no count outgrows its word. It is not enough that the report fits: a count that was too large for a moment
would have stopped the program, or gone round. `NoOverflow` says of every moment of every run that all counts fit, and
it follows from the balance, since no count of runs is larger than their number and there are at most so many choices
in each. The bounds on the numbers asked for are those of the words in which they are given.

An adventure that was not checked may have a passage without choices and without a type of ending. A run that comes
there is given up at once, and is counted as unfinished with choices left. That is why the last part is about playable
adventures.
-/

namespace Gamebook

/-! ## Words

The counters here are natural numbers, while a playtest keeps them in words of 32 and 64 bits. It is to be shown, and
not assumed, that this makes no difference. The bound is asked for at every moment, for a counter that has
outgrown its word for one moment is wrong from there on. -/

/-- The counters of a tally are not greater than the words they are kept in allow: 32 bits for runs, 64 bits
for choices. -/
structure Tally.Fits (t : Tally) : Prop where
  endings : ∀ entry ∈ t.endings, entry.2 ≤ Word.max32
  unfinished : t.unfinished ≤ Word.max32
  steps : t.steps ≤ Word.max64

namespace Playtest

variable {a : Adventure} {settings : PlaytestSettings} {m n : Moment} {before after : PlaytestState}
  {t u : Tally} {limit maxSteps runs : Nat}

/-- No counter of a playtest outgrows its word, neither between two runs nor at any moment of the run that
follows. The choices of a single run are counted apart, in a word of 32 bits. -/
def NoOverflow (a : Adventure) (settings : PlaytestSettings) : Prop :=
  ∀ k ≤ settings.runs, ∃ before,
    playRuns a settings.maxSteps k (opening settings.seed) = .ok before ∧ before.tally.Fits ∧
    ∀ m, Passes a settings.maxSteps before m →
      m.state.tally.Fits ∧ m.state.tally.steps - before.tally.steps ≤ Word.max32

/-! ## A single run -/

/-- What a run that has begun with a tally keeps until it ends: no run is counted, and the choices made and
left are as many as it may make. -/
structure Underway (t : Tally) (limit : Nat) (m : Moment) : Prop where
  endings : m.state.tally.endings = t.endings
  unfinished : m.state.tally.unfinished = t.unfinished
  steps : m.state.tally.steps + m.choicesLeft = t.steps + limit
  left_le : m.choicesLeft ≤ limit

theorem Underway.turn (h : Underway t limit m) (hturn : Turn a m n) : Underway t limit n := by
  cases hturn with
  | @choose s next state random choicesLeft index hsteps =>
    have hspent : state.tally.steps + (choicesLeft + 1) = t.steps + limit := h.steps
    have hleft : choicesLeft + 1 ≤ limit := h.left_le
    refine ⟨h.endings, h.unfinished, ?_, Nat.le_of_succ_le hleft⟩
    show state.tally.steps + 1 + choicesLeft = t.steps + limit
    omega

theorem Passes.underway (h : Passes a maxSteps before m) : Underway before.tally maxSteps m := by
  apply h.invariant
  · intro s _
    exact ⟨rfl, rfl, rfl, Nat.le_refl _⟩
  · intro m n hturn hm
    exact hm.turn hturn

/-- One run is counted, under a type of ending or as unfinished. -/
inductive Counted (t : Tally) : Tally → Prop
  | ending {u : Tally} (endingType : String) :
      u.endings = t.endings.put endingType ((t.endings.get? endingType).getD 0 + 1) →
      u.unfinished = t.unfinished → Counted t u
  | unfinished {u : Tally} :
      u.endings = t.endings → u.unfinished = t.unfinished + 1 → Counted t u

/-- The end of a run counts it and makes no choice. -/
theorem Underway.counted (h : Underway t limit m) (hends : Ends a m after) :
    Counted t after.tally ∧ after.tally.steps = m.state.tally.steps := by
  cases hends with
  | @ending id endingType _ =>
    refine ⟨.ending endingType ?_ h.unfinished, rfl⟩
    rw [← h.endings]
    rfl
  | givenUp | deadEnd =>
    refine ⟨.unfinished h.endings ?_, rfl⟩
    rw [← h.unfinished]
    rfl

/-- **What a run adds to the counts**: itself, and no more choices than it may make. -/
theorem counted_of_playOnce (h : playOnce a maxSteps before = .ok after) :
    Counted before.tally after.tally ∧ before.tally.steps ≤ after.tally.steps ∧
      after.tally.steps ≤ before.tally.steps + maxSteps := by
  obtain ⟨m, hm, hends⟩ := playOnce_ends h
  obtain ⟨hcounted, hsteps⟩ := hm.underway.counted hends
  have hspent := hm.underway.steps
  have hleft := hm.underway.left_le
  refine ⟨hcounted, ?_, ?_⟩ <;> omega

/-- Where a reader has arrived in a sound adventure, the story has ended or choices are on offer. -/
theorem Moment.Arrived.choices_ne_nil (ha : a.Sound) (h : m.Arrived a)
    (hended : m.snapshot.state.isEnded = false) : m.snapshot.choices a ≠ [] := by
  obtain ⟨id, p, hp, hstate⟩ := h
  rcases Snapshot.arrived_cases ha (Adventure.mem_of_passage? hp) with ⟨endingType, hend⟩ | ⟨hin, hchoices⟩
  · rw [hstate, hend] at hended
    cases hended
  · rw [Snapshot.choices_inPassage (Adventure.passage?_id hp) (hstate.trans hin)]
    exact hchoices

/-- **A run in a sound adventure that comes to no ending has made all choices it may make.** It would have been given
up before only where nothing is on offer, and that is at endings. -/
theorem exhausted_of_playOnce (ha : a.Sound) (h : playOnce a maxSteps before = .ok after)
    (hunfinished : after.tally.unfinished ≠ before.tally.unfinished) :
    after.tally.steps = before.tally.steps + maxSteps := by
  obtain ⟨m, hm, hends⟩ := playOnce_ends h
  cases hends with
  | ending => exact absurd hm.underway.unfinished hunfinished
  | givenUp _ hleft =>
    have hspent := hm.underway.steps
    rw [hleft] at hspent
    exact hspent
  | deadEnd hended hchoices => exact absurd hchoices (hm.arrived.choices_ne_nil ha hended)

/-! ## All runs -/

/-- What the counts come to after some runs that may make so many choices each. -/
structure Balanced (limit runs : Nat) (t : Tally) : Prop where
  sorted : t.endings.Sorted
  listed : ∀ entry ∈ t.endings, 1 ≤ entry.2
  finished : t.endings.total + t.unfinished = runs
  steps_le : t.steps ≤ runs * limit

theorem balanced_empty (limit : Nat) : Balanced limit 0 .empty :=
  ⟨Table.sorted_nil, fun _ h => absurd h List.not_mem_nil, rfl, Nat.zero_le _⟩

theorem Balanced.count (h : Balanced limit runs t) (hcounted : Counted t u)
    (hsteps : u.steps ≤ t.steps + limit) : Balanced limit (runs + 1) u := by
  have hle : u.steps ≤ (runs + 1) * limit := by
    rw [Nat.add_one_mul]
    exact Nat.le_trans hsteps (Nat.add_le_add_right h.steps_le limit)
  have hfinished := h.finished
  cases hcounted with
  | ending endingType hendings hunfinished =>
    refine ⟨?_, ?_, ?_, hle⟩
    · rw [hendings]
      exact h.sorted.put _ _
    · intro entry hentry
      rw [hendings] at hentry
      rcases Table.mem_of_mem_put hentry with rfl | hmem
      · exact Nat.le_add_left 1 _
      · exact h.listed entry hmem
    · -- The count of this type grows by one, and the others stay.
      have htotal := h.sorted.total_put endingType ((t.endings.get? endingType).getD 0 + 1)
      rw [hendings, hunfinished]
      omega
  | unfinished hendings hunfinished =>
    refine ⟨hendings ▸ h.sorted, hendings ▸ h.listed, ?_, hle⟩
    rw [hendings, hunfinished]
    omega

/-- After any number of runs the counts are balanced. Run by run: each is counted once. -/
theorem balanced_of_playRuns {seed : UInt64}
    (h : playRuns a maxSteps runs (opening seed) = .ok after) : Balanced maxSteps runs after.tally := by
  apply playRuns_invariant (motive := fun k state => Balanced maxSteps k state.tally)
    (balanced_empty maxSteps) _ h
  intro k middle next hmiddle hrun
  obtain ⟨hcounted, -, hsteps⟩ := counted_of_playOnce hrun
  exact hmiddle.count hcounted hsteps

/-- The runs that came to no ending have made all their choices, so there are at least as many choices. -/
theorem exhausted_of_playRuns (ha : a.Sound) {seed : UInt64}
    (h : playRuns a maxSteps runs (opening seed) = .ok after) :
    after.tally.unfinished * maxSteps ≤ after.tally.steps := by
  apply playRuns_invariant
    (motive := fun _ state => state.tally.unfinished * maxSteps ≤ state.tally.steps) _ _ h
  · exact Nat.le_of_eq (Nat.zero_mul maxSteps)
  · intro k middle next hmiddle hrun
    obtain ⟨hcounted, hle, -⟩ := counted_of_playOnce hrun
    cases hcounted with
    | ending endingType _ hunfinished =>
      rw [hunfinished]
      exact Nat.le_trans hmiddle hle
    | unfinished _ hunfinished =>
      have hne : next.tally.unfinished ≠ middle.tally.unfinished := by omega
      rw [hunfinished, exhausted_of_playOnce ha hrun hne, Nat.add_one_mul]
      exact Nat.add_le_add_right hmiddle maxSteps

/-- Counts of not too many runs, each of not too many choices, fit, and so do those in a run that follows. -/
theorem Balanced.fits (h : Balanced limit runs t) (hruns : runs ≤ Word.max32)
    (hlimit : limit ≤ Word.max32) (hendings : u.endings = t.endings)
    (hunfinished : u.unfinished = t.unfinished) (hsteps : u.steps ≤ t.steps + limit) : u.Fits := by
  have hfinished := h.finished
  refine ⟨?_, by omega, ?_⟩
  · intro entry hentry
    have hle : entry.2 ≤ t.endings.total := Table.le_total (hendings ▸ hentry)
    omega
  · calc u.steps
        ≤ runs * limit + limit := Nat.le_trans hsteps (Nat.add_le_add_right h.steps_le limit)
      _ = (runs + 1) * limit := (Nat.add_one_mul runs limit).symm
      _ ≤ (Word.max32 + 1) * Word.max32 := Nat.mul_le_mul (Nat.add_le_add_right hruns 1) hlimit
      _ ≤ Word.max64 := by decide

theorem noOverflow_of_playRuns (hruns : settings.runs ≤ Word.max32)
    (hsteps : settings.maxSteps ≤ Word.max32)
    (h : playRuns a settings.maxSteps settings.runs (opening settings.seed) = .ok after) :
    NoOverflow a settings := by
  intro k hk
  obtain ⟨before, hbefore, -⟩ := exists_playRuns_of_le hk h
  have hbalanced : Balanced settings.maxSteps k before.tally := balanced_of_playRuns hbefore
  have hk32 : k ≤ Word.max32 := Nat.le_trans hk hruns
  refine ⟨before, hbefore, hbalanced.fits hk32 hsteps rfl rfl (Nat.le_add_right _ _), ?_⟩
  intro m hm
  have hle : m.state.tally.steps ≤ before.tally.steps + settings.maxSteps := by
    have hspent := hm.underway.steps
    omega
  refine ⟨hbalanced.fits hk32 hsteps hm.underway.endings hm.underway.unfinished hle, ?_⟩
  omega

/-- **The counts of a playtest add up.** In every report the runs that came to endings and the runs that came
to none are all runs, no type of ending is listed without a run, there are no more choices than all runs may
make, and no counter has outgrown its word. A playable adventure always has a report, and a run in it is
unfinished only when it has made all choices it may make. The seed is any, and so is the adventure in the first part. -/
theorem playtest_counts (a : Adventure) (settings : PlaytestSettings)
    (hruns : settings.runs ≤ Word.max32) (hsteps : settings.maxSteps ≤ Word.max32) :
    (∀ report, playtest a settings = .ok report →
      report.endings.total + report.unfinished = settings.runs ∧
      (∀ entry ∈ report.endings, 1 ≤ entry.2) ∧
      report.steps ≤ settings.runs * settings.maxSteps ∧
      NoOverflow a settings) ∧
    (a.isPlayable = true →
      ∃ report, playtest a settings = .ok report ∧
        report.unfinished * settings.maxSteps ≤ report.steps ∧
        ∀ before after, playOnce a settings.maxSteps before = .ok after →
          after.tally.unfinished ≠ before.tally.unfinished →
          after.tally.steps = before.tally.steps + settings.maxSteps) := by
  constructor
  · intro report hreport
    obtain ⟨state, hstate, rfl⟩ := playtest_eq_ok_iff.mp hreport
    have hbalanced := balanced_of_playRuns hstate
    exact ⟨hbalanced.finished, hbalanced.listed, hbalanced.steps_le,
      noOverflow_of_playRuns hruns hsteps hstate⟩
  · intro hplayable
    have ha := Adventure.sound_of_isPlayable hplayable
    obtain ⟨report, hreport⟩ := exists_playtest ha settings
    obtain ⟨state, hstate, rfl⟩ := playtest_eq_ok_iff.mp hreport
    refine ⟨_, hreport, exhausted_of_playRuns ha hstate, ?_⟩
    intro before after hrun hunfinished
    exact exhausted_of_playOnce ha hrun hunfinished

/-- Five runs at the crossroads, of at most three choices each: two of them walk in circles. -/
theorem playtest_counts_crossroads :
    5 ≤ Word.max32 ∧ 3 ≤ Word.max32 ∧ Adventure.crossroads.isPlayable = true ∧
    playtest .crossroads ⟨5, 7, 3⟩ = .ok ⟨5, [("fall", 3)], 2, 9, [1, 2, 3], ["rope"]⟩ ∧
    Table.total [("fall", 3)] + 2 = 5 ∧ 9 ≤ 5 * 3 ∧ NoOverflow .crossroads ⟨5, 7, 3⟩ ∧
    ∃ report, playtest .crossroads ⟨5, 7, 3⟩ = .ok report ∧ report.unfinished * 3 ≤ report.steps := by
  have hruns : 5 ≤ Word.max32 := by decide
  have hsteps : 3 ≤ Word.max32 := by decide
  have hreport : playtest .crossroads ⟨5, 7, 3⟩ =
      .ok ⟨5, [("fall", 3)], 2, 9, [1, 2, 3], ["rope"]⟩ := rfl
  obtain ⟨hcounts, hplayable⟩ := playtest_counts .crossroads ⟨5, 7, 3⟩ hruns hsteps
  obtain ⟨hsum, -, hle, hwords⟩ := hcounts _ hreport
  obtain ⟨report, hok, hunfinished, -⟩ := hplayable Adventure.crossroads_isPlayable
  exact ⟨hruns, hsteps, Adventure.crossroads_isPlayable, hreport, hsum, hle, hwords, report, hok,
    hunfinished⟩

end Playtest

end Gamebook
