import Gamebook.Proofs.PlaytestCounts
import Mathlib.Data.List.Basic

/-!
# More runs only refine the report

The runs of a longer playtest begin with those of a shorter one, since one source of random numbers serves them
all in turn. Nothing that has been noted is lost by what follows (`Tally.Grows`): counts and collections only
grow, and what has never been held only shrinks.

Two facts are put together here. A playtest of many runs is one of fewer and then the others
(`playRuns_add_eq_ok_iff`), which is where the one source matters: if every run drew from a source of its own making,
a run would not depend on those before it, and if the number of runs went into the seed, the first runs would not be
the same. And every single thing that a run does to a tally only adds to it. `Tally.Grows` is reflexive and
transitive, so what holds of a look, of a choice and of an end holds of runs, and of any number of them.

A longer playtest may fail where a shorter one does not, in an adventure that was not checked: so it is the report of
the longer one that is given, and the shorter one is shown to have a report.
-/

namespace Gamebook

variable {s : Snapshot} {t u v : Tally}

/-! ## What is noted stays noted -/

/-- One tally has noted all that another has. A type of ending that is not listed counts as none. -/
structure Tally.Grows (t u : Tally) : Prop where
  endings : ∀ endingType, (t.endings.get? endingType).getD 0 ≤ (u.endings.get? endingType).getD 0
  unfinished : t.unfinished ≤ u.unfinished
  steps : t.steps ≤ u.steps
  visited : ∀ id ∈ t.visited, id ∈ u.visited
  held : ∀ item ∈ t.held, item ∈ u.held

namespace Tally

theorem Grows.refl (t : Tally) : t.Grows t :=
  ⟨fun _ => Nat.le_refl _, Nat.le_refl _, Nat.le_refl _, fun _ h => h, fun _ h => h⟩

theorem Grows.trans (h : t.Grows u) (h' : u.Grows v) : t.Grows v where
  endings endingType := Nat.le_trans (h.endings endingType) (h'.endings endingType)
  unfinished := Nat.le_trans h.unfinished h'.unfinished
  steps := Nat.le_trans h.steps h'.steps
  visited id hid := h'.visited id (h.visited id hid)
  held item hitem := h'.held item (h.held item hitem)

theorem grows_observe (t : Tally) (s : Snapshot) : t.Grows (t.observe s) where
  endings _ := Nat.le_refl _
  unfinished := Nat.le_refl _
  steps := Nat.le_refl _
  visited _ hid := mem_visited_observe.mpr (.inl hid)
  held _ hitem := mem_held_observe.mpr (.inl hitem)

theorem grows_countStep (t : Tally) : t.Grows t.countStep :=
  { Grows.refl t with steps := Nat.le_succ _ }

theorem grows_countUnfinished (t : Tally) : t.Grows t.countUnfinished :=
  { Grows.refl t with unfinished := Nat.le_succ _ }

theorem grows_countEnding (t : Tally) (endingType : String) : t.Grows (t.countEnding endingType) where
  endings other := by
    rw [countEnding, Table.get?_put]
    split
    · next h =>
      subst h
      exact Nat.le_succ _
    · exact Nat.le_refl _
  unfinished := Nat.le_refl _
  steps := Nat.le_refl _
  visited _ hid := hid
  held _ hitem := hitem

end Tally

namespace Playtest

variable {a : Adventure} {m n : Moment} {before after : PlaytestState} {maxSteps runs : Nat}

/-! ## Runs only add -/

theorem Turn.grows (h : Turn a m n) : m.state.tally.Grows n.state.tally := by
  cases h
  exact (Tally.grows_observe _ _).trans (Tally.grows_countStep _)

theorem Ends.grows (h : Ends a m after) : m.state.tally.Grows after.tally := by
  apply (Tally.grows_observe m.state.tally m.snapshot).trans
  cases h with
  | ending => exact Tally.grows_countEnding _ _
  | givenUp | deadEnd => exact Tally.grows_countUnfinished _

theorem Passes.grows (h : Passes a maxSteps before m) : before.tally.Grows m.state.tally := by
  apply h.invariant (motive := fun m => before.tally.Grows m.state.tally)
  · intro s _
    exact Tally.Grows.refl _
  · intro m n hturn hm
    exact hm.trans hturn.grows

/-- Runs only add to what has been noted. -/
theorem grows_of_playRuns (h : playRuns a maxSteps runs before = .ok after) :
    before.tally.Grows after.tally := by
  apply playRuns_invariant (motive := fun _ state => before.tally.Grows state.tally) (.refl _) _ h
  intro k middle next hmiddle hrun
  obtain ⟨m, hm, hends⟩ := playOnce_ends hrun
  exact hmiddle.trans (hm.grows.trans hends.grows)

/-! ## Reports

A report forgets the state of the generator, and keeps of the tally what an author asks for. All of it grows with the
tally, but for the items that were never held, of which there are the fewer the more have been held. -/

/-- A report of a playtest that holds all of another: no count is smaller, the counts of runs differ by the
runs that have come in addition, nothing visited is missing, and no item is newly among those never held. -/
structure Refines (additional : Nat) (less more : PlaytestReport) : Prop where
  endings : ∀ endingType,
    (less.endings.get? endingType).getD 0 ≤ (more.endings.get? endingType).getD 0
  unfinished : less.unfinished ≤ more.unfinished
  steps : less.steps ≤ more.steps
  finished :
    more.endings.total + more.unfinished = less.endings.total + less.unfinished + additional
  visited : ∀ id ∈ less.visited, id ∈ more.visited
  neverHeld : more.neverHeld.Sublist less.neverHeld

/-- What is held more is never held less. -/
theorem neverHeld_sublist (h : ∀ item ∈ t.held, item ∈ u.held) (a : Adventure) (fewer more : Nat) :
    (reportOf a more u).neverHeld.Sublist (reportOf a fewer t).neverHeld := by
  apply List.Sublist.map
  apply List.monotone_filter_right
  intro item hitem
  simp only [Inventory.contains, Bool.not_eq_true', decide_eq_false_iff_not] at hitem ⊢
  intro hheld
  exact hitem (h item.id hheld)

/-- **More runs only refine the report.** If a playtest of some runs has a report, then so has one of fewer runs
with the same seed and the same bound on the choices, and the report of more runs refines it: no count is smaller, the
counts of runs differ by the additional runs, and no passage that was visited and no item that was held is forgotten. -/
theorem more_runs_refine (a : Adventure) (seed : UInt64) (maxSteps : Nat) {fewer runs : Nat}
    (hle : fewer ≤ runs) {more : PlaytestReport} (h : playtest a ⟨runs, seed, maxSteps⟩ = .ok more) :
    ∃ less, playtest a ⟨fewer, seed, maxSteps⟩ = .ok less ∧ Refines (runs - fewer) less more := by
  obtain ⟨last, hlast, rfl⟩ := playtest_eq_ok_iff.mp h
  obtain ⟨middle, hmiddle, hrest⟩ := exists_playRuns_of_le hle hlast
  refine ⟨_, playtest_eq_ok_iff.mpr ⟨middle, hmiddle, rfl⟩, ?_⟩
  have hgrows : middle.tally.Grows last.tally := grows_of_playRuns hrest
  have hfewer := (balanced_of_playRuns hmiddle).finished
  have hruns := (balanced_of_playRuns hlast).finished
  refine ⟨hgrows.endings, hgrows.unfinished, hgrows.steps, ?_, hgrows.visited,
    neverHeld_sublist hgrows.held a fewer runs⟩
  simp only [reportOf] at hfewer hruns ⊢
  omega

/-- At the crossroads the first two of five runs have a report of their own. -/
theorem more_runs_refine_crossroads :
    2 ≤ 5 ∧ playtest .crossroads ⟨5, 7, 3⟩ = .ok ⟨5, [("fall", 3)], 2, 9, [1, 2, 3], ["rope"]⟩ ∧
    ∃ less, playtest .crossroads ⟨2, 7, 3⟩ = .ok less ∧
      Refines 3 less ⟨5, [("fall", 3)], 2, 9, [1, 2, 3], ["rope"]⟩ := by
  have hle : 2 ≤ 5 := by decide
  have hmore : playtest .crossroads ⟨5, 7, 3⟩ =
      .ok ⟨5, [("fall", 3)], 2, 9, [1, 2, 3], ["rope"]⟩ := rfl
  exact ⟨hle, hmore, more_runs_refine .crossroads 7 3 hle hmore⟩

end Playtest

end Gamebook
