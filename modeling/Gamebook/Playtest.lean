import Gamebook.Decimal.Places
import Gamebook.Play
import Gamebook.Random
import Gamebook.Table

/-!
# Random play

A playtest plays an adventure many times, choosing at random among the choices on offer, until an
ending is reached or a run has taken too many steps. The tally of all runs tells an author which
endings a reader is likely to see, and which passages and items nobody met. One source of random
numbers serves all runs in turn, so a seed fixes the whole test.
-/

namespace Gamebook

/-- How a playtest is done. -/
structure PlaytestSettings where
  /-- The number of runs. -/
  runs : Nat := 100
  /-- The seed of the random numbers. -/
  seed : UInt64 := 42
  /-- The choices after which a run is given up. -/
  maxSteps : Nat := 500
deriving DecidableEq, Repr

/-- What the runs so far have met. -/
structure Tally where
  /-- How many runs came to each type of ending. -/
  endings : Table Nat
  /-- How many runs came to none. -/
  unfinished : Nat
  /-- The choices made in all runs. -/
  steps : Nat
  /-- The passages that were on screen, in order of first appearance. -/
  visited : List PassageId
  /-- The items that were carried. -/
  held : Inventory

namespace Tally

/-- Nothing met yet. -/
def empty : Tally := ⟨[], 0, 0, [], .empty⟩

/-- Notes the passage on screen and what is carried. -/
def observe (t : Tally) (s : Snapshot) : Tally :=
  { t with
    visited :=
      match s.state.passageId? with
      | some id => if id ∈ t.visited then t.visited else t.visited ++ [id]
      | none => t.visited
    held := s.inventory.ids.foldl Inventory.insert t.held }

/-- Counts a run that came to an ending. -/
def countEnding (t : Tally) (endingType : String) : Tally :=
  { t with endings := t.endings.put endingType ((t.endings.get? endingType).getD 0 + 1) }

/-- Counts a run that came to no ending. -/
def countUnfinished (t : Tally) : Tally := { t with unfinished := t.unfinished + 1 }

/-- Counts a choice. -/
def countStep (t : Tally) : Tally := { t with steps := t.steps + 1 }

end Tally

/-- Where a playtest stands between two runs. -/
structure PlaytestState where
  tally : Tally
  random : Generator

/-- The rest of a run, of at most so many more choices. -/
def walk (a : Adventure) (s : Snapshot) (state : PlaytestState) :
    (choicesLeft : Nat) → Except PlayError PlaytestState
  | 0 =>
    let tally := state.tally.observe s
    match s.state with
    | .ended _ endingType => .ok { state with tally := tally.countEnding endingType }
    | _ => .ok { state with tally := tally.countUnfinished }
  | choicesLeft + 1 =>
    let tally := state.tally.observe s
    match s.state with
    | .ended _ endingType => .ok { state with tally := tally.countEnding endingType }
    | _ =>
      let offered := match s.passage? a with
        | some passage => passage.choices.length
        | none => 0
      if offered = 0 then .ok { state with tally := tally.countUnfinished }
      else
        let (index, random) := state.random.below offered
        match s.choose a index with
        | .error e => .error e
        | .ok next => walk a next ⟨tally.countStep, random⟩ choicesLeft

/-- One run from the beginning. -/
def playOnce (a : Adventure) (maxSteps : Nat) (state : PlaytestState) :
    Except PlayError PlaytestState :=
  match Snapshot.initial.start a with
  | .error e => .error e
  | .ok s => walk a s state maxSteps

/-- A number of runs, one after the other. -/
def playRuns (a : Adventure) (maxSteps : Nat) : (runs : Nat) → PlaytestState →
    Except PlayError PlaytestState
  | 0, state => .ok state
  | runs + 1, state =>
    match playOnce a maxSteps state with
    | .error e => .error e
    | .ok state => playRuns a maxSteps runs state

/-- What a playtest found. -/
structure PlaytestReport where
  runs : Nat
  endings : Table Nat
  unfinished : Nat
  steps : Nat
  visited : List PassageId
  /-- The declared items that no run ever held. -/
  neverHeld : List ItemId

namespace PlaytestReport

/-- The passages that no run ever entered, in the order of the document. -/
def neverVisited (report : PlaytestReport) (a : Adventure) : List PassageId :=
  a.passageIds.filter fun id => !report.visited.contains id

/-- The passages that were entered, in increasing order. -/
def visitedInOrder (report : PlaytestReport) : List PassageId :=
  report.visited.mergeSort fun x y => x ≤ y

/-- The average number of choices in a run. -/
def averageSteps (report : PlaytestReport) : Float :=
  if report.runs = 0 then 0.0 else report.steps.toUInt64.toFloat / report.runs.toUInt64.toFloat

/-- The share of runs that a count amounts to, in percent. -/
def percentage (report : PlaytestReport) (count : Nat) : Float :=
  100.0 * count.toUInt64.toFloat / (max report.runs 1).toUInt64.toFloat

end PlaytestReport

/-- Plays an adventure at random. -/
def playtest (a : Adventure) (settings : PlaytestSettings) : Except PlayError PlaytestReport :=
  match playRuns a settings.maxSteps settings.runs ⟨.empty, .ofSeed settings.seed⟩ with
  | .error e => .error e
  | .ok state => .ok {
      runs := settings.runs
      endings := state.tally.endings
      unfinished := state.tally.unfinished
      steps := state.tally.steps
      visited := state.tally.visited
      neverHeld := (a.items.filter fun item => !state.tally.held.contains item.id).map (·.id) }

end Gamebook
