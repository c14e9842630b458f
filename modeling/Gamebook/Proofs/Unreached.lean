import Gamebook.Proofs.Findings
import Gamebook.Proofs.Reachability
import Mathlib.Logic.Function.Iterate

/-!
# The passages that are warned about

The search goes on in turns, and each visits one id that waits. `Search.turn` is one turn of it without any
bound on the turns. The program searches until nothing waits; the search here carries a bound, so that it is seen to
end, and it has to be shown that this bound is never what ends it (`exists_turns`), however often ids are repeated and
wherever the choices lead. The document need not have been checked: its choices may lead to passages that do not
exist, and passage 1 may be missing.

So the warnings can be said without the search: they are on the ids that are not `Reachable`, each once, in
the order in which the document first names them (`unreachable_warnings_exact`). What is `Reachable` is defined by
the choices alone. That the search visits these ids and no others is the invariant of the module on reachability;
what is added here is the end of the search, and the list of what is left.

An id that is used by two passages is listed once, and the choices of both count: play would only ever find the
first, but a warning that is missing for that reason comes with an error about the repeated id.
-/

namespace Gamebook.Adventure

variable {a : Adventure} {visits : Nat} {queue met : List PassageId} {id : PassageId}

/-! ## The turns of the search -/

/-- A moment of the search: the ids that wait for a visit, and all ids that have been met. -/
structure Search where
  queue : List PassageId
  met : List PassageId

namespace Search

/-- Before the first turn, passage 1 has been met and waits. -/
def start : Search := ⟨[.entry], [.entry]⟩

/-- One turn: the first id that waits is visited, and those of its successors that are new are met and
wait. When none waits, the search is over, and nothing changes any more. -/
def turn (a : Adventure) : Search → Search
  | ⟨[], met⟩ => ⟨[], met⟩
  | ⟨id :: queue, met⟩ =>
    ⟨queue ++ newIn met (a.successors id), met ++ newIn met (a.successors id)⟩

theorem turns_nil (turns : Nat) : (turn a)^[turns] ⟨[], met⟩ = ⟨[], met⟩ :=
  Function.iterate_fixed rfl turns

/-- The search with a bound meets what as many turns meet. -/
theorem met_turns (visits : Nat) (queue met : List PassageId) :
    ((turn a)^[visits] ⟨queue, met⟩).met = a.explore visits queue met := by
  induction visits generalizing queue met with
  | zero => rfl
  | succ visits ih =>
    cases queue with
    | nil => rw [turns_nil, explore]
    | cons id queue =>
      rw [Function.iterate_succ_apply]
      exact ih _ _

end Search

/-- Each id that is met costs one visit, so with the visits that the search starts with nothing waits in the
end. -/
theorem Searching.queue_turns (h : a.Searching visits queue met) :
    ((Search.turn a)^[visits] ⟨queue, met⟩).queue = [] := by
  induction visits generalizing queue met with
  | zero => exact h.queue_eq_nil
  | succ visits ih =>
    cases queue with
    | nil => rw [Search.turns_nil]
    | cons id queue =>
      rw [Function.iterate_succ_apply]
      exact ih h.visit

/-- Without passage 1 nothing follows it. -/
theorem successors_entry (h : ¬ a.hasPassage .entry = true) : a.successors .entry = [] := by
  apply List.eq_nil_iff_forall_not_mem.mpr
  intro next hnext
  obtain ⟨p, hp, hid, -⟩ := mem_successors_iff.mp hnext
  exact h (hasPassage_iff.mpr ⟨p, hp, hid⟩)

theorem turn_start (h : ¬ a.hasPassage .entry = true) : Search.start.turn a = ⟨[], [.entry]⟩ := by
  simp [Search.start, Search.turn, successors_entry h, newIn]

/-- **The search ends** on every document: after so many turns no id waits, and what has been met by then is
what the bounded search answers. Each id is met once and costs one turn. Besides passage 1 only ids of passages are
met, so one turn more than there are passages is enough. -/
theorem exists_turns (a : Adventure) :
    ∃ turns ≤ a.passages.length + 1, (Search.turn a)^[turns] .start = ⟨[], a.reached⟩ := by
  have hmet : ((Search.turn a)^[a.passages.length] .start).met = a.reached := Search.met_turns _ _ _
  by_cases h : a.hasPassage .entry = true
  · refine ⟨a.passages.length, Nat.le_succ _, ?_⟩
    rw [← hmet, ← (Searching.begin h).queue_turns]
    rfl
  · -- The search is over after its first turn, so the turns that follow it change nothing.
    have hturns : (Search.turn a)^[a.passages.length + 1] .start = ⟨[], [.entry]⟩ := by
      rw [Function.iterate_succ_apply, turn_start h, Search.turns_nil]
    refine ⟨a.passages.length + 1, le_rfl, ?_⟩
    rw [hturns, ← hmet]
    cases a.passages.length with
    | zero => rfl
    | succ n => rw [Function.iterate_succ_apply, turn_start h, Search.turns_nil]

/-! ## Each id once -/

/-- What is new in a list is what is not known, with each member where it first appears. -/
theorem newIn_eq_eraseDups (known ids : List PassageId) :
    newIn known ids = (ids.filter fun id => id ∉ known).eraseDups := by
  induction ids generalizing known with
  | nil => rfl
  | cons id rest ih =>
    rw [newIn, List.filter_cons]
    by_cases hid : id ∈ known
    · rw [if_pos hid, if_neg (by simpa using hid), ih]
    · rw [if_neg hid, if_pos (by simpa using hid), List.eraseDups_cons, ih, List.filter_filter]
      congr 2
      apply List.filter_congr
      intro other _
      by_cases hother : other = id <;> simp [hother]

/-! ## The warnings -/

/-- Without passage 1 nothing is reached but its id, which no passage has. -/
theorem reachable_iff_eq_entry (h : ¬ a.hasPassage .entry = true) : a.Reachable id ↔ id = .entry := by
  constructor
  · intro hid
    induction hid with
    | entry => rfl
    | @follow p q c _ hp _ _ _ ih => exact absurd (hasPassage_iff.mpr ⟨p, hp, ih⟩) h
  · rintro rfl
    exact .entry

instance (a : Adventure) : DecidablePred a.Reachable := fun id =>
  if h : a.hasPassage .entry = true then decidable_of_iff (id ∈ a.reached) (mem_reached_iff h)
  else decidable_of_iff (id = .entry) (reachable_iff_eq_entry h).symm

/-- **The warnings are exact** on every document. The search ends, and if there is a passage 1, the warnings
are on the ids of passages that cannot be reached from it, each once, in order of first appearance. Without
passage 1 there is none: the adventure has an error then, and everything in it would have to be warned about. -/
theorem unreachable_warnings_exact (a : Adventure) :
    (∃ turns ≤ a.passages.length + 1, (Search.turn a)^[turns] .start = ⟨[], a.reached⟩) ∧
    a.validate.inCategory .unreachable =
      if ∃ p ∈ a.passages, p.id = .entry then
        ((a.passageIds.filter fun id => ¬ a.Reachable id).eraseDups).map .unreachable
      else [] := by
  refine ⟨a.exists_turns, ?_⟩
  rw [← warnings_eq_inCategory, warnings_validate, checkReachability, unreached]
  by_cases h : a.hasPassage .entry = true
  · rw [if_pos h, if_pos (hasPassage_iff.mp h), newIn_eq_eraseDups]
    simp only [mem_reached_iff h]
  · rw [if_neg h, if_neg (mt hasPassage_iff.mpr h), List.map_nil]

end Gamebook.Adventure
