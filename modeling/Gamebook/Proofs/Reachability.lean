import Gamebook.Proofs.Validation
import Mathlib.Data.List.Perm.Subperm

/-!
# The search for passages finds all that can be reached

`Reachable` says, without the search, which passages can be reached from passage 1: choices are followed as
long as they lead to passages that exist. The search visits one id after the other, and at each moment it is
`Searching`: what it has met can be reached, and of an id that it has met it has met all successors too,
unless the id still waits in the queue. It met no id twice, and the visits that are left suffice for the ids
that wait; so the queue is empty in the end, and what has been met is what can be reached
(`mem_reached_iff`).

The first part of the invariant gives one direction at once. For the other, what has been met is closed under
successors only once nothing waits, so the end of the search matters, and that is what the last part is for
(`Searching.budget`). The visits that are left and the ids met are together as many as the passages and the ids that
wait. An id is met once, and there are no more ids than passages, so with no visit left nothing can wait. It would
not do to let the number of waiting ids go down, for a visit may add many.

All of this is about ids. Passages may share one, and then the choices of all of them count, which is what the search
does. On a playable adventure ids are distinct, and what can be reached is what play can enter; that is shown where
the play is.
-/

namespace Gamebook.Adventure

variable {a : Adventure}

/-- The ids of the passages that can be reached from passage 1. -/
inductive Reachable (a : Adventure) : PassageId → Prop
  | entry : Reachable a .entry
  | follow {p q : Passage} {c : Choice} :
      Reachable a p.id → p ∈ a.passages → c ∈ p.choices → q ∈ a.passages → q.id = c.goto →
      Reachable a q.id

theorem hasPassage_iff {id : PassageId} : a.hasPassage id = true ↔ ∃ p ∈ a.passages, p.id = id := by
  simp [hasPassage]

theorem mem_passageIds_iff {id : PassageId} : id ∈ a.passageIds ↔ a.hasPassage id = true := by
  simp [passageIds, hasPassage]

theorem mem_successors_iff {id next : PassageId} :
    next ∈ a.successors id ↔
      ∃ p ∈ a.passages, p.id = id ∧ ∃ c ∈ p.choices, c.goto = next ∧ ∃ q ∈ a.passages, q.id = next := by
  simp only [successors, List.mem_filter, List.mem_flatMap, List.mem_map, decide_eq_true_eq,
    hasPassage_iff]
  constructor
  · rintro ⟨⟨p, ⟨hp, hid⟩, c, hc, hgoto⟩, hnext⟩
    exact ⟨p, hp, hid, c, hc, hgoto, hnext⟩
  · rintro ⟨p, hp, hid, c, hc, hgoto, hnext⟩
    exact ⟨⟨p, ⟨hp, hid⟩, c, hc, hgoto⟩, hnext⟩

theorem Reachable.successor {id next : PassageId} (h : a.Reachable id)
    (hnext : next ∈ a.successors id) : a.Reachable next := by
  obtain ⟨p, hp, rfl, c, hc, hgoto, q, hq, rfl⟩ := mem_successors_iff.mp hnext
  exact h.follow hp hc hq hgoto.symm

/-! ## New ids

The ids that a passage leads to may be known, or come twice among themselves. What goes into the queue is what is
left of them without both, in the same order. -/

theorem mem_newIn_iff {id : PassageId} {known ids : List PassageId} :
    id ∈ newIn known ids ↔ id ∈ ids ∧ id ∉ known := by
  induction ids generalizing known with
  | nil => simp [newIn]
  | cons other rest ih =>
    rw [newIn]
    by_cases hother : other ∈ known
    · rw [if_pos hother, ih, List.mem_cons]
      constructor
      · rintro ⟨hmem, hnew⟩
        exact ⟨.inr hmem, hnew⟩
      · rintro ⟨rfl | hmem, hnew⟩
        · exact absurd hother hnew
        · exact ⟨hmem, hnew⟩
    · rw [if_neg hother, List.mem_cons, List.mem_cons, ih, List.mem_cons]
      by_cases heq : id = other
      · subst heq
        simp [hother]
      · simp [heq]

theorem nodup_newIn (known ids : List PassageId) : (newIn known ids).Nodup := by
  induction ids generalizing known with
  | nil => exact List.nodup_nil
  | cons other rest ih =>
    rw [newIn]
    by_cases hother : other ∈ known
    · rw [if_pos hother]
      exact ih known
    · rw [if_neg hother]
      refine List.nodup_cons.mpr ⟨fun hmem => ?_, ih (other :: known)⟩
      exact (mem_newIn_iff.mp hmem).2 List.mem_cons_self

/-! ## The search

The state of the search is a queue and the ids met so far. That it ends is part of the invariant: each visit takes one
id out of the queue, and only an id that was never met before goes in, of which the adventure has no more than
passages. -/

/-- What holds at each moment of the search. -/
structure Searching (a : Adventure) (visits : Nat) (queue met : List PassageId) : Prop where
  nodup : met.Nodup
  present : ∀ id ∈ met, a.hasPassage id = true
  waiting : ∀ id ∈ queue, id ∈ met
  entered : .entry ∈ met
  reachable : ∀ id ∈ met, a.Reachable id
  visited : ∀ id ∈ met, id ∈ queue ∨ ∀ next ∈ a.successors id, next ∈ met
  budget : visits + met.length = a.passages.length + queue.length

namespace Searching

variable {visits : Nat} {queue met : List PassageId} {id : PassageId}

theorem begin (h : a.hasPassage .entry = true) :
    a.Searching a.passages.length [.entry] [.entry] where
  nodup := by simp
  present := by
    intro id hid
    rw [List.mem_singleton.mp hid]
    exact h
  waiting := fun _ hid => hid
  entered := List.mem_singleton_self _
  reachable := by
    intro id hid
    rw [List.mem_singleton.mp hid]
    exact .entry
  visited := fun _ hid => .inl hid
  budget := rfl

/-- No more ids are met than there are passages. -/
theorem length_met_le (h : a.Searching visits queue met) : met.length ≤ a.passages.length := by
  have hsubset : met ⊆ a.passageIds := fun id hid => mem_passageIds_iff.mpr (h.present id hid)
  calc met.length
      ≤ a.passageIds.length := (h.nodup.subperm hsubset).length_le
    _ = a.passages.length := by rw [passageIds, List.length_map]

/-- A visit takes an id out of the queue and puts those of its successors in that are new. -/
theorem visit (h : a.Searching (visits + 1) (id :: queue) met) :
    a.Searching visits (queue ++ newIn met (a.successors id)) (met ++ newIn met (a.successors id)) where
  nodup := by
    refine List.nodup_append.mpr ⟨h.nodup, nodup_newIn met _, fun known hknown new hnew heq => ?_⟩
    rw [← heq] at hnew
    exact (mem_newIn_iff.mp hnew).2 hknown
  present := by
    intro next hnext
    rcases List.mem_append.mp hnext with hmet | hnew
    · exact h.present next hmet
    · obtain ⟨p, -, -, c, -, -, hpassage⟩ := mem_successors_iff.mp (mem_newIn_iff.mp hnew).1
      exact hasPassage_iff.mpr hpassage
  waiting := by
    intro next hnext
    rcases List.mem_append.mp hnext with hqueue | hnew
    · exact List.mem_append_left _ (h.waiting next (List.mem_cons_of_mem id hqueue))
    · exact List.mem_append_right _ hnew
  entered := List.mem_append_left _ h.entered
  reachable := by
    intro next hnext
    rcases List.mem_append.mp hnext with hmet | hnew
    · exact h.reachable next hmet
    · have hid : a.Reachable id := h.reachable id (h.waiting id List.mem_cons_self)
      exact hid.successor (mem_newIn_iff.mp hnew).1
  visited := by
    intro other hother
    rcases List.mem_append.mp hother with hmet | hnew
    · rcases h.visited other hmet with hqueue | hclosed
      · rcases List.mem_cons.mp hqueue with rfl | hqueue
        · -- The id that is visited now: each of its successors is known, or new.
          refine .inr fun next hnext => ?_
          by_cases hknown : next ∈ met
          · exact List.mem_append_left _ hknown
          · exact List.mem_append_right _ (mem_newIn_iff.mpr ⟨hnext, hknown⟩)
        · exact .inl (List.mem_append_left _ hqueue)
      · exact .inr fun next hnext => List.mem_append_left _ (hclosed next hnext)
    · exact .inl (List.mem_append_right _ hnew)
  budget := by
    have hbudget := h.budget
    simp only [List.length_cons, List.length_append] at hbudget ⊢
    omega

/-- When no visit is left, as many ids have been visited as there are passages, so none can still wait. -/
theorem queue_eq_nil (h : a.Searching 0 queue met) : queue = [] := by
  have hbudget := h.budget
  have hlength := h.length_met_le
  apply List.length_eq_zero_iff.mp
  omega

/-- The search ends with an empty queue. -/
theorem explore (h : a.Searching visits queue met) :
    ∃ left, a.Searching left [] (a.explore visits queue met) := by
  induction visits generalizing queue met with
  | zero =>
    obtain rfl : queue = [] := h.queue_eq_nil
    exact ⟨0, h⟩
  | succ visits ih =>
    cases queue with
    | nil => exact ⟨visits + 1, h⟩
    | cons id queue => exact ih h.visit

end Searching

/-- **The search finds what can be reached**, and nothing else, however many passages the document has. By the
invariant at the end of the search, where nothing waits: along `Reachable` in the one direction, and at once in the
other. -/
theorem mem_reached_iff (h : a.hasPassage .entry = true) {id : PassageId} :
    id ∈ a.reached ↔ a.Reachable id := by
  obtain ⟨left, hsearch⟩ := (Searching.begin h).explore
  constructor
  · exact hsearch.reachable id
  · intro hreachable
    induction hreachable with
    | entry => exact hsearch.entered
    | @follow p q c _ hp hc hq hgoto ih =>
      rcases hsearch.visited p.id ih with hqueue | hclosed
      · exact absurd hqueue List.not_mem_nil
      · exact hclosed q.id (mem_successors_iff.mpr ⟨p, hp, rfl, c, hc, hgoto.symm, q, hq, rfl⟩)

/-- The ids that are reported are those of passages that cannot be reached. -/
theorem mem_unreached_iff (h : a.hasPassage .entry = true) {id : PassageId} :
    id ∈ a.unreached ↔ (∃ p ∈ a.passages, p.id = id) ∧ ¬ a.Reachable id := by
  rw [unreached, if_pos h, mem_newIn_iff, mem_reached_iff h, mem_passageIds_iff, hasPassage_iff]

end Gamebook.Adventure
