import Gamebook.Proofs.Findings
import Gamebook.Proofs.Playtest
import Gamebook.Proofs.Reachability
import Gamebook.Proofs.Table

/-!
# A playtest meets nothing that play cannot

What a playtest notes is `Founded`: the passages it has visited can be reached, the endings are those of
passages it has visited, and an item it has held was given behind a choice it has followed. This is kept from
each moment of a run to the next, and so by any number of runs.

The invariant has to be of what has been seen, and not of what was noted before a moment: an item that is carried has
been given by the passage on the screen, which is among those visited only once the screen has been looked at. A look
therefore adds what is there, and asks that it is founded with what the look adds (`Founded.observe`). That a passage
gives an item is kept when more is visited, as are endings, so what was founded stays so.

Items that are carried need not be declared for this, and passages need not have ids of their own. Only at the end,
where the report is compared with the checks, is the adventure playable. On a playable adventure the report agrees
with the checks: a passage that they warn of is among those never visited (`playtest_sightings`). The converse does
not hold and could not, for a playtest of few runs visits few passages.
-/

namespace Gamebook

namespace Adventure

variable {a : Adventure} {item : ItemId} {visited more : List PassageId}

/-- A choice of a visited passage leads to a visited passage that gives an item. -/
def Given (a : Adventure) (visited : List PassageId) (item : ItemId) : Prop :=
  ∃ p ∈ a.passages, ∃ c ∈ p.choices, ∃ q ∈ a.passages,
    p.id ∈ visited ∧ q.id = c.goto ∧ q.id ∈ visited ∧ .add item ∈ q.effects

theorem Given.mono (h : a.Given visited item) (hmore : ∀ id ∈ visited, id ∈ more) :
    a.Given more item := by
  obtain ⟨p, hp, c, hc, q, hq, hpv, hgoto, hqv, hadd⟩ := h
  exact ⟨p, hp, c, hc, q, hq, hmore _ hpv, hgoto, hmore _ hqv, hadd⟩

/-- A visited passage is an ending of a type. -/
def EndsAt (a : Adventure) (visited : List PassageId) (endingType : String) : Prop :=
  ∃ p ∈ a.passages, p.id ∈ visited ∧ p.isTerminal = true ∧ p.endingType = some endingType

theorem EndsAt.mono {endingType : String} (h : a.EndsAt visited endingType)
    (hmore : ∀ id ∈ visited, id ∈ more) : a.EndsAt more endingType := by
  obtain ⟨p, hp, hpv, hend⟩ := h
  exact ⟨p, hp, hmore _ hpv, hend⟩

end Adventure

theorem PlayState.arrived_eq_ended {p : Passage} {id : PassageId} {endingType : String}
    (h : arrived p = .ended id endingType) :
    p.id = id ∧ p.isTerminal = true ∧ p.endingType = some endingType := by
  unfold arrived at h
  split at h
  · rename_i hterminal htype
    cases h
    exact ⟨rfl, hterminal, htype⟩
  · cases h

namespace Playtest

variable {a : Adventure} {settings : PlaytestSettings} {s : Snapshot} {m n : Moment}
  {before after : PlaytestState} {t : Tally} {maxSteps runs : Nat}

/-- All that has been noted is what play in the adventure can meet. -/
structure Founded (a : Adventure) (t : Tally) : Prop where
  visited : ∀ id ∈ t.visited, a.Reachable id
  endings : ∀ endingType ∈ t.endings.names, a.EndsAt t.visited endingType
  held : ∀ item ∈ t.held, a.Given t.visited item

theorem founded_empty (a : Adventure) : Founded a .empty :=
  ⟨fun _ h => absurd h List.not_mem_nil, fun _ h => absurd h List.not_mem_nil,
    fun item h => absurd h (Inventory.not_mem_empty item)⟩

/-- A look at a passage that can be reached, with nothing in hand but what was noted before or is given
there. -/
theorem Founded.observe (h : Founded a t) (hhere : ∀ id, s.state.passageId? = some id → a.Reachable id)
    (hcarried : ∀ item ∈ s.inventory, item ∈ t.held ∨ a.Given (t.observe s).visited item) :
    Founded a (t.observe s) := by
  have hmore : ∀ id ∈ t.visited, id ∈ (t.observe s).visited := by
    intro id hid
    exact Tally.mem_visited_observe.mpr (.inl hid)
  refine ⟨?_, ?_, ?_⟩
  · intro id hid
    rcases Tally.mem_visited_observe.mp hid with hid | hid
    · exact h.visited id hid
    · exact hhere id hid
  · intro endingType hend
    exact (h.endings endingType hend).mono hmore
  · intro item hitem
    rcases Tally.mem_held_observe.mp hitem with hheld | hinventory
    · exact (h.held item hheld).mono hmore
    · rcases hcarried item hinventory with hheld | hgiven
      · exact (h.held item hheld).mono hmore
      · exact hgiven

/-- A run begins at passage 1, with nothing in hand. -/
theorem Founded.begin (h : Founded a before.tally) (hstart : Snapshot.Steps a .initial .start s) :
    Founded a (before.tally.observe s) := by
  cases hstart with
  | start hentry =>
    apply h.observe
    · intro id hid
      rw [PlayState.passageId?_arrived, Adventure.id_of_passage? hentry] at hid
      cases hid
      exact .entry
    · intro item hitem
      exact absurd hitem (Inventory.not_mem_empty item)

/-- **A choice leads to a passage that can be reached**, and what is in hand there was in hand before the choice,
or is given behind it. The passage of the choice is among those visited, since it was on screen before. -/
theorem Founded.turn (h : Founded a m.seen) (hturn : Turn a m n) : Founded a n.seen := by
  cases hturn with
  | @choose s next state random choicesLeft index hsteps =>
    have hseen : Founded a (state.tally.observe s).countStep := ⟨h.visited, h.endings, h.held⟩
    cases hsteps with
    | @choose id inventory current target _ choice hcurrent hchoice htarget =>
      obtain rfl : current.id = id := Adventure.id_of_passage? hcurrent
      have hpassage : current ∈ a.passages := Adventure.mem_of_passage? hcurrent
      have hmem : choice ∈ current.choices := List.mem_of_getElem? hchoice
      have hvisited : current.id ∈ (state.tally.observe ⟨.inPassage current.id, inventory⟩).visited :=
        Tally.mem_visited_observe.mpr (.inr rfl)
      apply hseen.observe
      · intro id hid
        rw [PlayState.passageId?_arrived] at hid
        cases hid
        exact (h.visited current.id hvisited).follow hpassage hmem (Adventure.mem_of_passage? htarget)
          (Adventure.id_of_passage? htarget)
      · -- What was in hand before the choice has been seen there; all else the target adds.
        intro item hitem
        rcases Inventory.added_of_mem_applyAll hitem with hcarried | hadd
        · exact .inl (Tally.mem_held_observe.mpr (.inr hcarried))
        · refine .inr ⟨current, hpassage, choice, hmem, target, Adventure.mem_of_passage? htarget, ?_,
            Adventure.id_of_passage? htarget, ?_, hadd⟩
          · exact Tally.mem_visited_observe.mpr (.inl hvisited)
          · exact Tally.mem_visited_observe.mpr (.inr (PlayState.passageId?_arrived target))

/-- An ending is counted where the reader sees it. -/
theorem Founded.finish (h : Founded a m.seen) (harrived : m.Arrived a) (hends : Ends a m after) :
    Founded a after.tally := by
  cases hends with
  | @ending id endingType hstate =>
    refine ⟨h.visited, ?_, h.held⟩
    intro other hother
    rcases Table.mem_names_put.mp hother with rfl | hother
    · obtain ⟨_, p, hp, harrived⟩ := harrived
      obtain ⟨hid, hend⟩ := PlayState.arrived_eq_ended (harrived.symm.trans hstate)
      refine ⟨p, Adventure.mem_of_passage? hp, ?_, hend⟩
      apply Tally.mem_visited_observe.mpr
      rw [hstate, hid]
      exact .inr rfl
    · exact h.endings other hother
  | givenUp | deadEnd => exact ⟨h.visited, h.endings, h.held⟩

/-- What any number of runs has noted is founded. -/
theorem founded_of_playRuns {seed : UInt64}
    (h : playRuns a maxSteps runs (opening seed) = .ok after) : Founded a after.tally := by
  apply playRuns_invariant (motive := fun _ state => Founded a state.tally) (founded_empty a) _ h
  intro k middle next hmiddle hrun
  obtain ⟨m, hm, hends⟩ := playOnce_ends hrun
  have hseen : Founded a m.seen := by
    apply hm.invariant (motive := fun m => Founded a m.seen)
    · intro s hstart
      exact hmiddle.begin hstart
    · intro m n hturn hm
      exact hm.turn hturn
  exact hseen.finish hm.arrived hends

/-- Each run visits passage 1. -/
theorem entry_mem_visited (h : playOnce a maxSteps before = .ok after) :
    .entry ∈ after.tally.visited := by
  obtain ⟨m, hm, hends⟩ := playOnce_ends h
  have hseen : .entry ∈ m.seen.visited := by
    apply hm.invariant (motive := fun m => .entry ∈ m.seen.visited)
    · intro s hstart
      cases hstart with
      | start hentry =>
        apply Tally.mem_visited_observe.mpr
        rw [PlayState.passageId?_arrived, Adventure.id_of_passage? hentry]
        exact .inr rfl
    · intro m n hturn hm
      cases hturn
      exact Tally.mem_visited_observe.mpr (.inl hm)
  cases hends <;> exact hseen

theorem entry_mem_visited_of_playRuns (hruns : 1 ≤ runs)
    (h : playRuns a maxSteps runs before = .ok after) : .entry ∈ after.tally.visited := by
  obtain ⟨middle, -, hrun⟩ := exists_playRuns_of_le (Nat.sub_le runs 1) h
  rw [Nat.sub_sub_self hruns, playRuns_one] at hrun
  exact entry_mem_visited hrun

theorem mem_neverHeld_reportOf {item : Item} (hitem : item ∈ a.items) (hheld : item.id ∉ t.held) :
    item.id ∈ (reportOf a runs t).neverHeld := by
  refine List.mem_map.mpr ⟨item, List.mem_filter.mpr ⟨hitem, ?_⟩, rfl⟩
  simpa [Inventory.contains] using hheld

theorem mem_neverVisited_reportOf {id : PassageId} (hid : id ∈ a.passageIds) (hvisited : id ∉ t.visited) :
    id ∈ (reportOf a runs t).neverVisited a := by
  refine List.mem_filter.mpr ⟨hid, ?_⟩
  simpa [reportOf] using hvisited

/-- **A playtest reports only what play can do.** On a playable adventure there is a report. The passages that
the checks warn of are never visited; passage 1 is visited by the first run; the endings are those of visited
passages; and a declared item that was held at all is given by a visited passage to which a choice of a visited
passage leads. The seed, the number of runs and the bound on the choices are any. -/
theorem playtest_sightings (h : a.isPlayable = true) (settings : PlaytestSettings) :
    ∃ report, playtest a settings = .ok report ∧
      (∀ id, .unreachable id ∈ a.validate.warnings → id ∈ report.neverVisited a) ∧
      (1 ≤ settings.runs → .entry ∈ report.visited) ∧
      (∀ endingType ∈ report.endings.names, a.EndsAt report.visited endingType) ∧
      (∀ item ∈ a.items, item.id ∉ report.neverHeld → a.Given report.visited item.id) := by
  obtain ⟨report, hreport⟩ := exists_playtest (Adventure.sound_of_isPlayable h) settings
  obtain ⟨state, hruns, rfl⟩ := playtest_eq_ok_iff.mp hreport
  have hfounded : Founded a state.tally := founded_of_playRuns hruns
  refine ⟨_, hreport, ?_, ?_, hfounded.endings, ?_⟩
  · intro id hwarning
    have hentry : a.hasPassage .entry = true :=
      Adventure.hasPassage_iff.mpr (a.isPlayable_iff_flawless.mp h).entry
    rw [Adventure.warnings_validate, Adventure.checkReachability] at hwarning
    obtain ⟨other, hother, heq⟩ := List.mem_map.mp hwarning
    cases heq
    obtain ⟨hpassage, hunreachable⟩ := (Adventure.mem_unreached_iff hentry).mp hother
    apply mem_neverVisited_reportOf
    · exact Adventure.mem_passageIds_iff.mpr (Adventure.hasPassage_iff.mpr hpassage)
    · intro hvisited
      exact hunreachable (hfounded.visited id hvisited)
  · intro hone
    exact entry_mem_visited_of_playRuns hone hruns
  · intro item hitem hnot
    apply hfounded.held
    by_contra hheld
    exact hnot (mem_neverHeld_reportOf hitem hheld)

/-- At the crossroads no run visits the valley, all see passage 1, those that fall have visited the cliff, and
the lamp comes from the shed. -/
theorem playtest_sightings_crossroads :
    Adventure.crossroads.isPlayable = true ∧
    ∃ report, playtest .crossroads ⟨5, 7, 3⟩ = .ok report ∧ 4 ∈ report.neverVisited .crossroads ∧
      .entry ∈ report.visited ∧ Adventure.crossroads.EndsAt report.visited "fall" ∧
      Adventure.crossroads.Given report.visited "lamp" := by
  have hplayable := Adventure.crossroads_isPlayable
  have hknown : playtest .crossroads ⟨5, 7, 3⟩ =
      .ok ⟨5, [("fall", 3)], 2, 9, [1, 2, 3], ["rope"]⟩ := rfl
  obtain ⟨report, hreport, hwarned, hentry, hendings, hheld⟩ :=
    playtest_sightings hplayable ⟨5, 7, 3⟩
  obtain rfl := Except.ok.inj (hreport.symm.trans hknown)
  refine ⟨hplayable, _, hreport, hwarned 4 (by decide), hentry (by decide), ?_, ?_⟩
  · exact hendings "fall" (by decide)
  · exact hheld ⟨"lamp", "Lamp"⟩ (by decide) (by decide)

end Playtest

end Gamebook
