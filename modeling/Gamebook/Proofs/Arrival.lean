import Gamebook.Proofs.Findings
import Gamebook.Proofs.Play
import Gamebook.Proofs.Reachability

/-!
# Play arrives where the search does

The checks warn about passages that cannot be reached, by a search over the choices. What an author wants to know is
something else: whether a reader can ever get there. The search follows the choices of all passages with an id; play
looks up the first passage with an id, stops at endings, and can be restarted at any time. On a playable adventure no
id is used twice and no ending has choices, so the two agree: a passage is reported as unreachable if, and only if, no
actions ever lead there.

One direction is an invariant of play: it is at passages that can be reached, if it is at a passage at all (`Within`).
One action keeps this, since a choice that is made is a choice of the passage at hand, and a restart leads to passage 1;
an action that fails changes nothing. Many actions keep it by induction.

The other direction makes the actions, along the derivation of `Reachable`. To follow a choice, play must be at a
passage that offers it, and not at an ending; that is where the checks are needed (`Placed.exists_step_of_choice`). An
arrival at a passage with choices is no ending, whatever the type it names, because a playable adventure has no such
passage with a type. Steps that fail are among the actions in the first direction and never among those made in the
second.
-/

namespace Gamebook

variable {a : Adventure} {s t : Snapshot} {action : Action}

namespace Adventure

theorem nodup_passageIds (h : a.isPlayable = true) : a.passageIds.Nodup :=
  nodup_of_repeats_eq_empty (a.isPlayable_iff_flawless.mp h).passageIds

/-- A passage whose id no other passage has is the one that is found under its id. -/
theorem passage?_of_mem (h : a.passageIds.Nodup) {p : Passage} (hp : p ∈ a.passages) :
    a.passage? p.id = some p := by
  obtain ⟨q, hq⟩ := exists_passage?_of_hasPassage (hasPassage_iff.mpr ⟨p, hp, rfl⟩)
  have hid : q.id = p.id := id_of_passage? hq
  obtain rfl : q = p := List.inj_on_of_nodup_map h (mem_of_passage? hq) hp hid
  exact hq

end Adventure

namespace PlayState

theorem id_of_arrived {p : Passage} {id : PassageId} (h : (arrived p).passageId? = some id) :
    p.id = id :=
  Option.some.inj ((passageId?_arrived p).symm.trans h)

/-- A passage that offers a choice is no ending. -/
theorem arrived_of_mem_choices {p : Passage} {c : Choice} (h : c ∈ p.choices) :
    arrived p = .inPassage p.id := by
  have hterminal : p.isTerminal = false := by
    rw [Passage.isTerminal, List.isEmpty_eq_false_iff]
    exact List.ne_nil_of_mem h
  rw [arrived, hterminal]

end PlayState

namespace Snapshot

/-! ## Play stays where the search goes

The search goes from passage to passage without an inventory, and play may carry anything. But choices are not bound to
what is carried, so an action leads only along choices that the search follows as well. -/

/-- Play is at no passage that cannot be reached. -/
def Within (a : Adventure) (s : Snapshot) : Prop := ∀ id, s.state.passageId? = some id → a.Reachable id

theorem within_initial : Within a .initial := by
  intro id hid
  cases hid

theorem Steps.within (h : Steps a s action t) (hs : s.Within a) : t.Within a := by
  intro id hid
  cases h with
  | start hentry | restart hentry =>
    rw [← PlayState.id_of_arrived hid, Adventure.id_of_passage? hentry]
    exact .entry
  | @choose here inventory current target index choice hcurrent hchoice htarget =>
    have hhere : a.Reachable current.id := by
      rw [Adventure.id_of_passage? hcurrent]
      exact hs here rfl
    rw [← PlayState.id_of_arrived hid]
    exact hhere.follow (Adventure.mem_of_passage? hcurrent) (List.mem_of_getElem? hchoice)
      (Adventure.mem_of_passage? htarget) (Adventure.id_of_passage? htarget)

/-- Play never leaves what can be reached. -/
theorem Within.after (hs : s.Within a) (actions : List Action) : (s.after a actions).Within a := by
  induction actions generalizing s with
  | nil => exact hs
  | cons action actions ih =>
    refine ih ?_
    rcases next_cases a s action with hsteps | hsame
    · exact hsteps.within hs
    · rw [hsame]
      exact hs

/-! ## Play can go where the search goes -/

theorem Steps.next_eq (h : Steps a s action t) : s.next a action = t := by
  rw [next, step_eq_ok_iff.mpr h]

theorem after_concat (a : Adventure) (s : Snapshot) (actions : List Action) (action : Action) :
    s.after a (actions ++ [action]) = (s.after a actions).next a action := by
  rw [after, List.foldl_append]
  rfl

/-- Play that is at a passage which offers a choice can follow it. -/
theorem Placed.exists_step_of_choice (ha : a.Sound) (hids : a.passageIds.Nodup) (hs : Placed a s)
    {p : Passage} (hp : p ∈ a.passages) (hhere : s.state.passageId? = some p.id) {c : Choice}
    (hc : c ∈ p.choices) :
    ∃ action t, Steps a s action t ∧ t.state.passageId? = some c.goto := by
  cases hs with
  | introduction inventory => cases hhere
  | @arrived id q inventory hq =>
    -- The passage of play is the one that has the choice, so it is no ending.
    obtain rfl : q = p :=
      List.inj_on_of_nodup_map hids (Adventure.mem_of_passage? hq) hp (PlayState.id_of_arrived hhere)
    obtain ⟨index, hindex⟩ := List.mem_iff_getElem?.mp hc
    obtain ⟨target, htarget⟩ := ha.target q hp c hc
    rw [PlayState.arrived_of_mem_choices hc]
    refine ⟨.choose index, _, .choose (Adventure.passage?_of_mem hids hp) hindex htarget, ?_⟩
    rw [PlayState.passageId?_arrived, Adventure.id_of_passage? htarget]

/-- Some actions lead to each passage that can be reached. By induction on how it is reached: the actions that lead
to the passage before it, and the choice. -/
theorem exists_after_of_reachable (ha : a.Sound) (hids : a.passageIds.Nodup) {id : PassageId}
    (h : a.Reachable id) :
    ∃ actions, (initial.after a actions).state.passageId? = some id := by
  induction h with
  | entry =>
    obtain ⟨entry, hentry⟩ := ha.entry
    have hstart : Steps a initial .start ⟨.arrived entry, .empty⟩ := .start hentry
    refine ⟨[.start], ?_⟩
    show (initial.next a .start).state.passageId? = _
    rw [hstart.next_eq, PlayState.passageId?_arrived, Adventure.id_of_passage? hentry]
  | @follow p q c _ hp hc _ hgoto ih =>
    obtain ⟨actions, hactions⟩ := ih
    obtain ⟨action, t, hstep, ht⟩ :=
      (placed_initial.after actions).exists_step_of_choice ha hids hp hactions hc
    refine ⟨actions ++ [action], ?_⟩
    rw [after_concat, hstep.next_eq, ht, hgoto]

/-- On a playable adventure play can arrive at the passages that can be reached, and at no others. -/
theorem exists_after_iff_reachable (h : a.isPlayable = true) {id : PassageId} :
    (∃ actions, (initial.after a actions).state.passageId? = some id) ↔ a.Reachable id := by
  constructor
  · rintro ⟨actions, hid⟩
    exact within_initial.after actions id hid
  · exact exists_after_of_reachable (Adventure.sound_of_isPlayable h) (Adventure.nodup_passageIds h)

end Snapshot

namespace Adventure

/-- The warnings about a passage are on its id. -/
theorem exists_warning_iff {id : PassageId} :
    (∃ warning ∈ a.validate.warnings,
      warning.category = .unreachable ∧ warning.subject = .passage id) ↔ id ∈ a.unreached := by
  rw [warnings_validate, checkReachability]
  constructor
  · rintro ⟨warning, hwarning, -, hsubject⟩
    obtain ⟨other, hother, rfl⟩ := List.mem_map.mp hwarning
    obtain rfl : other = id := Subject.passage.inj hsubject
    exact hother
  · intro hid
    exact ⟨.unreachable id, List.mem_map_of_mem hid, rfl, rfl⟩

/-- **A passage is reported as unreachable exactly if play never leads there**, whatever a reader does from
the introduction on. The actions are any, in any number: those that fail, restarts and choices that do not exist are
among them. No bound is put on them in either direction. -/
theorem unreachable_iff_never_entered (h : a.isPlayable = true) {p : Passage} (hp : p ∈ a.passages) :
    (∃ warning ∈ a.validate.warnings,
      warning.category = .unreachable ∧ warning.subject = .passage p.id) ↔
    ¬ ∃ actions, (Snapshot.initial.after a actions).state.passageId? = some p.id := by
  have hentry : a.hasPassage .entry = true :=
    hasPassage_iff.mpr (a.isPlayable_iff_flawless.mp h).entry
  rw [exists_warning_iff, mem_unreached_iff hentry, Snapshot.exists_after_iff_reachable h]
  exact and_iff_right ⟨p, hp, rfl⟩

/-- The cellar with an attic to which no way leads. -/
def cellarAndAttic : Adventure where
  title := cellar.title
  introduction := cellar.introduction
  items := cellar.items
  passages := cellar.passages ++ [
    { id := 3, paragraphs := ["Dust."], choices := [], effects := [], notes := none,
      endingType := some "dust" }]

/-- The checks report the attic, and so no reader ever sees it. -/
theorem attic_never_entered :
    cellarAndAttic.isPlayable = true ∧
      ¬ ∃ actions, (Snapshot.initial.after cellarAndAttic actions).state.passageId? = some 3 := by
  have hplayable : cellarAndAttic.isPlayable = true := by decide
  have hattic : cellarAndAttic.passages[2] ∈ cellarAndAttic.passages := List.getElem_mem _
  refine ⟨hplayable, (unreachable_iff_never_entered hplayable hattic).mp ?_⟩
  exact ⟨.unreachable 3, by decide, rfl, rfl⟩

end Adventure

end Gamebook
