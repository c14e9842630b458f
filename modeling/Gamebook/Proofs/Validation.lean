import Gamebook.Validation

/-!
# What a playable adventure can be relied on for

Play looks passages up and may fail to find them; it reads the type of an ending and may find none. An
adventure on which the checks report no error is `Sound`: none of this happens. Everything that is proved
of play goes through `Sound`, and never back to the checks. So a check that is added, or made stricter, changes
nothing behind this module.

Being sound is less than being playable. It says nothing of texts that are blank, of ids that are used twice, or of
effects that conflict, none of which can stop play. It is said of looking up and not of membership where that is what
play does: of a choice, that the passage it leads to is found.

The way from the checks to `Sound` is by contraposition. For each thing that play needs there is an error that the
checks would report if it were missing, and the report of a playable adventure has no errors
(`not_mem_validate`). How many findings are made on a defect is of no interest here; one is enough.
-/

namespace Gamebook.Adventure

variable {a : Adventure}

/-- What play needs of an adventure: passage 1 exists, every choice leads to a passage, effects name
declared items, and a passage without choices has a type of ending. -/
structure Sound (a : Adventure) : Prop where
  entry : ∃ p, a.passage? .entry = some p
  target : ∀ p ∈ a.passages, ∀ c ∈ p.choices, ∃ q, a.passage? c.goto = some q
  declared : ∀ p ∈ a.passages, ∀ e ∈ p.effects, e.item ∈ a.itemIds
  ending : ∀ p ∈ a.passages, p.choices = [] → ∃ endingType, p.endingType = some endingType

/-! ## Looking up -/

theorem mem_of_passage? {id : PassageId} {p : Passage} (h : a.passage? id = some p) : p ∈ a.passages :=
  List.mem_of_find?_eq_some h

theorem id_of_passage? {id : PassageId} {p : Passage} (h : a.passage? id = some p) : p.id = id := by
  simpa using List.find?_some h

/-- A passage that was found is found again under its own id. -/
theorem passage?_id {id : PassageId} {p : Passage} (h : a.passage? id = some p) :
    a.passage? p.id = some p := by
  rw [id_of_passage? h]
  exact h

theorem exists_passage?_of_hasPassage {id : PassageId} (h : a.hasPassage id = true) :
    ∃ p, a.passage? id = some p := by
  rw [hasPassage, List.any_eq_true] at h
  obtain ⟨p, hp, hid⟩ := h
  exact Option.isSome_iff_exists.mp (List.find?_isSome.mpr ⟨p, hp, hid⟩)

/-! ## Errors that would be found -/

theorem missingEntry_mem (h : a.hasPassage .entry = false) : .missingEntry ∈ a.checkReferences := by
  rw [checkReferences, if_neg (by simp [h])]
  exact List.mem_append_left _ List.mem_cons_self

theorem danglingChoice_mem {p : Passage} {c : Choice} (hp : p ∈ a.passages) (hc : c ∈ p.choices)
    (h : a.hasPassage c.goto = false) : ∃ i, .danglingChoice p.id i c.goto ∈ a.checkReferences := by
  obtain ⟨i, hi⟩ := List.mem_iff_getElem?.mp hc
  have hmem : Finding.danglingChoice p.id i c.goto ∈ a.danglingChoices p := by
    refine List.mem_filterMap.mpr ⟨(c, i), List.mk_mem_zipIdx_iff_getElem?.mpr hi, ?_⟩
    show (if a.hasPassage c.goto = true then _ else _) = _
    rw [if_neg (by simp [h])]
  refine ⟨i, List.mem_append_right _ (List.mem_flatMap.mpr ⟨p, hp, ?_⟩)⟩
  exact List.mem_append_left _ hmem

theorem undeclaredItem_mem {p : Passage} {e : Effect} (hp : p ∈ a.passages) (he : e ∈ p.effects)
    (h : e.item ∉ a.itemIds) : ∃ i, .undeclaredItem p.id i e.item ∈ a.checkReferences := by
  obtain ⟨i, hi⟩ := List.mem_iff_getElem?.mp he
  have hmem : Finding.undeclaredItem p.id i e.item ∈ a.undeclaredItems p := by
    refine List.mem_filterMap.mpr ⟨(e, i), List.mk_mem_zipIdx_iff_getElem?.mpr hi, ?_⟩
    show (if e.item ∈ a.itemIds then _ else _) = _
    rw [if_neg h]
  refine ⟨i, List.mem_append_right _ (List.mem_flatMap.mpr ⟨p, hp, ?_⟩)⟩
  exact List.mem_append_right _ hmem

theorem untypedEnding_mem {p : Passage} (hchoices : p.choices = []) (h : p.endingType = none) :
    .untypedEnding p.id ∈ checkEnding p := by
  have hterminal : p.isTerminal = true := by simp [Passage.isTerminal, hchoices]
  rw [checkEnding, if_pos hterminal, h, if_neg (by simp)]
  exact List.mem_cons_self

/-! ## No error found -/

/-- No finding on a playable adventure is an error. -/
theorem not_mem_validate (h : a.isPlayable = true) {finding : Finding}
    (herror : finding.severity = .error) : finding ∉ a.validate := by
  intro hmem
  have hnone : a.validate.errors = [] := List.isEmpty_iff.mp h
  have herrors : finding ∈ a.validate.errors := List.mem_filter.mpr ⟨hmem, by simpa using herror⟩
  rw [hnone] at herrors
  exact List.not_mem_nil herrors

theorem not_mem_checkReferences (h : a.isPlayable = true) {finding : Finding}
    (herror : finding.severity = .error) : finding ∉ a.checkReferences := by
  intro hmem
  refine not_mem_validate h herror ?_
  unfold validate
  simp only [List.mem_append]
  exact .inl (.inl (.inl (.inl (.inr hmem))))

theorem not_mem_checkEnding (h : a.isPlayable = true) {finding : Finding}
    (herror : finding.severity = .error) {p : Passage} (hp : p ∈ a.passages) :
    finding ∉ checkEnding p := by
  intro hmem
  refine not_mem_validate h herror ?_
  unfold validate
  simp only [List.mem_append]
  exact .inl (.inl (.inl (.inr (List.mem_flatMap.mpr ⟨p, hp, hmem⟩))))

/-- **An adventure without errors is sound.** Each field is the absence of one finding: no passage 1, a choice that
leads nowhere, an effect on an undeclared item, an ending without a type. -/
theorem sound_of_isPlayable (h : a.isPlayable = true) : a.Sound where
  entry := by
    cases hentry : a.hasPassage .entry with
    | true => exact exists_passage?_of_hasPassage hentry
    | false => exact absurd (missingEntry_mem hentry) (not_mem_checkReferences h rfl)
  target := by
    intro p hp c hc
    cases htarget : a.hasPassage c.goto with
    | true => exact exists_passage?_of_hasPassage htarget
    | false =>
      obtain ⟨i, hmem⟩ := danglingChoice_mem hp hc htarget
      exact absurd hmem (not_mem_checkReferences h rfl)
  declared := by
    intro p hp e he
    rcases Decidable.em (e.item ∈ a.itemIds) with hdeclared | hundeclared
    · exact hdeclared
    · obtain ⟨i, hmem⟩ := undeclaredItem_mem hp he hundeclared
      exact absurd hmem (not_mem_checkReferences h rfl)
  ending := by
    intro p hp hchoices
    cases htype : p.endingType with
    | none => exact absurd (untypedEnding_mem hchoices htype) (not_mem_checkEnding h rfl hp)
    | some endingType => exact ⟨endingType, rfl⟩

/-- A short adventure without errors. -/
def cellar : Adventure where
  title := "The Cellar"
  introduction := ["A door stands open."]
  items := [⟨"lamp", "Lamp"⟩]
  passages := [
    { id := 1, paragraphs := ["You stand at the top of the stairs."], choices := [⟨"Go down", 2⟩],
      effects := [], notes := none, endingType := none },
    { id := 2, paragraphs := ["It is dark."], choices := [], effects := [.add "lamp"], notes := none,
      endingType := some "darkness" }]

theorem cellar_isPlayable : cellar.isPlayable = true := by decide

end Gamebook.Adventure
