import Gamebook.Proofs.EffectScan
import Gamebook.Proofs.Positions

/-!
# One finding for each defect

A defect is said of the document by positions, and without the checks: an id that stands at an earlier
position too, a choice that leads to no passage, a text of white space only. The checks make one finding
for each defect and no other (`one_finding_per_defect`), whatever else is wrong with the adventure. So an
adventure can be played if, and only if, it is `Flawless`.

Counting says more than that every defect is found. A document that is wrong in one place gets one message about it,
and a check that reported a repeated id once for each pair of its uses, or the choices of a passage twice because its
id is used twice, would be found out. Positions are counted for that reason, as sets, with no reference to the order
in which the checks go or to how they remember what they have seen.

The families are counted one by one. A check of members makes as many findings as there are members that fail a test
(`length_filterMap_zipIdx`, `length_flatMap_eq_countP`), and a test that computes is then set against the property
that it decides. Two checks are not of this form. Repeated ids are counted along the scan that remembers ids, and
conflicts of effects are one at most for each passage, since their scan stops at the first; so a passage is counted
there, and not an effect.

The checks on reachability make warnings, which are no defects: they do not keep an adventure from being played.
-/

namespace Gamebook

/-! ## Defects

What can be wrong with an adventure, said of the adventure and not of the checks. Most defects are had by something at
a position: a passage, one of its choices, one of its effects. The others are of the adventure as a whole. -/

/-- A text without any character that is not white space. -/
def Text.Blank (s : String) : Prop := ∀ c ∈ s.toList, Text.isBlank c = true

instance : DecidablePred Text.Blank := fun s =>
  inferInstanceAs (Decidable (∀ c ∈ s.toList, Text.isBlank c = true))

theorem Text.blank_iff (s : String) : Text.Blank s ↔ Text.isBlankText s = true := by
  simp [Blank, isBlankText]

/-- A block of blank texts only. -/
def BlankBlock (paragraphs : List String) : Prop := ∀ s ∈ paragraphs, Text.Blank s

instance : DecidablePred BlankBlock := fun paragraphs =>
  inferInstanceAs (Decidable (∀ s ∈ paragraphs, Text.Blank s))

theorem blankBlock_iff (paragraphs : List String) :
    BlankBlock paragraphs ↔ paragraphs.all Text.isBlankText = true := by
  simp [BlankBlock, Text.blank_iff]

/-- A passage that offers no choice and does not name its ending, or offers choices and names one. -/
def Passage.EndsWrongly (p : Passage) : Prop :=
  (p.choices = [] ∧ ∀ endingType, p.endingType = some endingType → Text.Blank endingType) ∨
    (p.choices ≠ [] ∧ ∃ endingType, p.endingType = some endingType)

/-- A passage whose effects touch some item twice. -/
def Passage.Conflicted (p : Passage) : Prop := (repeats (p.effects.map (·.item))).Nonempty

namespace Adventure

/-- A choice that leads to no passage. -/
def Dangling (a : Adventure) (c : Choice) : Prop := ∀ p ∈ a.passages, p.id ≠ c.goto

/-- An effect on an item that is not declared. -/
def Undeclared (a : Adventure) (e : Effect) : Prop := ∀ i ∈ a.items, i.id ≠ e.item

theorem dangling_iff (a : Adventure) (c : Choice) : a.Dangling c ↔ (!a.hasPassage c.goto) = true := by
  simp [Dangling, hasPassage]

theorem undeclared_iff (a : Adventure) (e : Effect) :
    a.Undeclared e ↔ (!decide (e.item ∈ a.itemIds)) = true := by
  simp [Undeclared, itemIds]

/-- The number of structural defects: ids that are used again, no passage 1, choices that lead nowhere,
effects on items that are not declared, and wrong endings. -/
noncomputable def structuralDefects (a : Adventure) : ℕ∞ :=
  (repeats a.passageIds).encard + (repeats a.itemIds).encard +
    (if ∃ p ∈ a.passages, p.id = .entry then 0 else 1) +
    (places a.passages (·.choices) a.Dangling).encard +
    (places a.passages (·.effects) a.Undeclared).encard +
    (positions a.passages Passage.EndsWrongly).encard

/-- The number of passages whose effects touch some item twice. -/
noncomputable def effectDefects (a : Adventure) : ℕ∞ :=
  (positions a.passages Passage.Conflicted).encard

/-- The number of texts that are missing. -/
noncomputable def contentDefects (a : Adventure) : ℕ∞ :=
  (if Text.Blank a.title then 1 else 0) + (if BlankBlock a.introduction then 1 else 0) +
    (positions a.passages fun p => BlankBlock p.paragraphs).encard +
    (places a.passages (·.choices) fun c => Text.Blank c.text).encard

/-- An adventure without a defect. -/
structure Flawless (a : Adventure) : Prop where
  passageIds : repeats a.passageIds = ∅
  itemIds : repeats a.itemIds = ∅
  entry : ∃ p ∈ a.passages, p.id = .entry
  targets : places a.passages (·.choices) a.Dangling = ∅
  items : places a.passages (·.effects) a.Undeclared = ∅
  endings : positions a.passages Passage.EndsWrongly = ∅
  effects : positions a.passages Passage.Conflicted = ∅
  title : ¬ Text.Blank a.title
  introduction : ¬ BlankBlock a.introduction
  paragraphs : (positions a.passages fun p => BlankBlock p.paragraphs) = ∅
  labels : (places a.passages (·.choices) fun c => Text.Blank c.text) = ∅

theorem flawless_iff (a : Adventure) :
    a.Flawless ↔ a.structuralDefects = 0 ∧ a.effectDefects = 0 ∧ a.contentDefects = 0 := by
  simp only [structuralDefects, effectDefects, contentDefects, add_eq_zero, Set.encard_eq_zero,
    ite_eq_left_iff, ite_eq_right_iff, one_ne_zero, imp_false, not_not]
  constructor
  · intro h
    exact ⟨⟨⟨⟨⟨⟨h.passageIds, h.itemIds⟩, h.entry⟩, h.targets⟩, h.items⟩, h.endings⟩, h.effects,
      ⟨⟨h.title, h.introduction⟩, h.paragraphs⟩, h.labels⟩
  · rintro ⟨⟨⟨⟨⟨⟨hp, hi⟩, he⟩, ht⟩, hu⟩, hw⟩, hc, ⟨⟨htitle, hintro⟩, hpar⟩, hl⟩
    exact ⟨hp, hi, he, ht, hu, hw, hc, htitle, hintro, hpar, hl⟩

end Adventure

/-! ## How many findings each check makes -/

/-- A check of numbered members that makes a finding on each that fails a test. -/
theorem length_filterMap_zipIdx {α β : Type} {f : α × Nat → Option β} {test : α → Bool}
    (h : ∀ x i, (f (x, i)).isSome = test x) (xs : List α) :
    (xs.zipIdx.filterMap f).length = xs.countP test := by
  calc (xs.zipIdx.filterMap f).length
      = xs.zipIdx.countP (fun y => (f y).isSome) := List.length_filterMap_eq_countP
    _ = xs.zipIdx.countP (test ∘ Prod.fst) := List.countP_congr fun y _ => by rw [h]; rfl
    _ = (xs.zipIdx.map Prod.fst).countP test := List.countP_map.symm
    _ = xs.countP test := by rw [List.zipIdx_map_fst]

/-- A check that makes a finding where something is the case. -/
theorem length_findingIf {P : Prop} [Decidable P] {test : Bool} (h : P ↔ test = true)
    (finding : Finding) :
    ((if test then [finding] else []).length : ℕ∞) = if P then 1 else 0 := by
  by_cases hP : P
  · rw [if_pos hP, if_pos (h.mp hP)]
    rfl
  · rw [if_neg hP, if_neg (mt h.mpr hP)]
    rfl

/-- A check that makes at most one finding on each member of a list makes as many as there are members on
which it makes one. -/
theorem length_flatMap_eq_countP {α β : Type} {f : α → List β} {test : α → Bool}
    (h : ∀ x, (f x).length = if test x then 1 else 0) (xs : List α) :
    (xs.flatMap f).length = xs.countP test := by
  induction xs with
  | nil => rfl
  | cons x xs ih => rw [List.flatMap_cons, List.length_append, ih, h, List.countP_cons, add_comm]

namespace Adventure

variable (a : Adventure)

/-! ### Ids and references -/

theorem length_checkUniqueness :
    (a.checkUniqueness.length : ℕ∞) = (repeats a.passageIds).encard + (repeats a.itemIds).encard := by
  rw [checkUniqueness, List.length_append, List.length_map, List.length_map, Nat.cast_add,
    ← encard_repeatsAfter, ← encard_repeatsAfter, repeatsAfter_nil, repeatsAfter_nil]

theorem length_danglingChoices (p : Passage) :
    (a.danglingChoices p).length = p.choices.countP fun c => !a.hasPassage c.goto :=
  length_filterMap_zipIdx (fun c i => by cases h : a.hasPassage c.goto <;> simp [h]) p.choices

theorem length_undeclaredItems (p : Passage) :
    (a.undeclaredItems p).length = p.effects.countP fun e => !decide (e.item ∈ a.itemIds) :=
  length_filterMap_zipIdx (fun e i => by by_cases h : e.item ∈ a.itemIds <;> simp [h]) p.effects

theorem length_checkReferences :
    (a.checkReferences.length : ℕ∞) = (if ∃ p ∈ a.passages, p.id = .entry then 0 else 1) +
      ((places a.passages (·.choices) a.Dangling).encard +
        (places a.passages (·.effects) a.Undeclared).encard) := by
  have hentry : ((if a.hasPassage .entry then [] else [Finding.missingEntry]).length : ℕ∞) =
      if ∃ p ∈ a.passages, p.id = .entry then 0 else 1 := by
    by_cases h : ∃ p ∈ a.passages, p.id = .entry <;> simp [hasPassage, h]
  have hpassages : (a.passages.flatMap fun p => a.danglingChoices p ++ a.undeclaredItems p).length =
      (a.passages.map fun p => p.choices.countP fun c => !a.hasPassage c.goto).sum +
        (a.passages.map fun p => p.effects.countP fun e => !decide (e.item ∈ a.itemIds)).sum := by
    rw [List.length_flatMap, ← List.sum_map_add]
    simp only [List.length_append, length_danglingChoices, length_undeclaredItems]
  rw [checkReferences, List.length_append, Nat.cast_add, hentry, hpassages, Nat.cast_add,
    encard_places a.dangling_iff, encard_places a.undeclared_iff]

/-! ### Endings -/

theorem length_checkEnding (p : Passage) :
    (checkEnding p).length = if !(checkEnding p).isEmpty then 1 else 0 := by
  unfold checkEnding
  split
  · split <;> rfl
  · split <;> rfl

theorem endsWrongly_iff (p : Passage) : p.EndsWrongly ↔ (!(checkEnding p).isEmpty) = true := by
  unfold Passage.EndsWrongly checkEnding Passage.isTerminal
  cases hchoices : p.choices with
  | nil =>
    cases htype : p.endingType with
    | none => simp
    | some endingType => cases hblank : Text.isBlankText endingType <;> simp [Text.blank_iff, hblank]
  | cons c cs => cases htype : p.endingType <;> simp

theorem length_flatMap_checkEnding :
    ((a.passages.flatMap checkEnding).length : ℕ∞) =
      (positions a.passages Passage.EndsWrongly).encard := by
  rw [length_flatMap_eq_countP length_checkEnding, encard_positions endsWrongly_iff]

/-! ### Effects -/

/-- On a passage one conflict at most is reported, however many there are. -/
theorem length_checkEffects (p : Passage) :
    (checkEffects p).length = if (firstConflict 0 ⟨[], []⟩ p.effects).isSome then 1 else 0 := by
  unfold checkEffects
  cases firstConflict 0 ⟨[], []⟩ p.effects <;> rfl

/-- A conflict is found if, and only if, an item is touched twice. -/
theorem conflicted_iff (p : Passage) :
    p.Conflicted ↔ (firstConflict 0 ⟨[], []⟩ p.effects).isSome = true := by
  rw [Passage.Conflicted, Set.nonempty_iff_ne_empty, Option.isSome_iff_ne_none, ne_eq, ne_eq,
    repeats_eq_empty_iff, firstConflict_eq_none_iff]

theorem length_flatMap_checkEffects :
    ((a.passages.flatMap checkEffects).length : ℕ∞) =
      (positions a.passages Passage.Conflicted).encard := by
  rw [length_flatMap_eq_countP length_checkEffects, encard_positions conflicted_iff]

/-! ### Texts -/

theorem length_checkPassageText (p : Passage) :
    (checkPassageText p).length = (if p.paragraphs.all Text.isBlankText then 1 else 0) +
      p.choices.countP fun c => Text.isBlankText c.text := by
  rw [checkPassageText, List.length_append]
  refine congrArg₂ (· + ·) ?_ (length_filterMap_zipIdx (fun c i => ?_) p.choices)
  · by_cases h : p.paragraphs.all Text.isBlankText = true
    · rw [if_pos h, if_pos h, List.length_singleton]
    · rw [if_neg h, if_neg h, List.length_nil]
  · cases h : Text.isBlankText c.text <;> simp [h]

theorem length_flatMap_checkPassageText :
    ((a.passages.flatMap checkPassageText).length : ℕ∞) =
      (positions a.passages fun p => BlankBlock p.paragraphs).encard +
        (places a.passages (·.choices) fun c => Text.Blank c.text).encard := by
  have hsum : (a.passages.flatMap checkPassageText).length =
      a.passages.countP (fun p => p.paragraphs.all Text.isBlankText) +
        (a.passages.map fun p => p.choices.countP fun c => Text.isBlankText c.text).sum := by
    induction a.passages with
    | nil => rfl
    | cons p ps ih =>
      rw [List.flatMap_cons, List.length_append, ih, length_checkPassageText, List.countP_cons,
        List.map_cons, List.sum_cons]
      omega
  have hblock : ∀ p : Passage, BlankBlock p.paragraphs ↔ p.paragraphs.all Text.isBlankText = true :=
    fun p => blankBlock_iff p.paragraphs
  have hlabel : ∀ c : Choice, Text.Blank c.text ↔ Text.isBlankText c.text = true :=
    fun c => Text.blank_iff c.text
  rw [hsum, Nat.cast_add, encard_positions hblock, encard_places hlabel]

theorem length_checkText :
    (a.checkText.length : ℕ∞) = (if Text.Blank a.title then 1 else 0) +
      (if BlankBlock a.introduction then 1 else 0) +
      ((positions a.passages fun p => BlankBlock p.paragraphs).encard +
        (places a.passages (·.choices) fun c => Text.Blank c.text).encard) := by
  rw [checkText, List.length_append, List.length_append, Nat.cast_add, Nat.cast_add,
    length_findingIf (Text.blank_iff a.title), length_findingIf (blankBlock_iff a.introduction),
    length_flatMap_checkPassageText]

/-! ## The whole report

Each check makes findings of one category only, and so the findings of a category are those of its checks. The three
counts of defects that are errors are thereby counts of findings, and a report has nothing else but warnings. -/

variable {a} {finding : Finding}

theorem category_of_mem_checkUniqueness (h : finding ∈ a.checkUniqueness) :
    finding.category = .structural := by
  rcases List.mem_append.mp h with h | h
  · obtain ⟨id, -, rfl⟩ := List.mem_map.mp h
    rfl
  · obtain ⟨id, -, rfl⟩ := List.mem_map.mp h
    rfl

theorem category_of_mem_checkReferences (h : finding ∈ a.checkReferences) :
    finding.category = .structural := by
  unfold checkReferences danglingChoices undeclaredItems at h
  grind [Finding.category]

theorem category_of_mem_checkEnding {p : Passage} (h : finding ∈ checkEnding p) :
    finding.category = .structural := by
  unfold checkEnding at h
  grind [Finding.category]

theorem category_of_mem_checkEffects {p : Passage} (h : finding ∈ checkEffects p) :
    finding.category = .effectConflict := by
  unfold checkEffects at h
  grind [Finding.category]

theorem category_of_mem_checkText (h : finding ∈ a.checkText) : finding.category = .content := by
  unfold checkText checkPassageText at h
  grind [Finding.category]

theorem category_of_mem_checkReachability (h : finding ∈ a.checkReachability) :
    finding.category = .unreachable := by
  obtain ⟨id, -, rfl⟩ := List.mem_map.mp h
  rfl

/-- A check that makes findings of one family only contributes to that family. -/
theorem inCategory_of_forall {report : Report} {category : Category}
    (h : ∀ finding ∈ report, finding.category = category) (other : Category) :
    report.inCategory other = if category = other then report else [] := by
  split
  · rename_i heq
    exact List.filter_eq_self.mpr fun finding hmem => by simp [h finding hmem, heq]
  · rename_i hne
    exact List.filter_eq_nil_iff.mpr fun finding hmem => by simp [h finding hmem, hne]

/-- The findings of a family are those of the checks that make findings of this family, in the order in which the
checks are made. -/
theorem inCategory_validate (a : Adventure) (category : Category) :
    a.validate.inCategory category =
      (if .structural = category then
        a.checkUniqueness ++ a.checkReferences ++ a.passages.flatMap checkEnding else []) ++
      (if .effectConflict = category then a.passages.flatMap checkEffects else []) ++
      (if .content = category then a.checkText else []) ++
      (if .unreachable = category then a.checkReachability else []) := by
  have hstructural : ∀ finding ∈ a.checkUniqueness ++ a.checkReferences ++
      a.passages.flatMap checkEnding, finding.category = .structural := by
    intro finding h
    rcases List.mem_append.mp h with h | h
    · rcases List.mem_append.mp h with h | h
      · exact category_of_mem_checkUniqueness h
      · exact category_of_mem_checkReferences h
    · obtain ⟨p, -, h⟩ := List.mem_flatMap.mp h
      exact category_of_mem_checkEnding h
  have heffects : ∀ finding ∈ a.passages.flatMap checkEffects,
      finding.category = .effectConflict := by
    intro finding h
    obtain ⟨p, -, h⟩ := List.mem_flatMap.mp h
    exact category_of_mem_checkEffects h
  rw [← inCategory_of_forall hstructural, ← inCategory_of_forall heffects,
    ← inCategory_of_forall fun _ => category_of_mem_checkText,
    ← inCategory_of_forall fun _ => category_of_mem_checkReachability]
  simp only [validate, Report.inCategory, List.filter_append]

theorem length_inCategory_structural (a : Adventure) :
    ((a.validate.inCategory .structural).length : ℕ∞) = a.structuralDefects := by
  have hreport : a.validate.inCategory .structural =
      a.checkUniqueness ++ a.checkReferences ++ a.passages.flatMap checkEnding := by
    simp [inCategory_validate]
  rw [hreport, List.length_append, List.length_append, Nat.cast_add, Nat.cast_add,
    length_checkUniqueness, length_checkReferences, length_flatMap_checkEnding, structuralDefects]
  simp only [add_assoc]

theorem length_inCategory_effectConflict (a : Adventure) :
    ((a.validate.inCategory .effectConflict).length : ℕ∞) = a.effectDefects := by
  have hreport : a.validate.inCategory .effectConflict = a.passages.flatMap checkEffects := by
    simp [inCategory_validate]
  rw [hreport, length_flatMap_checkEffects, effectDefects]

theorem length_inCategory_content (a : Adventure) :
    ((a.validate.inCategory .content).length : ℕ∞) = a.contentDefects := by
  have hreport : a.validate.inCategory .content = a.checkText := by simp [inCategory_validate]
  rw [hreport, length_checkText, contentDefects]
  simp only [add_assoc]

theorem severity_eq_error_iff (finding : Finding) :
    finding.severity = .error ↔ finding.category = .structural ∨
      finding.category = .effectConflict ∨ finding.category = .content := by
  cases finding <;> simp [Finding.severity, Finding.category]

theorem severity_eq_warning_iff (finding : Finding) :
    finding.severity = .warning ↔ finding.category = .unreachable := by
  cases finding <;> simp [Finding.severity, Finding.category]

theorem warnings_eq_inCategory (report : Report) : report.warnings = report.inCategory .unreachable :=
  List.filter_congr fun finding _ => by simp only [severity_eq_warning_iff]

theorem warnings_validate (a : Adventure) : a.validate.warnings = a.checkReachability := by
  simp [warnings_eq_inCategory, inCategory_validate]

/-- A report without errors has no finding in the three families of errors. -/
theorem isPlayable_iff_inCategory (report : Report) :
    report.isPlayable = true ↔ report.inCategory .structural = [] ∧
      report.inCategory .effectConflict = [] ∧ report.inCategory .content = [] := by
  simp only [Report.isPlayable, Report.errors, Report.inCategory, List.isEmpty_iff,
    List.filter_eq_nil_iff, decide_eq_true_eq, severity_eq_error_iff]
  constructor
  · intro h
    exact ⟨fun f hf hc => h f hf (.inl hc), fun f hf hc => h f hf (.inr (.inl hc)),
      fun f hf hc => h f hf (.inr (.inr hc))⟩
  · rintro ⟨hs, he, hc⟩ f hf (h | h | h)
    · exact hs f hf h
    · exact he f hf h
    · exact hc f hf h

/-- An adventure can be played if, and only if, it has no defect: no errors are no findings in the three families,
and as many findings as defects. -/
theorem isPlayable_iff_flawless (a : Adventure) : a.isPlayable = true ↔ a.Flawless := by
  rw [isPlayable, isPlayable_iff_inCategory, flawless_iff, ← length_inCategory_structural,
    ← length_inCategory_effectConflict, ← length_inCategory_content]
  simp only [Nat.cast_eq_zero, List.length_eq_zero_iff]

/-- **One finding for each defect**, in every adventure: each family has as many findings as there are
defects of its kind; the three families are exactly the errors, so the adventure can be played if, and only
if, it has none of the defects; and the warnings are exactly the findings on reachability. The sizes are equal as
extended numbers, so it is also said that there are finitely many defects, in particular of those that are pairs of a
passage and a place in it. -/
theorem one_finding_per_defect (a : Adventure) :
    ((a.validate.inCategory .structural).length : ℕ∞) = a.structuralDefects ∧
    ((a.validate.inCategory .effectConflict).length : ℕ∞) = a.effectDefects ∧
    ((a.validate.inCategory .content).length : ℕ∞) = a.contentDefects ∧
    a.validate.errors = a.validate.filter (fun finding => finding.category = .structural ∨
      finding.category = .effectConflict ∨ finding.category = .content) ∧
    (a.isPlayable = true ↔ a.Flawless) ∧
    a.validate.warnings = a.validate.inCategory .unreachable := by
  refine ⟨a.length_inCategory_structural, a.length_inCategory_effectConflict,
    a.length_inCategory_content, ?_, a.isPlayable_iff_flawless, warnings_eq_inCategory _⟩
  exact List.filter_congr fun finding _ => by simp only [severity_eq_error_iff]

end Adventure

end Gamebook
