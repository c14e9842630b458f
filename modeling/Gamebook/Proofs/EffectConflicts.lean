import Gamebook.Proofs.Findings

/-!
# Which conflict is reported

The effects of a passage are scanned from the first to the last, and the scan stops at the first that touches an
item again. So one finding at most is made on a passage, however many effects are in each other's way, and the
finding must be the right one: on the first effect whose item was touched before, under the place of that effect,
and with the kind that the two effects make together (`conflict_exact`).

What the scan does is known as two cases (`Touched.Covers.firstConflict_cases`). It comes to the end, and then all
effects are on distinct items; or it splits the effects at the one it reports, behind effects on distinct items, one
of which has the same item. What remains to be said here is about lists. A position at which an item is touched
again, with none before it, is the place of such a split (`firstClash_of_split`): up to there the items are
distinct, so the earlier effect on the item is at one place only, and it is the only one that the later effect can
be compared with.

`FirstClash` is said of positions and without the scan, and the kinds of conflict by the words of the message. Two
effects on one item differ if one adds it and the other removes it, in either order: the message does not say which
came first.
-/

namespace Gamebook

/-! ## Two effects on one item -/

/-- The first place at which some effects touch an item again, with the place at which it was touched before:
the effects at the two places. -/
structure FirstClash (effects : List Effect) (i j : Nat) (earlier later : Effect) : Prop where
  /-- At `j` an item is touched again, and at no place before. -/
  least : IsLeast (repeats (effects.map (·.item))) j
  before : i < j
  earlier_at : effects[i]? = some earlier
  later_at : effects[j]? = some later
  /-- Of the places before `j`, the item is touched at `i` and nowhere else. -/
  only : ∀ m < j, (effects.map (·.item))[m]? = some later.item ↔ m = i

/-- Behind effects on items of their own, an effect on one of these items is the first on an item touched
before. That the items before are distinct gives both halves: no position before repeats an item, and the earlier
effect is the only one on its own. -/
theorem firstClash_of_split {before after : List Effect} {earlier later : Effect} {i : Nat}
    (hdistinct : (before.map (·.item)).Nodup) (hi : before[i]? = some earlier)
    (hitem : earlier.item = later.item) :
    FirstClash (before ++ later :: after) i before.length earlier later := by
  have hlt : i < before.length := (List.getElem?_eq_some_iff.mp hi).1
  have hitems : ∀ m < before.length,
      ((before ++ later :: after).map (·.item))[m]? = (before.map (·.item))[m]? := by
    intro m hm
    rw [List.map_append, List.getElem?_append_left (by rwa [List.length_map])]
  have hlater : ((before ++ later :: after).map (·.item))[before.length]? = some later.item := by simp
  have hearlier : (before.map (·.item))[i]? = some later.item := by simp [hi, hitem]
  -- Among the effects before, no two places have the same item.
  have hinj : ∀ m n x, m < before.length → (before.map (·.item))[m]? = some x →
      (before.map (·.item))[n]? = some x → m = n := by
    intro m n x hm hmx hnx
    have hlength : m < (before.map (·.item)).length := by rwa [List.length_map]
    exact (List.getElem?_inj hlength hdistinct).mp (hmx.trans hnx.symm)
  refine ⟨⟨⟨later.item, hlater, i, hlt, (hitems i hlt).trans hearlier⟩, ?_⟩, hlt, ?_, by simp, ?_⟩
  · rintro n ⟨x, hn, m, hmn, hm⟩
    by_contra hnot
    have hn' : n < before.length := by omega
    have hm' : m < before.length := by omega
    rw [hitems n hn'] at hn
    rw [hitems m hm'] at hm
    have heq : m = n := hinj m n x hm' hm hn
    omega
  · rwa [List.getElem?_append_left hlt]
  · intro m hm
    rw [hitems m hm]
    constructor
    · intro hmitem
      exact hinj m i later.item hm hmitem hearlier
    · rintro rfl
      exact hearlier

namespace Adventure

/-- The kind of a conflict is that of the two effects. -/
theorem phrase_conflictBetween {e f : Effect} (h : e.item = f.item) :
    ((conflictBetween e f).phrase = "is added twice" ↔ e = .add f.item ∧ f = .add f.item) ∧
    ((conflictBetween e f).phrase = "is removed twice" ↔ e = .remove f.item ∧ f = .remove f.item) ∧
    ((conflictBetween e f).phrase = "is added and removed in the same passage" ↔ e ≠ f) := by
  cases e <;> cases f <;> simp_all [conflictBetween, Conflict.phrase, Effect.item]

/-! ## The finding -/

/-- A passage has no conflict if, and only if, its effects are on distinct items. -/
theorem checkEffects_eq_nil_iff {p : Passage} :
    checkEffects p = [] ↔ (p.effects.map (·.item)).Nodup := by
  rw [← firstConflict_eq_none_iff, checkEffects]
  cases firstConflict 0 ⟨[], []⟩ p.effects <;> simp

/-- **The conflicts of a passage are found exactly.** No finding is made if, and only if, the effects touch
distinct items. Otherwise one is made: on the first effect whose item is touched before it. There is one
earlier effect on that item, and the finding says whether both add it, both remove it, or they differ. That there is
such an effect to be found, and exactly one before it, is part of the statement and no condition of it. -/
theorem conflict_exact (p : Passage) :
    (checkEffects p = [] ↔ (p.effects.map (·.item)).Nodup) ∧
    (¬ (p.effects.map (·.item)).Nodup → ∃ i j earlier later kind,
      FirstClash p.effects i j earlier later ∧
      checkEffects p = [.effectConflict p.id j later.item kind] ∧
      (kind.phrase = "is added twice" ↔ earlier = .add later.item ∧ later = .add later.item) ∧
      (kind.phrase = "is removed twice" ↔ earlier = .remove later.item ∧ later = .remove later.item) ∧
      (kind.phrase = "is added and removed in the same passage" ↔ earlier ≠ later)) := by
  refine ⟨checkEffects_eq_nil_iff, ?_⟩
  intro hrepeated
  rcases Touched.Covers.nil.firstConflict_cases 0 p.effects with
    ⟨-, hdistinct⟩ | ⟨before, earlier, later, after, heffects, hdistinct, hmem, hitem, hfound⟩
  · exact absurd hdistinct hrepeated
  · obtain ⟨i, hi⟩ := List.mem_iff_getElem?.mp hmem
    refine ⟨i, before.length, earlier, later, _, ?_, ?_, phrase_conflictBetween hitem⟩
    · rw [heffects]
      exact firstClash_of_split hdistinct hi hitem
    · rw [checkEffects, hfound, Nat.zero_add]

/-- A passage that gives the lamp and takes it back, and gives the key twice. -/
def storeroom : Passage where
  id := 4
  paragraphs := ["Shelves to the ceiling."]
  choices := []
  effects := [.add "lamp", .add "key", .remove "lamp", .add "key"]
  notes := none
  endingType := some "lost"

/-- The lamp comes first, though the key is given twice as well. -/
theorem conflict_exact_storeroom :
    ∃ i earlier later, FirstClash storeroom.effects i 2 earlier later ∧ later.item = "lamp" ∧
      earlier ≠ later := by
  have hreport : checkEffects storeroom = [.effectConflict 4 2 "lamp" .addedAndRemoved] := by decide
  obtain ⟨i, j, earlier, later, kind, hclash, hfound, -, -, hdiffer⟩ :=
    (conflict_exact storeroom).2 (by decide)
  rw [hreport] at hfound
  simp only [List.cons.injEq, Finding.effectConflict.injEq, and_true] at hfound
  obtain ⟨-, rfl, hitem, rfl⟩ := hfound
  exact ⟨i, earlier, later, hclash, hitem.symm, hdiffer.mp rfl⟩

end Adventure

end Gamebook
