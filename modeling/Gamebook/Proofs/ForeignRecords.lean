import Gamebook.Proofs.HandOver

/-!
# Records of other adventures in a player

A page may hand any record to `resume`, also one that was kept under another id. A store in files refuses such a
record (`StoreError.foreign`); a player does not look at the id. It takes the position over as its own, and the
record that it answers from then on bears its own id in place of the other one.

So the record that a player was resumed from is answered again if and only if it was the player's own. Passage
and inventory are answered again in any case. The items need not be items of the adventure either, and nothing else of
the record is checked: that its passage is one of the adventure decides alone whether it is taken up
(`resume_takes_over`).

The statement is about texts and not about records. A page keeps texts; it may hand over one that states the items in
another order, repeats some, or has fields of its own, and all of these hold a record. What the player answers is
compared as a record for the same reason.
-/

namespace Gamebook

namespace Snapshot

variable {a : Adventure} {record : Progress} {s : Snapshot}

/-- Where a record has led, the saved position is the record, under the id at hand. -/
theorem progress?_of_resume (h : resume a record = .ok s) (id : String) :
    s.progress? id = some { record with adventureId := id } := by
  obtain ⟨p, hp, rfl⟩ := resume_eq_ok_iff.mp h
  -- The passage that is found under an id bears it.
  rw [Snapshot.progress?, PlayState.passageId?_arrived, Adventure.id_of_passage? hp]
  rfl

end Snapshot

namespace Player

variable {p q : Player} {text : String} {record : Progress}

/-- What a resumed player answers for its saved position: the record, under the id of the player. -/
theorem parse_progress_of_resume (hresume : p.resume text = .ok q)
    (hparse : Progress.parse text = .ok record) :
    Progress.parseOrNull q.progress = .ok (some { record with adventureId := p.adventureId }) := by
  obtain ⟨record', s, hparse', hs, rfl⟩ := resume_eq_ok_iff.mp hresume
  obtain rfl : record = record' := Except.ok.inj (hparse.symm.trans hparse')
  rw [parse_progress]
  exact congrArg Except.ok (Snapshot.progress?_of_resume hs p.adventureId)

/-- **A resumed player answers the position it was resumed from, as its own.** A player is resumed by every text
that holds a record of a passage of its adventure, under whatever id. Its saved position is then the record with
the player's id: the passage and the inventory are the same, and the whole record is if and only if it was the
player's own. By any other text the player fails to be resumed, and is left as it was. The adventure is any, playable or
not, and the player is at any point of it. -/
theorem resume_takes_over (p : Player) (text : String) :
    ((∃ q, p.resume text = .ok q) ↔
      ∃ record, Progress.parse text = .ok record ∧ record.passage ∈ p.adventure.passageIds) ∧
    (∀ q record, p.resume text = .ok q → Progress.parse text = .ok record →
      Progress.parseOrNull q.progress = .ok (some { record with adventureId := p.adventureId }) ∧
      (Progress.parseOrNull q.progress = .ok (some record) ↔ record.adventureId = p.adventureId)) ∧
    ∀ e, p.resume text = .error e → (p.ask (.resume text)).2 = p := by
  refine ⟨exists_resume_iff, fun q record hresume hparse => ?_, fun e he => ?_⟩
  · have hprogress : Progress.parseOrNull q.progress =
        .ok (some { record with adventureId := p.adventureId }) := parse_progress_of_resume hresume hparse
    refine ⟨hprogress, ?_⟩
    rw [hprogress]
    constructor
    · intro hsame
      have hrecord : { record with adventureId := p.adventureId } = record :=
        Option.some.inj (Except.ok.inj hsame)
      rw [← hrecord]
    · intro howner
      rw [← howner]
  · have hanswer : (p.ask (.resume text)).1 = .error e := by
      rw [ask, he]
      rfl
    exact ask_of_error hanswer

/-- A reader of the cellar is resumed from a record of the cellar, whose items are told in another order. -/
theorem resume_takes_over_cellar :
    ∃ q, (⟨.cellar, "cellar", .initial, false⟩ : Player).resume "[\"cellar\", 2, [\"rope\", \"lamp\"]]" =
        .ok q ∧
      Progress.parseOrNull q.progress = .ok (some ⟨"cellar", 2, .ofList ["lamp", "rope"]⟩) := by
  have hparse : Progress.parse "[\"cellar\", 2, [\"rope\", \"lamp\"]]" =
      .ok ⟨"cellar", 2, .ofList ["lamp", "rope"]⟩ := by decide +kernel
  obtain ⟨hresumed, hprogress, -⟩ := resume_takes_over ⟨.cellar, "cellar", .initial, false⟩
    "[\"cellar\", 2, [\"rope\", \"lamp\"]]"
  obtain ⟨q, hq⟩ := hresumed.mpr ⟨_, hparse, by decide⟩
  exact ⟨q, hq, (hprogress q _ hq hparse).1⟩

/-- A record of the attic is taken for one of the cellar, and comes back as one of the cellar. -/
theorem adopts_foreign_record :
    ¬ ∀ (p q : Player) (text : String) (record : Progress), p.resume text = .ok q →
      Progress.parse text = .ok record → Progress.parseOrNull q.progress = .ok (some record) := by
  intro h
  have hparse : Progress.parse (Progress.render ⟨"attic", 1, .empty⟩) = .ok ⟨"attic", 1, .empty⟩ :=
    Progress.parse_render _
  obtain ⟨q, hq⟩ := exists_resume_iff (p := ⟨.cellar, "cellar", .initial, false⟩).mpr
    ⟨_, hparse, by decide⟩
  have hadopted := h _ q _ _ hq hparse
  rw [parse_progress_of_resume hq hparse] at hadopted
  revert hadopted
  decide

end Player

end Gamebook
