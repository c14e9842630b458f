import Gamebook.Player
import Gamebook.Proofs.Json.RoundTrip
import Gamebook.Proofs.Play
import Gamebook.Proofs.Store

/-!
# What the page of a player can read

A player shows and saves in JSON. A page that reads what it is given finds in it what the player has: the `Screen`,
with null where there is no passage or no ending (`Player.parse_view`), and the saved position, or null before play
has started (`Player.Tells.parseOrNull`). So nothing is lost on the way to the page, whatever characters the texts of
an adventure have; and what is said of players can be said of screens and records instead of texts.

The view is read in the shape of a screen, by the same reader that reads adventures and records. It writes every field,
null among them, where documents leave out what holds nothing; so it is not the text that the printer of shapes would
make, and that it is read is shown field by field (`Player.view_enters`).

A saved position is another matter. The items of an inventory are a set, and the program writes them in the order in
which the set is gone through, which is not always the same for one set. `Player.Tells` gives all the texts that may be
told; the player here answers one of them. What is said of saved positions is said of all, and two of them are the same
if they are read as the same record.
-/

namespace Gamebook

open Json (Tree)

/-- What a reader of an adventure sees. -/
structure Screen where
  state : String
  passageId : Option PassageId
  paragraphs : List String
  choices : List String
  endingType : Option String
  inventory : List String
  inventorySummary : String
deriving DecidableEq, Repr

/-- The fields of a screen. -/
@[reducible] def screenFields : Fields :=
  .field "state" .required .text
    (.field "passage_id" .optional .number
      (.field "paragraphs" .required (.list .text)
        (.field "choices" .required (.list .text)
          (.field "ending_type" .optional .text
            (.field "inventory" .required (.list .text)
              (.field "inventory_summary" .required .text .nil))))))

theorem screenFields_wellNamed : screenFields.WellNamed fun _ => true := by
  simp [Shape.WellNamed, Fields.WellNamed, Fields.names]

namespace Screen

/-- The contents of the fields of a screen. -/
def toDocument (s : Screen) : screenFields.Value :=
  (s.state, s.passageId, s.paragraphs, s.choices, s.endingType, s.inventory, s.inventorySummary, ())

/-- The screen of the contents of its fields. -/
def ofDocument : screenFields.Value → Screen
  | (state, passageId, paragraphs, choices, endingType, inventory, inventorySummary, ()) =>
    ⟨state, passageId, paragraphs, choices, endingType, inventory, inventorySummary⟩

/-- The screen that a text holds. -/
def parse (text : String) : Except Json.Refusal Screen :=
  (Json.readText true (.record "Screen" screenFields) text).map ofDocument

end Screen

namespace Progress

/-- The saved position that a text holds, which may be null. -/
def parseOrNull (text : String) : Except Json.Refusal (Option Progress) :=
  (Json.runText (Json.optionOf (Json.read true progressShape)) text).map (Option.map ofDocument)

/-- The texts on one line that write a record. Its items may come in any order. -/
def ToldAs (p : Progress) (text : String) : Prop :=
  ∃ items : List ItemId, items.Perm p.inventory.ids ∧
    text = (Json.tree progressShape (p.adventureId, p.passage, items, ())).compactText

theorem toldAs_compactText (p : Progress) : p.ToldAs p.toTree.compactText := ⟨p.inventory.ids, .refl _, rfl⟩

section ToldAs

variable {p : Progress} {text : String}

/-- A record is read back from any of its texts on one line. -/
theorem ToldAs.parse (h : p.ToldAs text) : Progress.parse text = .ok p := by
  obtain ⟨items, hitems, rfl⟩ := h
  have hread : Json.readText true progressShape
      (Json.tree progressShape (p.adventureId, p.passage, items, ())).compactText =
        .ok (p.adventureId, p.passage, items, ()) :=
    Json.readText_spelled progressShape_wellNamed true _ (Json.spells_compactText _)
  rw [Progress.parse, hread]
  exact congrArg Except.ok (p.ofDocument_of_perm hitems)

/-- So it is where null may stand in its place. -/
theorem ToldAs.parseOrNull (h : p.ToldAs text) : Progress.parseOrNull text = .ok (some p) := by
  obtain ⟨items, hitems, rfl⟩ := h
  have hread : Json.runText (Json.optionOf (Json.read true progressShape))
      (Json.tree progressShape (p.adventureId, p.passage, items, ())).compactText =
        .ok (some (p.adventureId, p.passage, items, ())) :=
    Json.runText_optionOf progressShape_wellNamed true _ (Json.spells_compactText _)
  rw [Progress.parseOrNull, hread]
  exact congrArg (fun record => Except.ok (some record)) (p.ofDocument_of_perm hitems)

end ToldAs

theorem parseOrNull_null : parseOrNull "null" = .ok none := by
  have hread : Json.runText (Json.optionOf (Json.read true progressShape)) "null" = .ok none :=
    Json.runText_optionOf progressShape_wellNamed true none .null
  rw [parseOrNull, hread]
  rfl

end Progress

namespace Player

/-- The labels are those of the choices on offer. -/
theorem labels_eq (p : Player) :
    p.labels = (p.snapshot.choices p.adventure).map fun choice => choice.label p.showTargets := by
  unfold labels Snapshot.choices
  cases p.snapshot.state <;> cases p.snapshot.passage? p.adventure <;> rfl

/-- What the reader sees. -/
def screen (p : Player) : Screen where
  state := stateWord p.snapshot.state
  passageId := p.snapshot.state.passageId?
  paragraphs := p.paragraphs
  choices := p.labels
  endingType := p.endingType?
  inventory := p.snapshot.inventory.itemNames p.adventure
  inventorySummary := p.snapshot.inventory.summary p.adventure

theorem fieldTree_orNull {α : Type} (treeOf : α → Tree) (value : Option α) :
    Json.FieldTree treeOf .optional value (orNull treeOf value) := by
  cases value with
  | none => exact .null
  | some v => exact .content rfl

theorem fieldTree_texts (values : List String) :
    Json.FieldTree (Json.tree (.list .text)) .required values (texts values) := by
  refine .content (congrArg some ?_)
  rw [Json.tree, texts]
  exact congrArg Tree.list (List.map_congr_left fun value _ => by rw [Json.tree])

theorem fieldTree_text (value : String) : Json.FieldTree (Json.tree .text) .required value (.text value) :=
  .content (by rw [Json.treeAs, Json.tree])

/-- Every field of the screen is written, with null where it holds nothing. -/
theorem view_enters (p : Player) : ∃ written,
    p.view = (Tree.object written).compactText ∧
      Json.Enters screenFields p.screen.toDocument (screenFields.slotsOf p.screen.toDocument) written := by
  refine ⟨_, rfl, ?_⟩
  refine .write (fieldTree_text _) ?_
  refine .write (fieldTree_orNull _ _) ?_
  refine .write (fieldTree_texts _) ?_
  refine .write (fieldTree_texts _) ?_
  refine .write (fieldTree_orNull _ _) ?_
  refine .write (fieldTree_texts _) ?_
  exact .write (fieldTree_text _) rfl

/-- **The view of a player shows what the reader sees.** Each field is read back, and none that the page does not
know is in the way. -/
theorem parse_view (p : Player) : Screen.parse p.view = .ok p.screen := by
  obtain ⟨written, hview, henters⟩ := p.view_enters
  have hspells : Json.Spells (.object written) p.view.toList := by
    rw [hview]
    exact Json.spells_compactText _
  rw [Screen.parse, Json.readText_enters screenFields_wellNamed true henters hspells]
  rfl

/-- The texts that may be told of a player's position. At the introduction that is null; later it is any text of
the record, whose items are a set and come in whatever order the set is gone through. -/
inductive Tells (p : Player) : String → Prop
  | nothing : p.snapshot.state.passageId? = none → Tells p "null"
  | record {passage : PassageId} {text : String} : p.snapshot.state.passageId? = some passage →
      (⟨p.adventureId, passage, p.snapshot.inventory⟩ : Progress).ToldAs text → Tells p text

/-- What the player answers is one of the texts that may be told. -/
theorem tells_progress (p : Player) : p.Tells p.progress := by
  cases hpassage : p.snapshot.state.passageId? with
  | none =>
    have htext : p.progress = "null" := by
      rw [progress, record?, hpassage]
      rfl
    rw [htext]
    exact .nothing hpassage
  | some passage =>
    have htext : p.progress =
        (⟨p.adventureId, passage, p.snapshot.inventory⟩ : Progress).toTree.compactText := by
      rw [progress, record?, hpassage]
      rfl
    rw [htext]
    exact .record hpassage (Progress.toldAs_compactText _)

/-- **The saved position of a player is read back**, from whichever of its texts. At the introduction it is null, and
is read as no record; afterwards it is the record of the passage and the inventory, under the player's id. -/
theorem Tells.parseOrNull {p : Player} {text : String} (h : p.Tells text) :
    Progress.parseOrNull text = .ok (p.snapshot.progress? p.adventureId) := by
  cases h with
  | nothing hpassage =>
    rw [Progress.parseOrNull_null, Snapshot.progress?, hpassage]
    rfl
  | record hpassage htold =>
    rw [htold.parseOrNull, Snapshot.progress?, hpassage]
    rfl

theorem parse_progress (p : Player) :
    Progress.parseOrNull p.progress = .ok (p.snapshot.progress? p.adventureId) :=
  p.tells_progress.parseOrNull

end Player

end Gamebook
