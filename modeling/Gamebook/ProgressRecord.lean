import Gamebook.Json.Read
import Gamebook.Json.Write
import Gamebook.Progress

/-!
# Progress records as JSON

A progress record is written with three fields: the adventure, the passage and what is carried. Read
back, the items may come in any order and fields that are not known are passed over.
-/

namespace Gamebook

/-- A progress record. -/
@[reducible] def progressShape : Shape :=
  .record "Progress"
    (.field "adventure_id" .required .text
      (.field "current_passage" .required .number
        (.field "inventory" .required (.list .text) .nil)))

namespace Progress

/-- The document of a saved position. -/
def toDocument (p : Progress) : progressShape.Value :=
  (p.adventureId, p.passage, p.inventory.ids, ())

/-- The saved position of a document. -/
def ofDocument : progressShape.Value → Progress
  | (adventureId, passage, items, ()) => ⟨adventureId, passage, .ofList items⟩

/-- A saved position as a text over several lines. -/
def render (p : Progress) : String := Json.writeText progressShape p.toDocument

/-- A saved position as a tree. -/
def toTree (p : Progress) : Json.Tree := Json.tree progressShape p.toDocument

/-- The saved position that a text holds. -/
def parse (text : String) : Except Json.Refusal Progress :=
  (Json.readText true progressShape text).map ofDocument

end Progress

end Gamebook
