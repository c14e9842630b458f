import Gamebook.Json.Write
import Gamebook.Validation

/-!
# Findings as JSON

How findings are handed to a browser: the category and the severity by name, the part of the document
as a word or as an object of one entry, and the wording.
-/

namespace Gamebook

open Json (Tree)

/-- The number of a passage. -/
def PassageId.toTree (id : PassageId) : Tree := .number id.toNat

/-- The name of a category. -/
def Category.name : Category → String
  | structural => "Structural"
  | content => "Content"
  | effectConflict => "EffectConflict"
  | unreachable => "Unreachable"

/-- The name of a severity. -/
def Severity.name : Severity → String
  | error => "Error"
  | warning => "Warning"

/-- A part of a document. -/
def Subject.toTree : Subject → Tree
  | title => .text "Title"
  | introduction => .text "Introduction"
  | passage id => .object [("Passage", PassageId.toTree id)]
  | item id => .object [("Item", .text id)]
  | choice id index =>
    .object [("Choice", .object [("passage", PassageId.toTree id), ("index", .number index)])]
  | effect id index touched =>
    .object [("Effect", .object
      [("passage", PassageId.toTree id), ("index", .number index), ("item", .text touched)])]

/-- A finding. -/
def Finding.toTree (finding : Finding) : Tree :=
  .object [
    ("category", .text finding.category.name),
    ("severity", .text finding.severity.name),
    ("subject", finding.subject.toTree),
    ("message", .text finding.message)]

/-- The verdict on an adventure: whether it can be played, and the findings. -/
def Report.toTree (report : Report) : Tree :=
  .object [
    ("playable", .boolean report.isPlayable),
    ("errors", .list (report.errors.map Finding.toTree)),
    ("warnings", .list (report.warnings.map Finding.toTree))]

end Gamebook
