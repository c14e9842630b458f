import Gamebook.Adventure
import Gamebook.Shape

/-!
# Adventures as documents

A document holds an adventure in the shape of `adventureShape`. Ids and targets are bare numbers there,
and an effect is a record that names its kind, so not every document is an adventure: numbers must be at
least one, and the kind of an effect must be known. `adventureOf` makes the adventure or names the first
thing that stands in the way, passage by passage.
-/

namespace Gamebook

/-! ## Shapes -/

/-- An item of a document. -/
@[reducible] def itemShape : Shape :=
  .record "RawItem" (.field "id" .required .text (.field "name" .required .text .nil))

/-- A choice of a document. -/
@[reducible] def choiceShape : Shape :=
  .record "RawChoice" (.field "text" .required .text (.field "goto" .required .number .nil))

/-- An effect of a document. -/
@[reducible] def effectShape : Shape :=
  .record "RawEffect" (.field "type" .required .text (.field "item" .required .text .nil))

/-- A passage of a document. -/
@[reducible] def passageShape : Shape :=
  .record "RawPassage"
    (.field "id" .required .number
      (.field "paragraphs" .required (.list .text)
        (.field "choices" .repeated choiceShape
          (.field "effects" .repeated effectShape
            (.field "notes" .optional .text
              (.field "endingType" .optional .text .nil))))))

/-- The title of a document. -/
@[reducible] def metadataShape : Shape :=
  .record "RawMetadata" (.field "title" .required .text .nil)

/-- The introduction of a document. -/
@[reducible] def introductionShape : Shape :=
  .record "RawIntroduction" (.field "paragraphs" .required (.list .text) .nil)

/-- A document that holds an adventure. -/
@[reducible] def adventureShape : Shape :=
  .record "RawAdventure"
    (.field "metadata" .required metadataShape
      (.field "items" .repeated itemShape
        (.field "introduction" .required introductionShape
          (.field "passages" .required (.list passageShape) .nil))))

/-! ## From adventures to documents -/

/-- An item in a document. -/
def documentItem (i : Item) : itemShape.Value := (i.id, i.name, ())

/-- A choice in a document. -/
def documentChoice (c : Choice) : choiceShape.Value := (c.text, c.goto, ())

/-- An effect in a document. -/
def documentEffect (e : Effect) : effectShape.Value := (e.kind, e.item, ())

/-- A passage in a document. -/
def documentPassage (p : Passage) : passageShape.Value :=
  (p.id, p.paragraphs, p.choices.map documentChoice, p.effects.map documentEffect, p.notes,
    p.endingType, ())

/-- The document that holds an adventure. -/
def documentOf (a : Adventure) : adventureShape.Value :=
  ((a.title, ()), a.items.map documentItem, (a.introduction, ()), a.passages.map documentPassage, ())

/-! ## From documents to adventures -/

/-- Why a document of the right shape is no adventure. Choices are counted from zero. -/
inductive DocumentFault
  | passageZero
  | targetZero (passage : PassageId) (index : Nat)
  | unknownEffect (passage : PassageId) (kind : String)
deriving DecidableEq, Repr

/-- The wording of what is wrong with a document. -/
def DocumentFault.message : DocumentFault → String
  | passageZero => "passage id must be at least 1"
  | targetZero passage index =>
    "choice " ++ toString (index + 1) ++ " in passage " ++ toString passage.toNat ++
      ": goto must be at least 1"
  | unknownEffect passage kind =>
    "passage " ++ toString passage.toNat ++ ": unknown effect type '" ++ kind ++
      "' (expected 'addItem' or 'removeItem')"

/-- The choices of a document's passage, from the one of the given number on. -/
def choicesOf (passage : PassageId) (index : Nat) :
    List choiceShape.Value → Except DocumentFault (List Choice)
  | [] => .ok []
  | (text, goto, ()) :: rest => do
    if goto = 0 then throw (.targetZero passage index)
    let others ← choicesOf passage (index + 1) rest
    return ⟨text, goto⟩ :: others

/-- The effects of a document's passage. -/
def effectsOf (passage : PassageId) : List effectShape.Value → Except DocumentFault (List Effect)
  | [] => .ok []
  | (kind, item, ()) :: rest =>
    match Effect.ofKind? kind item with
    | none => .error (.unknownEffect passage kind)
    | some effect => do
      let others ← effectsOf passage rest
      return effect :: others

/-- A document's passage. -/
def passageOf : passageShape.Value → Except DocumentFault Passage
  | (id, paragraphs, choices, effects, notes, endingType, ()) => do
    if id = 0 then throw .passageZero
    let choices ← choicesOf id 0 choices
    let effects ← effectsOf id effects
    return { id, paragraphs, choices, effects, notes, endingType }

/-- A document's passages. -/
def passagesOf : List passageShape.Value → Except DocumentFault (List Passage)
  | [] => .ok []
  | p :: rest => do
    let passage ← passageOf p
    let others ← passagesOf rest
    return passage :: others

/-- The adventure that a document holds. -/
def adventureOf : adventureShape.Value → Except DocumentFault Adventure
  | ((title, ()), items, (introduction, ()), passages, ()) => do
    let passages ← passagesOf passages
    return {
      title
      introduction
      items := items.map fun (id, name, ()) => ⟨id, name⟩
      passages }

end Gamebook
