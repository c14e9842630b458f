import Gamebook.Item

/-!
# Passages

A passage is one screen of the story: its paragraphs, the choices that lead out of it, the effects of
arriving, and for an ending the type of that ending. A passage is terminal exactly when it offers no
choice.
-/

namespace Gamebook

/-- The number of a passage. Documents number passages from one. -/
abbrev PassageId := UInt32

/-- The passage that follows the introduction. -/
def PassageId.entry : PassageId := 1

/-- A labelled way out of a passage. -/
structure Choice where
  text : String
  goto : PassageId
deriving DecidableEq, Repr

namespace Choice

/-- The label of a choice; on request with the number of the passage it leads to. -/
def label (choice : Choice) (showTarget : Bool) : String :=
  if showTarget then choice.text ++ " [-> " ++ toString choice.goto.toNat ++ "]" else choice.text

end Choice

/-- One screen of the story. -/
structure Passage where
  id : PassageId
  paragraphs : List String
  choices : List Choice
  effects : List Effect
  notes : Option String
  endingType : Option String
deriving DecidableEq, Repr

namespace Passage

/-- A terminal passage offers no choice. -/
def isTerminal (p : Passage) : Bool := p.choices.isEmpty

/-- The paragraphs as one text, with an empty line between two. -/
def text (p : Passage) : String := "\n\n".intercalate p.paragraphs

end Passage

end Gamebook
