import Gamebook.Text.Blank
import Gamebook.Validation.Finding
import Gamebook.Validation.Reachability

/-!
# Checking an adventure

`Adventure.validate` runs every check and lists all findings, so that an author sees each problem at
once: repeated ids, what is missing, endings, effects that contradict each other, blank texts, and
last the passages that cannot be reached.
-/

namespace Gamebook.Adventure

/-- The members of a list that occur earlier in it, or in a list of members seen before. -/
def repeatedIn {α : Type} [DecidableEq α] (seen : List α) : List α → List α
  | [] => []
  | x :: xs => if x ∈ seen then x :: repeatedIn seen xs else repeatedIn (x :: seen) xs

/-- Ids that are used more than once. -/
def checkUniqueness (a : Adventure) : Report :=
  (repeatedIn [] a.passageIds).map .repeatedPassage ++ (repeatedIn [] a.itemIds).map .repeatedItem

/-- The choices of a passage that lead nowhere. -/
def danglingChoices (a : Adventure) (p : Passage) : Report :=
  p.choices.zipIdx.filterMap fun (choice, index) =>
    if a.hasPassage choice.goto then none else some (.danglingChoice p.id index choice.goto)

/-- The effects of a passage on items that are not declared. -/
def undeclaredItems (a : Adventure) (p : Passage) : Report :=
  p.effects.zipIdx.filterMap fun (effect, index) =>
    if effect.item ∈ a.itemIds then none else some (.undeclaredItem p.id index effect.item)

/-- References to what does not exist. -/
def checkReferences (a : Adventure) : Report :=
  (if a.hasPassage .entry then [] else [.missingEntry]) ++
    a.passages.flatMap fun p => a.danglingChoices p ++ a.undeclaredItems p

/-- A terminal passage must name the type of its ending, and no other passage may. -/
def checkEnding (p : Passage) : Report :=
  if p.isTerminal then
    if p.endingType.any fun endingType => !Text.isBlankText endingType then [] else [.untypedEnding p.id]
  else if p.endingType.isSome then [.typedFork p.id]
  else []

/-- The items that effects have touched so far: those that were added, and those that were removed. -/
structure Touched where
  added : List ItemId
  removed : List ItemId

/-- Takes one more effect into account, or says how it conflicts with one before it. -/
def Touched.note (touched : Touched) : Effect → Except Conflict Touched
  | .add id =>
    if id ∈ touched.added then .error .addedTwice
    else if id ∈ touched.removed then .error .addedAndRemoved
    else .ok { touched with added := id :: touched.added }
  | .remove id =>
    if id ∈ touched.removed then .error .removedTwice
    else if id ∈ touched.added then .error .addedAndRemoved
    else .ok { touched with removed := id :: touched.removed }

/-- The first effect that conflicts with one before it: its place, the item and the conflict. -/
def firstConflict (index : Nat) (touched : Touched) : List Effect → Option (Nat × ItemId × Conflict)
  | [] => none
  | effect :: later =>
    match touched.note effect with
    | .error kind => some (index, effect.item, kind)
    | .ok touched => firstConflict (index + 1) touched later

/-- The first conflict among the effects of a passage. -/
def checkEffects (p : Passage) : Report :=
  match firstConflict 0 ⟨[], []⟩ p.effects with
  | some (index, item, kind) => [.effectConflict p.id index item kind]
  | none => []

/-- A passage must have text, and so must each of its choices. -/
def checkPassageText (p : Passage) : Report :=
  (if p.paragraphs.all Text.isBlankText then [.blankPassage p.id] else []) ++
    p.choices.zipIdx.filterMap fun (choice, index) =>
      if Text.isBlankText choice.text then some (.blankChoice p.id index) else none

/-- The title, the introduction, the passages and the choices must have text. -/
def checkText (a : Adventure) : Report :=
  (if Text.isBlankText a.title then [.blankTitle] else []) ++
    (if a.introduction.all Text.isBlankText then [.blankIntroduction] else []) ++
    a.passages.flatMap checkPassageText

/-- Passages that cannot be reached. -/
def checkReachability (a : Adventure) : Report := a.unreached.map .unreachable

/-- All findings on an adventure. -/
def validate (a : Adventure) : Report :=
  a.checkUniqueness ++ a.checkReferences ++ a.passages.flatMap checkEnding ++
    a.passages.flatMap checkEffects ++ a.checkText ++ a.checkReachability

/-- Whether an adventure can be played. -/
def isPlayable (a : Adventure) : Bool := a.validate.isPlayable

end Gamebook.Adventure
