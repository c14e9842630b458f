import Gamebook.Export
import Gamebook.Play
import Gamebook.ProgressRecord
import Gamebook.Text.LowerCase
import Gamebook.Validation.Record

/-!
# Play in a browser

A player holds an adventure and a snapshot, and answers in JSON. It has no store: the page that shows
it takes `progress` after each call, keeps it as it likes, and hands it back to `resume` later. A call
that fails leaves the player as it was.
-/

namespace Gamebook

/-- Why a call of the player failed. -/
inductive PlayerError
  | unknownFormat (name : String)
  | noAdventure (e : FormatError)
  | notPlayable (report : Report)
  | play (e : PlayError)
  | noProgress (refusal : Json.Refusal)
  | cannotResume (e : LookupError)
deriving DecidableEq, Repr

/-- The wording of a failure. -/
def PlayerError.message : PlayerError → String
  | unknownFormat name => "Unknown format: " ++ name
  | noAdventure e => "Import failed: " ++ e.message
  | notPlayable report => "Adventure is not playable:\n" ++ report.render
  | play e => e.message
  | noProgress refusal => "Invalid progress JSON: " ++ refusal.message
  | cannotResume e => "Cannot resume: " ++ e.message

/-- The notation of a name, in capital or small letters. No name stands for RON. -/
def Format.ofName (name : String) : Except PlayerError Format :=
  let name := Text.lower name
  if name = "ron" ∨ name = "" then .ok .ron
  else if name = "json" then .ok .json
  else .error (.unknownFormat name)

/-- The adventure of a text in a notation given by name. -/
def importText (text formatName : String) : Except PlayerError Adventure := do
  let format ← Format.ofName formatName
  match parse format text with
  | .ok a => return a
  | .error e => throw (.noAdventure e)

/-- An adventure being played in a browser. -/
structure Player where
  adventure : Adventure
  adventureId : String
  snapshot : Snapshot
  showTargets : Bool

namespace Player

/-- The player of a text that holds a playable adventure. -/
def ofText (adventureId text formatName : String) : Except PlayerError Player := do
  let adventure ← importText text formatName
  let report := adventure.validate
  if report.isPlayable then return ⟨adventure, adventureId, .initial, false⟩
  else throw (.notPlayable report)

/-- The verdict on the adventure of a text. -/
def validateText (text formatName : String) : Except PlayerError String := do
  let adventure ← importText text formatName
  return (Report.toTree adventure.validate).compactText

/-- The player with the targets of choices shown or not. -/
def setShowTargets (p : Player) (shown : Bool) : Player := { p with showTargets := shown }

/-- The word for a state. -/
def stateWord : PlayState → String
  | .introduction => "introduction"
  | .inPassage _ => "passage"
  | .ended _ _ => "ended"

/-- A value, or null. -/
def orNull {α : Type} (f : α → Json.Tree) : Option α → Json.Tree
  | none => .null
  | some value => f value

/-- A list of texts. -/
def texts (values : List String) : Json.Tree := .list (values.map .text)

/-- The paragraphs on screen: those of the passage, or else of the introduction. -/
def paragraphs (p : Player) : List String :=
  match p.snapshot.passage? p.adventure with
  | some passage => passage.paragraphs
  | none => p.adventure.introduction

/-- The labels of the choices on offer. -/
def labels (p : Player) : List String :=
  match p.snapshot.state, p.snapshot.passage? p.adventure with
  | .inPassage _, some passage => passage.choices.map fun choice => choice.label p.showTargets
  | _, _ => []

/-- The type of the ending that has been reached. -/
def endingType? (p : Player) : Option String :=
  match p.snapshot.state with
  | .ended _ endingType => some endingType
  | _ => none

/-- What the reader sees. -/
def view (p : Player) : String :=
  (Json.Tree.object [
    ("state", .text (stateWord p.snapshot.state)),
    ("passage_id", orNull PassageId.toTree p.snapshot.state.passageId?),
    ("paragraphs", texts p.paragraphs),
    ("choices", texts p.labels),
    ("ending_type", orNull .text p.endingType?),
    ("inventory", texts (p.snapshot.inventory.itemNames p.adventure)),
    ("inventory_summary", .text (p.snapshot.inventory.summary p.adventure))]).compactText

/-- The record of the position, once play has started. -/
def record? (p : Player) : Option Progress :=
  p.snapshot.state.passageId?.map fun passage =>
    { adventureId := p.adventureId, passage, inventory := p.snapshot.inventory }

/-- The saved position for the page to keep, or null before play has started. The items are told in increasing
order here, but they are a set: no reader of the text may depend on their order. -/
def progress (p : Player) : String := (orNull Progress.toTree p.record?).compactText

/-- The player after an action. -/
def perform (p : Player) (action : Action) : Except PlayerError Player :=
  match p.snapshot.step p.adventure action with
  | .ok snapshot => .ok { p with snapshot }
  | .error e => .error (.play e)

/-- The player at a saved position. The record may come from any adventure. -/
def resume (p : Player) (text : String) : Except PlayerError Player :=
  match Progress.parse text with
  | .error refusal => .error (.noProgress refusal)
  | .ok progress =>
    match Snapshot.resume p.adventure progress with
    | .error e => .error (.cannotResume e)
    | .ok snapshot => .ok { p with snapshot }

/-- The adventure as a file to download. -/
def exportAs (p : Player) (formatName : String) : Except PlayerError String := do
  let file := exportFile p.adventure (← Format.ofName formatName)
  return (Json.Tree.object [
    ("filename", .text file.fileName),
    ("mime_type", .text file.mediaType),
    ("contents", .text file.contents)]).compactText

end Player

end Gamebook
