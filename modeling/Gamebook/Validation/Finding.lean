import Gamebook.Adventure

/-!
# Findings

A finding is one thing that is wrong with an adventure. Its category, its severity, the part of the
document it is about and its wording all follow from the finding itself.
-/

namespace Gamebook

/-- How two effects of one passage on one item get in each other's way. -/
inductive Conflict
  | addedTwice
  | removedTwice
  | addedAndRemoved
deriving DecidableEq, Repr

/-- The wording of a conflict. -/
def Conflict.phrase : Conflict → String
  | addedTwice => "is added twice"
  | removedTwice => "is removed twice"
  | addedAndRemoved => "is added and removed in the same passage"

/-- One thing that is wrong with an adventure. Choices and effects are counted from zero. -/
inductive Finding
  | repeatedPassage (id : PassageId)
  | repeatedItem (id : ItemId)
  | missingEntry
  | danglingChoice (passage : PassageId) (index : Nat) (target : PassageId)
  | undeclaredItem (passage : PassageId) (index : Nat) (item : ItemId)
  | untypedEnding (passage : PassageId)
  | typedFork (passage : PassageId)
  | effectConflict (passage : PassageId) (index : Nat) (item : ItemId) (kind : Conflict)
  | blankTitle
  | blankIntroduction
  | blankPassage (passage : PassageId)
  | blankChoice (passage : PassageId) (index : Nat)
  | unreachable (passage : PassageId)
deriving DecidableEq, Repr

/-- The family a finding belongs to. -/
inductive Category
  | structural
  | content
  | effectConflict
  | unreachable
deriving DecidableEq, Repr

/-- Whether a finding keeps an adventure from being played. -/
inductive Severity
  | error
  | warning
deriving DecidableEq, Repr

/-- The part of the document a finding is about. -/
inductive Subject
  | title
  | introduction
  | passage (id : PassageId)
  | item (id : ItemId)
  | choice (passage : PassageId) (index : Nat)
  | effect (passage : PassageId) (index : Nat) (item : ItemId)
deriving DecidableEq, Repr

namespace Finding

/-- The family of a finding. -/
def category : Finding → Category
  | repeatedPassage _ | repeatedItem _ | missingEntry | danglingChoice .. | undeclaredItem ..
  | untypedEnding _ | typedFork _ => .structural
  | effectConflict .. => .effectConflict
  | blankTitle | blankIntroduction | blankPassage _ | blankChoice .. => .content
  | unreachable _ => .unreachable

/-- Every finding is an error, except that a passage cannot be reached. -/
def severity : Finding → Severity
  | unreachable _ => .warning
  | _ => .error

/-- The part of the document a finding is about. -/
def subject : Finding → Subject
  | repeatedPassage id => .passage id
  | repeatedItem id => .item id
  | missingEntry => .passage .entry
  | danglingChoice passage index _ => .choice passage index
  | undeclaredItem passage index item => .effect passage index item
  | untypedEnding passage => .passage passage
  | typedFork passage => .passage passage
  | effectConflict passage index item _ => .effect passage index item
  | blankTitle => .title
  | blankIntroduction => .introduction
  | blankPassage passage => .passage passage
  | blankChoice passage index => .choice passage index
  | unreachable passage => .passage passage

/-- The wording of a finding. -/
def message : Finding → String
  | repeatedPassage id => "Passage id " ++ toString id.toNat ++ " is used more than once"
  | repeatedItem id => "Item id '" ++ id ++ "' is used more than once"
  | missingEntry => "Entry passage " ++ toString PassageId.entry.toNat ++ " is missing"
  | danglingChoice passage index target =>
    "Choice " ++ toString (index + 1) ++ " in passage " ++ toString passage.toNat ++
      " leads to passage " ++ toString target.toNat ++ ", which does not exist"
  | undeclaredItem passage _ item =>
    "Passage " ++ toString passage.toNat ++ " refers to item '" ++ item ++ "', which does not exist"
  | untypedEnding passage =>
    "Passage " ++ toString passage.toNat ++ " has no choices and no ending type"
  | typedFork passage =>
    "Passage " ++ toString passage.toNat ++ " has choices but also declares an ending type"
  | effectConflict passage _ item kind =>
    "Item '" ++ item ++ "' " ++ kind.phrase ++ " (passage " ++ toString passage.toNat ++ ")"
  | blankTitle => "Title must not be empty"
  | blankIntroduction => "Introduction must not be empty"
  | blankPassage passage => "Passage " ++ toString passage.toNat ++ " has no text"
  | blankChoice passage index =>
    "Choice " ++ toString (index + 1) ++ " in passage " ++ toString passage.toNat ++ " has no text"
  | unreachable passage =>
    "Passage " ++ toString passage.toNat ++ " cannot be reached from passage " ++
      toString PassageId.entry.toNat

end Finding

/-- The word that opens the line of a finding in a report. -/
def Severity.label : Severity → String
  | error => "ERROR"
  | warning => "WARNING"

/-! ## Reports -/

/-- All findings on an adventure, in the order of the checks. -/
abbrev Report := List Finding

namespace Report

/-- The findings that keep the adventure from being played. -/
def errors (report : Report) : List Finding :=
  report.filter fun finding => finding.severity = .error

/-- The findings that do not keep the adventure from being played. -/
def warnings (report : Report) : List Finding :=
  report.filter fun finding => finding.severity = .warning

/-- The findings of one family. -/
def inCategory (report : Report) (category : Category) : List Finding :=
  report.filter fun finding => finding.category = category

/-- An adventure can be played when no finding is an error. -/
def isPlayable (report : Report) : Bool := report.errors.isEmpty

/-- The report as text, a line for each finding. -/
def render (report : Report) : String :=
  String.join (report.map fun finding => finding.severity.label ++ ": " ++ finding.message ++ "\n")

end Report

end Gamebook
