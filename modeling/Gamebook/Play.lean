import Gamebook.Progress

/-!
# Playing an adventure

Play starts at the introduction, enters passage 1, and goes on by choices. A snapshot is the whole
state of play: where the reader is and what the reader carries. `Snapshot.step` is the one transition
function; it answers the next snapshot or says why there is none, and keeps nothing else.

Effects belong to arriving by a choice. Starting, restarting and resuming enter a passage without
applying its effects.
-/

namespace Gamebook

/-- Where the reader is. -/
inductive PlayState
  | introduction
  | inPassage (id : PassageId)
  | ended (passage : PassageId) (endingType : String)
deriving DecidableEq, Repr

namespace PlayState

/-- The passage on screen, once play has started. -/
def passageId? : PlayState → Option PassageId
  | introduction => none
  | inPassage id => some id
  | ended id _ => some id

/-- Whether an ending has been reached. -/
def isEnded : PlayState → Bool
  | ended _ _ => true
  | _ => false

/-- The state of a reader who has arrived at a passage. A terminal passage with a type of ending ends
the story. One without a type, which no valid adventure has, keeps the reader on the passage. -/
def arrived (p : Passage) : PlayState :=
  match p.isTerminal, p.endingType with
  | true, some endingType => .ended p.id endingType
  | _, _ => .inPassage p.id

end PlayState

/-- The state of play. -/
structure Snapshot where
  state : PlayState
  inventory : Inventory
deriving DecidableEq, Repr

/-- What a reader can do. Choices are counted from zero. -/
inductive Action
  | start
  | choose (index : Nat)
  | restart
deriving DecidableEq, Repr

/-- Why an action is not allowed in the present state. -/
inductive Refusal
  | alreadyStarted
  | notStarted
  | atEnding (passage : PassageId)
  | choiceOutOfRange (passage : PassageId) (index available : Nat)
deriving DecidableEq, Repr

/-- The wording of a refusal. -/
def Refusal.message : Refusal → String
  | alreadyStarted => "play has already started"
  | notStarted => "play has not started yet"
  | atEnding passage =>
    "passage " ++ toString passage.toNat ++ " is an ending and offers no choices"
  | choiceOutOfRange passage index available =>
    "choice " ++ toString index ++ " is out of range for passage " ++ toString passage.toNat ++
      " (" ++ toString available ++ " choices)"

/-- Why an action has no result: it is not allowed, or the document lacks what it needs. -/
inductive PlayError
  | refused (refusal : Refusal)
  | document (missing : LookupError)
deriving DecidableEq, Repr

/-- The wording of a failed action. -/
def PlayError.message : PlayError → String
  | refused refusal => "invalid transition: " ++ refusal.message
  | document missing => "document error: " ++ missing.message

namespace Snapshot

/-- The state before play: at the introduction, with nothing in hand. -/
def initial : Snapshot := ⟨.introduction, .empty⟩

/-- A passage that play needs, or the error of its absence. -/
def require (a : Adventure) (id : PassageId) : Except PlayError Passage :=
  (a.passage id).mapError .document

/-- Leaves the introduction for passage 1. What is carried is kept. -/
def start (a : Adventure) (s : Snapshot) : Except PlayError Snapshot :=
  match s.state with
  | .introduction => do
    let entry ← require a .entry
    return ⟨.arrived entry, s.inventory⟩
  | _ => .error (.refused .alreadyStarted)

/-- Follows a choice of the present passage and applies the effects of the passage it leads to. -/
def choose (a : Adventure) (s : Snapshot) (index : Nat) : Except PlayError Snapshot :=
  match s.state with
  | .introduction => .error (.refused .notStarted)
  | .ended passage _ => .error (.refused (.atEnding passage))
  | .inPassage id => do
    let current ← require a id
    if current.isTerminal then
      .error (.refused (.atEnding current.id))
    else
      match current.choices[index]? with
      | none => .error (.refused (.choiceOutOfRange current.id index current.choices.length))
      | some choice => do
        let target ← require a choice.goto
        return ⟨.arrived target, s.inventory.applyAll target.effects⟩

/-- Goes back to passage 1 with nothing in hand, from anywhere. -/
def restart (a : Adventure) : Except PlayError Snapshot := do
  let entry ← require a .entry
  return ⟨.arrived entry, .empty⟩

/-- The snapshot after an action. -/
def step (a : Adventure) (s : Snapshot) : Action → Except PlayError Snapshot
  | .start => s.start a
  | .choose index => s.choose a index
  | .restart => restart a

/-- The snapshot of a saved position, if its passage is still there. -/
def resume (a : Adventure) (progress : Progress) : Except LookupError Snapshot := do
  let passage ← a.passage progress.passage
  return ⟨.arrived passage, progress.inventory⟩

/-- The passage on screen, once play has started. -/
def passage? (a : Adventure) (s : Snapshot) : Option Passage :=
  s.state.passageId?.bind a.passage?

end Snapshot

end Gamebook
