import Gamebook.Adventure

/-!
# Which passages can be reached

The passages of an adventure form a graph: an edge leads from an id to every existing id that a choice
of some passage with the first id names. `Adventure.reached` collects what can be reached from
passage 1 by visiting each id once. An id waits in the queue from the moment it is first met, so the
queue takes in each id of the document at most once, and as many visits as there are passages empty
it.
-/

namespace Gamebook.Adventure

/-- Whether some passage has an id. -/
def hasPassage (a : Adventure) (id : PassageId) : Bool := a.passages.any fun p => p.id = id

/-- The existing ids that the choices of the passages with an id lead to. -/
def successors (a : Adventure) (id : PassageId) : List PassageId :=
  ((a.passages.filter fun p => p.id = id).flatMap fun p => p.choices.map (·.goto)).filter
    a.hasPassage

/-- The members of a list that are not in another, each once, in order of first appearance. -/
def newIn (known : List PassageId) : List PassageId → List PassageId
  | [] => []
  | id :: rest => if id ∈ known then newIn known rest else id :: newIn (id :: known) rest

/-- At most `visits` more visits: takes the first id out of the queue and puts its successors that
have not been met yet at the end. -/
def explore (a : Adventure) : (visits : Nat) → (queue met : List PassageId) → List PassageId
  | 0, _, met => met
  | _ + 1, [], met => met
  | visits + 1, id :: queue, met =>
    let fresh := newIn met (a.successors id)
    a.explore visits (queue ++ fresh) (met ++ fresh)

/-- The ids that can be reached from passage 1. -/
def reached (a : Adventure) : List PassageId :=
  a.explore a.passages.length [.entry] [.entry]

/-- The ids that cannot be reached from passage 1, each once, in order of first appearance. Without
passage 1 the question does not arise. -/
def unreached (a : Adventure) : List PassageId :=
  if a.hasPassage .entry then newIn a.reached a.passageIds else []

end Gamebook.Adventure
