import Gamebook.Files.Fault
import Gamebook.Json.Read
import Gamebook.Progress

/-!
# Stores of saved positions

A store keeps one progress record for each adventure id. Play talks to every store through the three
operations of `ProgressStore`. Each may fail, and each hands the store back, changed or not, because a
store may have something to note about a call, a failed one too.
-/

namespace Gamebook

/-- Why a store could not do what it was asked. -/
inductive StoreError
  | file (fault : Files.FileFault)
  | record (refusal : Json.Refusal)
  | foreign (adventureId owner : String)
deriving DecidableEq, Repr

/-- The wording of a store's failure. -/
def StoreError.message : StoreError → String
  | file fault => "IO error: " ++ fault.message
  | record refusal => "JSON error: " ++ refusal.message
  | foreign adventureId owner =>
    "corrupt progress record for '" ++ adventureId ++ "': file belongs to '" ++ owner ++ "'"

/-- A store of progress records, one for each adventure id. -/
class ProgressStore (σ : Type) where
  /-- The record of an adventure, if there is one. -/
  load : σ → String → Except StoreError (Option Progress) × σ
  /-- Keeps a record in place of the one its adventure had. -/
  save : σ → Progress → Except StoreError Unit × σ
  /-- Forgets the record of an adventure, if there is one. -/
  clear : σ → String → Except StoreError Unit × σ

end Gamebook
