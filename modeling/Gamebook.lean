import Gamebook.Main
import Gamebook.Demo
import Gamebook.SnapshotRecord
import Gamebook.Store.Memory
import Gamebook.Store.Observed
import Gamebook.Store.Switched
import Gamebook.Proofs.Text.Cuts
import Gamebook.Proofs.Text.Digits
import Gamebook.Proofs.Ron.Words
import Gamebook.Proofs.Ron.Layout
import Gamebook.Proofs.Shape
import Gamebook.Proofs.Ron.RoundTrip
import Gamebook.Proofs.Ron.Acceptance
import Gamebook.Proofs.Json.Layout
import Gamebook.Proofs.Json.RoundTrip
import Gamebook.Proofs.Document
import Gamebook.Proofs.Format
import Gamebook.Proofs.Play
import Gamebook.Proofs.Session
import Gamebook.Proofs.Reopening
import Gamebook.Proofs.Positions
import Gamebook.Proofs.Findings
import Gamebook.Proofs.EffectConflicts
import Gamebook.Proofs.EffectOrder
import Gamebook.Proofs.Arrival
import Gamebook.Proofs.StoreCalls
import Gamebook.Proofs.StoreFailures
import Gamebook.Proofs.CrashConsistency
import Gamebook.Proofs.Table
import Gamebook.Proofs.FileNames
import Gamebook.Proofs.RecordFiles
import Gamebook.Proofs.FileRefinement
import Gamebook.Proofs.Independence
import Gamebook.Proofs.Screen
import Gamebook.Proofs.Player
import Gamebook.Proofs.Listeners
import Gamebook.Proofs.Conversion
import Gamebook.Proofs.Json.Truncation
import Gamebook.Proofs.Ron.Truncation
import Gamebook.Proofs.Truncation
import Gamebook.Proofs.Notation
import Gamebook.Proofs.HandOver
import Gamebook.Proofs.TornRecords
import Gamebook.Proofs.ForeignRecords
import Gamebook.Proofs.PlayFiles
import Gamebook.Proofs.WellFormed
import Gamebook.Proofs.Unreached
import Gamebook.Proofs.Playtest
import Gamebook.Proofs.PlaytestCounts
import Gamebook.Proofs.PlaytestGrowth
import Gamebook.Proofs.PlaytestSightings
import Gamebook.Proofs.ExportNames
import Gamebook.Proofs.ScannedNames
import Gamebook.Proofs.Listing
import Gamebook.Proofs.Linter
