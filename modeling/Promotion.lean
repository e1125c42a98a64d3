import Promotion.CommandLine.Chore
import Promotion.Main
import Promotion.Proofs.Client.Deletion
import Promotion.Proofs.Client.Verdict
import Promotion.Proofs.CommandLine.Escapes
import Promotion.Proofs.Editor.Accounting
import Promotion.Proofs.Editor.FreeInput
import Promotion.Proofs.Editor.InPlace
import Promotion.Proofs.Editor.Making
import Promotion.Proofs.Editor.NewIds
import Promotion.Proofs.Editor.Submission
import Promotion.Proofs.Graph.Order
import Promotion.Proofs.Graph.Reopening
import Promotion.Proofs.Graph.Search
import Promotion.Proofs.Graph.Undoing
import Promotion.Proofs.Json.Canonical
import Promotion.Proofs.Log.Line
import Promotion.Proofs.Rule.Completeness
import Promotion.Proofs.Rule.DefaultName
import Promotion.Proofs.Rule.Dispatch
import Promotion.Proofs.Rule.Editing
import Promotion.Proofs.Rule.Meaning
import Promotion.Proofs.Rule.Recovery
import Promotion.Proofs.Rule.Resolution
import Promotion.Proofs.Rule.Wire
import Promotion.Proofs.Settings.Stability
