import OrderDesk.Main
import OrderDesk.Proofs.Acceptance
import OrderDesk.Proofs.Building
import OrderDesk.Proofs.Conversions
import OrderDesk.Proofs.Encodings
import OrderDesk.Proofs.Endpoints
import OrderDesk.Proofs.Failover
import OrderDesk.Proofs.Faults
import OrderDesk.Proofs.Guards
import OrderDesk.Proofs.Interleaving
import OrderDesk.Proofs.Inverses
import OrderDesk.Proofs.KeptPaths
import OrderDesk.Proofs.Matching
import OrderDesk.Proofs.Offsets
import OrderDesk.Proofs.Outcomes
import OrderDesk.Proofs.Placeholders
import OrderDesk.Proofs.Projections
import OrderDesk.Proofs.Readback
import OrderDesk.Proofs.Reconciling
import OrderDesk.Proofs.Replies
import OrderDesk.Proofs.Respellings
import OrderDesk.Proofs.Responses
import OrderDesk.Proofs.Runs
import OrderDesk.Proofs.Selection
import OrderDesk.Proofs.Sorting
import OrderDesk.Proofs.Spellings
import OrderDesk.Proofs.Strangers
import OrderDesk.Proofs.Sums
import OrderDesk.Proofs.Windows
import OrderDesk.Service.Disruption
