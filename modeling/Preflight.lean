import Preflight.Json.Reader
import Preflight.Main
import Preflight.Proofs.PlanVolumes
import Preflight.Proofs.Success
import Preflight.Rehearsal
import Preflight.Proofs.Settlement
import Preflight.Proofs.CallOrder
import Preflight.Proofs.HookRuns
import Preflight.Proofs.BackendFailures
import Preflight.Proofs.FirstViolation
import Preflight.Proofs.Repetition
import Preflight.Proofs.Isolation
import Preflight.Proofs.Reordering
import Preflight.Proofs.ReservationRuns
import Preflight.Proofs.Survey
import Preflight.Proofs.PlanRuns
import Preflight.Proofs.Listing
import Preflight.Proofs.GroupViews
import Preflight.Proofs.ImageSources
import Preflight.Proofs.OverrideComposition
import Preflight.Proofs.Codec
import Preflight.Proofs.Edits
import Preflight.Proofs.PersistedForms
import Preflight.Proofs.Drills
import Preflight.Proofs.EmptyFlags
import Preflight.Proofs.LeaseTiming
import Preflight.Proofs.SizeTokens
import Preflight.Proofs.ConfigFaults
