import IntentBus.AccessRule
import IntentBus.Constraint.Statement
import IntentBus.Json.Shape
import IntentBus.Main
import IntentBus.Rehearsal
import IntentBus.Report.Event
import IntentBus.Proofs.Accounting
import IntentBus.Proofs.Banking
import IntentBus.Proofs.CachedAccess
import IntentBus.Proofs.Cancellations
import IntentBus.Proofs.Closings
import IntentBus.Proofs.Coherence
import IntentBus.Proofs.Correlations
import IntentBus.Proofs.Derivations
import IntentBus.Proofs.Durations
import IntentBus.Proofs.HookOrder
import IntentBus.Proofs.NarrowScopes
import IntentBus.Proofs.Noninterference
import IntentBus.Proofs.OpenScopes
import IntentBus.Proofs.Publications
import IntentBus.Proofs.Ranges
import IntentBus.Proofs.RoundTrips
import IntentBus.Proofs.ScheduledCalls
import IntentBus.Proofs.Settings
import IntentBus.Proofs.Telemetry
import IntentBus.Proofs.Totals
import IntentBus.Proofs.Waits
