import MonitorSync.Main
import MonitorSync.Operator.InMemory
import MonitorSync.Operator.Kind
import MonitorSync.Proofs.Child.RoundTrip
import MonitorSync.Proofs.Child.Update
import MonitorSync.Proofs.Clapi.Values
import MonitorSync.Proofs.Condition.Streak
import MonitorSync.Proofs.Group.Recovery
import MonitorSync.Proofs.Json.Order
import MonitorSync.Proofs.Label.Separation
import MonitorSync.Proofs.Mustache.Substitution
import MonitorSync.Proofs.Operator.Cleanup
import MonitorSync.Proofs.Operator.StoredIdentity
import MonitorSync.Proofs.Plan.Exclusion
import MonitorSync.Proofs.Plan.Partners
import MonitorSync.Proofs.Platform.Lifecycle
import MonitorSync.Proofs.Platform.Rebuilding
import MonitorSync.Proofs.Remote.Creation
import MonitorSync.Proofs.Remote.History
import MonitorSync.Proofs.Service.Difference
import MonitorSync.Proofs.Service.Independence
import MonitorSync.Proofs.Service.Minimality
import MonitorSync.Proofs.Service.Recovery
import MonitorSync.Proofs.Service.Settling
import MonitorSync.Proofs.Service.WantedMacros
import MonitorSync.Proofs.Source.Convergence
import MonitorSync.Proofs.Source.Isolation
import MonitorSync.Proofs.Source.Order
import MonitorSync.Proofs.Source.Watch
import MonitorSync.Proofs.Template.Compilation
import MonitorSync.Remote.Report
