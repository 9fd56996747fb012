import IngressConvergence.Configuration.Document
import IngressConvergence.Configuration.Environment
import IngressConvergence.Convergence.Removal
import IngressConvergence.Simulation.Run
import IngressConvergence.Table.Lemmas
import IngressConvergence.Wire.Annotations
import IngressConvergence.Wire.Configuration
import IngressConvergence.Proofs.FailFast
import IngressConvergence.Proofs.Attribution
import IngressConvergence.Proofs.Error.Source
import IngressConvergence.Proofs.Attribution.Cycle
import IngressConvergence.Proofs.FailFast.Cycle
import IngressConvergence.Proofs.World.Calls
import IngressConvergence.Proofs.World.Record
import IngressConvergence.Proofs.World.Calm
import IngressConvergence.Proofs.World.Undisturbed
import IngressConvergence.Proofs.World.Faultless
import IngressConvergence.Proofs.Schedule
import IngressConvergence.Proofs.Schedule.Cycle
import IngressConvergence.Proofs.PrefixLaw
import IngressConvergence.Proofs.ContextLaw
import IngressConvergence.Proofs.Cloud.Consistency
import IngressConvergence.Proofs.Stage.Inventory
import IngressConvergence.Proofs.Stage.LoadBalancer
import IngressConvergence.Proofs.Stage.Attachments
import IngressConvergence.Proofs.Stage.Dependents
import IngressConvergence.Proofs.Stage.Cycle
import IngressConvergence.Proofs.SelfHealing
import IngressConvergence.Proofs.Idempotence
import IngressConvergence.Proofs.Naming
import IngressConvergence.Proofs.Error.Likeness
import IngressConvergence.Proofs.Likeness
import IngressConvergence.Proofs.Likeness.Cycle
import IngressConvergence.Proofs.Operation
import IngressConvergence.Proofs.ErrorLaw
import IngressConvergence.Proofs.World.Tables
import IngressConvergence.Proofs.World.Unchanged
import IngressConvergence.Proofs.Policy
import IngressConvergence.Proofs.Cloud.Slots
import IngressConvergence.Proofs.Cloud.Intact
import IngressConvergence.Proofs.Cloud.Ownership
import IngressConvergence.Proofs.Ownership
import IngressConvergence.Proofs.Course
import IngressConvergence.Proofs.Course.Ending
import IngressConvergence.Proofs.Course.Instance
import IngressConvergence.Proofs.Course.Cycle
import IngressConvergence.Proofs.Course.Exact
import IngressConvergence.Proofs.Integrity
import IngressConvergence.Proofs.Replacement
import IngressConvergence.Proofs.Removal
import IngressConvergence.Proofs.Removal.Cancellation
import IngressConvergence.Proofs.Cloud.Renaming
import IngressConvergence.Proofs.Cloud.Mirror
import IngressConvergence.Proofs.Cloud.Mirror.Calls
import IngressConvergence.Proofs.Interleaving
import IngressConvergence.Proofs.World.Shared
import IngressConvergence.Proofs.Serializability
import IngressConvergence.Proofs.CrashConsistency
import IngressConvergence.Proofs.MinimalTrace
import IngressConvergence.Proofs.References
import IngressConvergence.Proofs.Resolution
import IngressConvergence.Proofs.Subnets
import IngressConvergence.Proofs.Firewall
import IngressConvergence.Proofs.Wire.Timestamp
import IngressConvergence.Proofs.Wire.Document
import IngressConvergence.Proofs.Wire.RoundTrip
import IngressConvergence.Proofs.Context.Race
import IngressConvergence.Proofs.Context.Derivation
import IngressConvergence.Proofs.AllowList
import IngressConvergence.Proofs.Abidance
import IngressConvergence.Proofs.Boundaries
import IngressConvergence.Proofs.Error.Classes
import IngressConvergence.Proofs.Attributes
import IngressConvergence.Proofs.Cloud.Atomicity
import IngressConvergence.Proofs.Reporting
import IngressConvergence.Proofs.Reporting.Cycle
import IngressConvergence.Proofs.Environment
import IngressConvergence.Proofs.Naming.Shape
import IngressConvergence.Proofs.TargetGroups
import IngressConvergence.Proofs.Zones
import IngressConvergence.Proofs.Yaml.Steps
import IngressConvergence.Proofs.Yaml.Configuration
