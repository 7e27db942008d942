import GatewayAuth.Main
import GatewayAuth.Proofs.Run
import GatewayAuth.Proofs.Usage.Totals
import GatewayAuth.Retry
import GatewayAuth.Simulation.CachePlay
import GatewayAuth.Simulation.Script
import GatewayAuth.Wire
import GatewayAuth.Proofs.Usage.Steps
import GatewayAuth.Proofs.Usage.Conservation
import GatewayAuth.Proofs.Registry.Steps
import GatewayAuth.Proofs.Registry.Slots
import GatewayAuth.Proofs.Registry.Sound
import GatewayAuth.Proofs.Manager.Steps
import GatewayAuth.Proofs.Manager.Coherent
import GatewayAuth.Proofs.Registry.Drained
import GatewayAuth.Proofs.Manager.Gate
import GatewayAuth.Proofs.Manager.Slots
import GatewayAuth.Proofs.Shutdown.LastFlush
import GatewayAuth.Proofs.Shutdown.Delivered
import GatewayAuth.Proofs.Shutdown.Barrier
import GatewayAuth.Proofs.Cache.Entries
import GatewayAuth.Proofs.Manager.Provenance
import GatewayAuth.Proofs.Manager.Isolation
import GatewayAuth.Proofs.Manager.Lookup
import GatewayAuth.Proofs.Registry.Cells
import GatewayAuth.Proofs.Registry.Creation
import GatewayAuth.Proofs.Registry.Ending
import GatewayAuth.Proofs.Shutdown.Silence
import GatewayAuth.Proofs.Cache.Operations
import GatewayAuth.Proofs.Cache.Shared
import GatewayAuth.Proofs.Cache.Freshness
import GatewayAuth.Proofs.Cache.Capacity
import GatewayAuth.Proofs.Cache.Pacing
import GatewayAuth.Proofs.Cache.Origin
import GatewayAuth.Proofs.Cache.Sweeping
import GatewayAuth.Proofs.Cache.Accounts
import GatewayAuth.Proofs.Registry.Made
import GatewayAuth.Proofs.Dispatch.Consulted
import GatewayAuth.Proofs.Dispatch.Returns
import GatewayAuth.Proofs.Dispatch.Accounted
import GatewayAuth.Proofs.Http.Answers
import GatewayAuth.Proofs.Dispatch.Soundness
import GatewayAuth.Proofs.Dispatch.Direct
import GatewayAuth.Proofs.Dispatch.Policy
import GatewayAuth.Proofs.Http.Refusal
import GatewayAuth.Proofs.Dispatch.Charged
import GatewayAuth.Proofs.Dispatch.Equivalence
import GatewayAuth.Proofs.Dispatch.Completion
import GatewayAuth.Proofs.Usage.Lone
import GatewayAuth.Proofs.Http.Exchanged
import GatewayAuth.Proofs.Simulation.Follows
import GatewayAuth.Proofs.Dispatch.Recorded
import GatewayAuth.Proofs.Shutdown.Lone
import GatewayAuth.Proofs.Dispatch.Booked
import GatewayAuth.Proofs.CommandLine.ExitStatus
import GatewayAuth.Proofs.Manager.Likeness
import GatewayAuth.Proofs.Dispatch.Undone
import GatewayAuth.Proofs.Dispatch.Fallback
import GatewayAuth.Proofs.Dispatch.Degradation
import GatewayAuth.Proofs.Url.Percent
import GatewayAuth.Proofs.Url.Form
import GatewayAuth.Proofs.Url.Path
import GatewayAuth.Proofs.Http.Pairs
import GatewayAuth.Proofs.Http.Latest
import GatewayAuth.Proofs.Redaction.Pattern
import GatewayAuth.Proofs.Redaction.Complete
import GatewayAuth.Proofs.Redaction.Values
import GatewayAuth.Proofs.Http.Logged
import GatewayAuth.Proofs.Settings.Loading
import GatewayAuth.Proofs.Retry
import GatewayAuth.Proofs.Manager.Renewal
import GatewayAuth.Proofs.Json.Grammar
import GatewayAuth.Proofs.Json.Scanning
import GatewayAuth.Proofs.Json.Records
import GatewayAuth.Proofs.Json.Documents
import GatewayAuth.Proofs.Json.Edits
import GatewayAuth.Proofs.Json.Layout
import GatewayAuth.Proofs.Json.Rereading
import GatewayAuth.Proofs.Timestamp
import GatewayAuth.Proofs.ProxyConfig.Shapes
import GatewayAuth.Proofs.ProxyConfig.Edits
import GatewayAuth.Proofs.ProxyConfig.RoundTrip
import GatewayAuth.Proofs.Usage.Saturation
import GatewayAuth.Proofs.Decimal
import GatewayAuth.Proofs.CommandLine.Metric
import GatewayAuth.Proofs.Http.Reason
import GatewayAuth.Proofs.Http.Extensions
import GatewayAuth.Proofs.Cache.Eviction
