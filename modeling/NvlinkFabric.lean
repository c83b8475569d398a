import NvlinkFabric.Lib.FiniteMap
import NvlinkFabric.Lib.BoundedQueue
import NvlinkFabric.Lib.Transition
import NvlinkFabric.Lib.LittleEndian
import NvlinkFabric.Lib.ByteReader
import NvlinkFabric.Lib.IndexedReader
import NvlinkFabric.Lib.Layout
import NvlinkFabric.Lib.Crc
import NvlinkFabric.Lib.SimplePaths
import NvlinkFabric.Lib.Selection
import NvlinkFabric.Wire.Checksum
import NvlinkFabric.Basic
import NvlinkFabric.Enums
import NvlinkFabric.Wire.Frame
import NvlinkFabric.Wire.Accesses
import NvlinkFabric.Wire.Canonical
import NvlinkFabric.Wire.Stream
import NvlinkFabric.Records
import NvlinkFabric.Wire.Evidence
import NvlinkFabric.Declared
import NvlinkFabric.Durable.Codec
import NvlinkFabric.Durable.RoundTrip
import NvlinkFabric.Durable.Layout
import NvlinkFabric.Durable.ArgumentOrder
import NvlinkFabric.Durable.Accesses
import NvlinkFabric.Durable.Canonical
import NvlinkFabric.Corruption
import NvlinkFabric.Registry.ObservationLog
import NvlinkFabric.Registry.Operations
import NvlinkFabric.Worker.Evidence
import NvlinkFabric.Registry.Effects
import NvlinkFabric.Registry.MeasurementHistory
import NvlinkFabric.Registry.TopologyGeneration
import NvlinkFabric.Registry.Refusals
import NvlinkFabric.Registry.Invariant
import NvlinkFabric.Registry.Replays
import NvlinkFabric.Registry.Discovered
import NvlinkFabric.Registry.Restore
import NvlinkFabric.Registry.RecordGenerations
import NvlinkFabric.Registry.Admission
import NvlinkFabric.Durable.Persistence
import NvlinkFabric.Path.Enumerate
import NvlinkFabric.Path.Exact
import NvlinkFabric.Path.Quality
import NvlinkFabric.Path.Candidates
import NvlinkFabric.Path.Governance
import NvlinkFabric.Path.Reference
import NvlinkFabric.Path.Rating
import NvlinkFabric.Path.WorseEvidence
import NvlinkFabric.Route.Policy
import NvlinkFabric.Route.Decision
import NvlinkFabric.Route.Constraints
import NvlinkFabric.Route.Selection
import NvlinkFabric.Route.UsableRoutes
import NvlinkFabric.Route.WorseEvidence
import NvlinkFabric.Route.EndpointAuthority
import NvlinkFabric.Route.MinimumBandwidth
import NvlinkFabric.Route.DefaultPolicy
import NvlinkFabric.Route.RejectedOutcome
import NvlinkFabric.Route.RatedRoutes
import NvlinkFabric.Route.MeasurementUse
import NvlinkFabric.Route.EvidenceReferences
import NvlinkFabric.Route.DiscoveryOrder
import NvlinkFabric.Route.Invalidation
import NvlinkFabric.Route.Restart
import NvlinkFabric.Route.FailClosed
import NvlinkFabric.Route.Direct
import NvlinkFabric.Worker.Incarnations
import NvlinkFabric.Coordinator.Server
import NvlinkFabric.Coordinator.Fencing
import NvlinkFabric.Coordinator.Epochs
import NvlinkFabric.Coordinator.Incarnations
import NvlinkFabric.Coordinator.Malformed
import NvlinkFabric.Coordinator.Declared
import NvlinkFabric.Coordinator.Remote
import NvlinkFabric.Coordinator.Client
import NvlinkFabric.Coordinator.Authority
import NvlinkFabric.Coordinator.LiveCount
import NvlinkFabric.Coordinator.Isolation
import NvlinkFabric.Lib.LockedCell
import NvlinkFabric.Lib.Linearizable
import NvlinkFabric.Registry.Concurrent
import NvlinkFabric.Durable.Crash
import NvlinkFabric.Lib.Framing
import NvlinkFabric.Coordinator.Messages
import NvlinkFabric.Coordinator.Session
import NvlinkFabric.Lib.LastWriter
import NvlinkFabric.Registry.Submitted
import NvlinkFabric.Path.Submissions
import NvlinkFabric.Coordinator.Evidence
import NvlinkFabric.Coordinator.Lifecycle
import NvlinkFabric.Coordinator.Stopped
import NvlinkFabric.Backend.Discovery
import NvlinkFabric.Backend.Fixture
import NvlinkFabric.Backend.Evidence
