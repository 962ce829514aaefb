import ShapingRouter.AsyncQueue
import ShapingRouter.BucketQueue
import ShapingRouter.Burst
import ShapingRouter.BurstOrder
import ShapingRouter.CallResults
import ShapingRouter.ChainAccounting
import ShapingRouter.ChainConfiguration
import ShapingRouter.ChainFates
import ShapingRouter.ChainGates
import ShapingRouter.ChainOnWire
import ShapingRouter.ChainOrder
import ShapingRouter.ChainPlaces
import ShapingRouter.ChainProgress
import ShapingRouter.ChainSteps
import ShapingRouter.ChainWakeups
import ShapingRouter.CommandLine
import ShapingRouter.ConeNats
import ShapingRouter.ConfiguredChain
import ShapingRouter.ConnectionEntry
import ShapingRouter.ConnectionProgress
import ShapingRouter.ConnectionReclaim
import ShapingRouter.ConnectionReferences
import ShapingRouter.ConnectionTuple
import ShapingRouter.DelayCurve
import ShapingRouter.DelayFilters
import ShapingRouter.DelayTiming
import ShapingRouter.DeleterLock
import ShapingRouter.FilterChain
import ShapingRouter.FilterReferences
import ShapingRouter.Fragments
import ShapingRouter.Ipv4Fidelity
import ShapingRouter.Ipv6Fidelity
import ShapingRouter.LibnetLayout
import ShapingRouter.Library.ByteOrder
import ShapingRouter.Library.Checked
import ShapingRouter.Library.Cycle
import ShapingRouter.Library.Deadlines
import ShapingRouter.Library.Holdings
import ShapingRouter.Library.LockOrder
import ShapingRouter.Library.Pipeline
import ShapingRouter.Library.Probe
import ShapingRouter.Library.ReferenceCounts
import ShapingRouter.Library.Run
import ShapingRouter.Library.WeakOrder
import ShapingRouter.Library.WeakTable
import ShapingRouter.LockedChain
import ShapingRouter.LossFilters
import ShapingRouter.LossSchedule
import ShapingRouter.MapperInvariant
import ShapingRouter.NatBox
import ShapingRouter.NatDecision
import ShapingRouter.NatFilters
import ShapingRouter.NatHistory
import ShapingRouter.NatInChain
import ShapingRouter.NatInvariant
import ShapingRouter.NatMapper
import ShapingRouter.NatStrictness
import ShapingRouter.NatWindow
import ShapingRouter.OutputLibnet
import ShapingRouter.OutputStage
import ShapingRouter.Packet
import ShapingRouter.PacketBounds
import ShapingRouter.PacketDecode
import ShapingRouter.PortAllocation
import ShapingRouter.PortForwarding
import ShapingRouter.PortNoninterference
import ShapingRouter.QueueDelivery
import ShapingRouter.QueueInterleaved
import ShapingRouter.QueueShutdown
import ShapingRouter.Router
import ShapingRouter.SequentialCalls
import ShapingRouter.SequentialHandling
import ShapingRouter.SequentialNat
import ShapingRouter.SoloCalls
import ShapingRouter.StartUp
import ShapingRouter.SymmetricNat
import ShapingRouter.ThreadedNat
import ShapingRouter.TokenBucket
import ShapingRouter.TokenConformance
import ShapingRouter.TokenRefill
import ShapingRouter.TokenService
import ShapingRouter.TupleOperators
import ShapingRouter.VerdictConservation
import ShapingRouter.WireAgreement
import ShapingRouter.WrittenPacket
