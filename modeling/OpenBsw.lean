import OpenBsw.Async.Waiting
import OpenBsw.Blob.Loading
import OpenBsw.Can.FdCanTransceiver
import OpenBsw.Can.ReceiveTask
import OpenBsw.Can.TransmitOrder
import OpenBsw.Can.TxJobQueue
import OpenBsw.Docan.Addressing.Agreement
import OpenBsw.Docan.Can.PhysicalTransceiver
import OpenBsw.Docan.Handshake
import OpenBsw.Docan.Receiver.Liveness
import OpenBsw.Docan.Receiver.Ownership
import OpenBsw.Docan.Transfer
import OpenBsw.Doip.Reception
import OpenBsw.Io.BufferedWriter
import OpenBsw.Io.MemoryQueue.Refinement
import OpenBsw.Io.SplitWriter
import OpenBsw.Lifecycle.Order
import OpenBsw.Logger.EntryBufferRuns
import OpenBsw.Middleware.Core.DatabaseExact
import OpenBsw.Middleware.Core.SkeletonInitialisation
import OpenBsw.Middleware.Memory.Ledger
import OpenBsw.Middleware.Queue.Fifo
import OpenBsw.Routing.PduTransfer
import OpenBsw.Runtime.Accounting
import OpenBsw.Shed.TableRuns
import OpenBsw.Someip.Rpc.Completion
import OpenBsw.Someip.Rpc.Datagrams
import OpenBsw.Someip.Sd.EventGroupProviders
import OpenBsw.Someip.Sd.OptionAgreement
import OpenBsw.Someip.Sd.RebootDetection
import OpenBsw.Someip.Sd.StatusUpdates
import OpenBsw.Someip.Sd.SubscriptionRefinement
import OpenBsw.Someip.Serialization.Consumption
import OpenBsw.Someip.Serialization.Containment
import OpenBsw.Someip.Serialization.StringRoundTrip
import OpenBsw.Someip.Tcp.StreamReassembly
import OpenBsw.Someip.Tp.Delivery
import OpenBsw.Someip.Tp.Timeouts
import OpenBsw.Storage.EepStorage.PlainBlocks
import OpenBsw.Storage.EepStorage.ProtectedBlocks
import OpenBsw.Timer.Cyclic
import OpenBsw.Transport.TransportRouterSimple
import OpenBsw.Uds.FinalResponse
import OpenBsw.Uds.JobTreeRuns
import OpenBsw.Uds.ReadOneByOne
import OpenBsw.Uds.ResponseMatching
import OpenBsw.Util.BuddyRuns
