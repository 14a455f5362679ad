import Praas.Library.TransitionSystem
import Praas.Library.Bytes
import Praas.Library.Decimal
import Praas.Library.ProgramOptions
import Praas.Wire.Messages
import Praas.Wire.InvocationHeader
import Praas.ControlPlane.Redis
import Praas.ControlPlane.Resources
import Praas.ControlPlane.Operations
import Praas.Runtime.SharedMemory
import Praas.Runtime.Process
import Praas.Runtime.SwapRoundTrip
import Praas.System.Model
import Praas.System.Transition
import Praas.ControlPlane.Listing
import Praas.System.Ledger
import Praas.System.Placement
import Praas.System.Activation
import Praas.System.Capacity
import Praas.System.Tenants
import Praas.System.Agreement
import Praas.System.FreshRequests
import Praas.System.SwapInStart
import Praas.Runtime.WorkerMemory
import Praas.System.SwapStorage
import Praas.Execution.Session
import Praas.Execution.PendingInvocations
import Praas.ControlPlane.Tenancy
import Praas.System.WholeRuns
import Praas.Wire.ProcessLink
import Praas.ControlPlane.Dispatch
import Praas.ControlPlane.ProcessMessages
import Praas.System.FailedStart
import Praas.LocalWorker.Allocation
import Praas.LocalWorker.Instances
import Praas.LocalMemory.Messages
import Praas.LocalMemory.Server
import Praas.Execution.Output
import Praas.Execution.BufferQueue
import Praas.Execution.Pool
import Praas.Execution.PoolBuffers
import Praas.Execution.TerminalMessages
import Praas.Execution.RequestStream
import Praas.Execution.ResultMessages
import Praas.Runtime.FailedAllocation
import Praas.Runtime.MemoryOwnership
import Praas.Runtime.ProcessLoop
import Praas.Execution.Segmentation
import Praas.Execution.SingleThread
import Praas.Execution.FunctionsLibrary
import Praas.LocalWorker.ControllerAddress
import Praas.System.RejectedCalls
import Praas.Library.GuardedMap
import Praas.LocalMemory.ObjectCache
import Praas.Library.Places
import Praas.LocalMemory.BusyFlag
import Praas.LocalMemory.Connections
import Praas.LocalMemory.ServerConnections
import Praas.ControlPlane.ProcessPolling
import Praas.ControlPlane.EventLoop
import Praas.ControlPlane.SessionMap
import Praas.Runtime.Isolation
import Praas.Runtime.SessionArguments
import Praas.Runtime.SequentialSessions
import Praas.Runtime.SessionList
import Praas.System.ForeignClosures
import Praas.System.Configuration
import Praas.Runtime.RequestedMemory
import Praas.System.SentRequests
import Praas.Wire.SessionDecoders
import Praas.LocalMemory.ObjectNames
import Praas.LocalWorker.Shutdown
import Praas.LocalMemory.Segmentation
import Praas.Library.Simulation
import Praas.System.ByteLinks
import Praas.System.ByteRefinement
import Praas.System.ByteRealization
import Praas.System.Invocations
import Praas.System.Progress
import Praas.System.Termination
import Praas.System.EndToEnd
