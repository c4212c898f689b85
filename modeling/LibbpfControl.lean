import LibbpfControl.BpfControl.Clear
import LibbpfControl.BpfControl.FailedCalls
import LibbpfControl.BpfControl.Layout
import LibbpfControl.BpfControl.Operations
import LibbpfControl.BpfControl.Ownership
import LibbpfControl.BpfControl.Wrapper
import LibbpfControl.BpfTool.Attacher
import LibbpfControl.BpfTool.Convergence
import LibbpfControl.BpfTool.DetachRace
import LibbpfControl.BpfTool.Filter
import LibbpfControl.BpfTool.Isolation
import LibbpfControl.BpfTool.LoadProgram
import LibbpfControl.BpfTool.NoLostUpdate
import LibbpfControl.BpfTool.Pass
import LibbpfControl.BpfTool.PassAgreement
import LibbpfControl.BpfTool.PassReversal
import LibbpfControl.BpfTool.PassSoundness
import LibbpfControl.BpfTool.PolicyCallback
import LibbpfControl.BpfTool.PolicyPublication
import LibbpfControl.BpfTool.ProgLoader
import LibbpfControl.BpfTool.Quiescence
import LibbpfControl.BpfTool.Reconciler
import LibbpfControl.BpfTool.Recovery
import LibbpfControl.BpfTool.RequestQueue
import LibbpfControl.BpfTool.Retries
import LibbpfControl.BpfTool.Scheduling
import LibbpfControl.BpfTool.Shutdown
import LibbpfControl.BpfTool.StaleRetries
import LibbpfControl.BpfTool.Supervision
import LibbpfControl.BpfTool.TcKernel
import LibbpfControl.Keyed
import LibbpfControl.Ledger
import LibbpfControl.Liveness
import LibbpfControl.Machine
import LibbpfControl.Main.EventLoop
import LibbpfControl.Main.Monitoring
import LibbpfControl.Main.PinnedMaps
import LibbpfControl.Main.Termination
import LibbpfControl.NicCheck.ChangeCallbacks
import LibbpfControl.NicCheck.Debounce
import LibbpfControl.NicCheck.DrainNetlink
import LibbpfControl.NicCheck.Freshness
import LibbpfControl.NicCheck.Interface
import LibbpfControl.NicCheck.Lifecycle
import LibbpfControl.NicCheck.Monitor
import LibbpfControl.NicCheck.Netlink
import LibbpfControl.NicCheck.Overrun
import LibbpfControl.NicCheck.RefreshTriggers
import LibbpfControl.NicCheck.Snapshot
import LibbpfControl.NicCheck.StopReturns
import LibbpfControl.NicCheck.StopWake
import LibbpfControl.Program
import LibbpfControl.SlotQueue
import LibbpfControl.TcBpf.Mirroring
import LibbpfControl.TcBpf.PacketParser
import LibbpfControl.Utils.TerminationSignalWaiter
