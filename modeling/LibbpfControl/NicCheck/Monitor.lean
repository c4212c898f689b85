import Mathlib.Algebra.Group.Nat.Defs
import LibbpfControl.Machine
import LibbpfControl.Ledger
import LibbpfControl.NicCheck.Interface
import LibbpfControl.NicCheck.Netlink

/-!
# The interface monitor as a machine

One thread starts and stops the monitor (`start_monitor` and `stop_monitor`
must not run concurrently), the monitor thread runs `monitor_loop`, and any
number of threads call `request_refresh`.  Every access to a variable which
another thread may change, and every system call, is a step of its own.

The state is split by who assigns it.  `Resources` belongs to the controlling
thread, `LoopThread` holds what is local to a run of the loop, and `Signals`
is what all of them share.  Descriptors are numbered by their acquisition, so
closing a stale descriptor is seen as a second release.  Sequential
consistency is assumed of the atomics.
-/

namespace LibbpfControl.NicCheck

inductive MonitorStatus where
  | stopped
  | stopping
  | running
  | starting
  | failed
  deriving DecidableEq, Repr

/-- Handlers are copied, compared with the empty function and called; a number
tells them apart. -/
structure Handlers where
  onChange : Option Nat
  onFailure : Option Nat
  deriving DecidableEq, Repr

def Handlers.none : Handlers where
  onChange := Option.none
  onFailure := Option.none

/-- A descriptor of value -1 is `none`. -/
structure Resources where
  wakeFd : Option Nat
  nlSock : Option Nat
  handlers : Handlers
  ledger : Ledger
  deriving DecidableEq, Repr

namespace Resources

def openWake (resources : Resources) : Resources :=
  { resources with
    wakeFd := some resources.ledger.fresh
    ledger := resources.ledger.acquire }

def openNetlink (resources : Resources) : Resources :=
  { resources with
    nlSock := some resources.ledger.fresh
    ledger := resources.ledger.acquire }

/-- `close_fd(wake_fd_)`. -/
def closeWake (resources : Resources) : Resources :=
  match resources.wakeFd with
  | none => resources
  | some fd =>
      { resources with
        wakeFd := none
        ledger := resources.ledger.release fd }

/-- `close_fd(nl_sock_)`. -/
def closeNetlink (resources : Resources) : Resources :=
  match resources.nlSock with
  | none => resources
  | some fd =>
      { resources with
        nlSock := none
        ledger := resources.ledger.release fd }

end Resources

/-- A record of the run.  A number of refreshes stands for the moment at
which so many refreshes had begun. -/
structure MonitorLog where
  /-- The refreshes which the loop has begun. -/
  refreshes : Nat
  /-- What `recvmsg` took from the netlink socket, and when. -/
  consumed : List (Nat × ReceiveOutcome)
  /-- When completed calls of `request_refresh` which left the refresh to the
  loop set `dirty_`, and when they returned. -/
  requested : List (Nat × Nat)
  /-- The snapshots published so far. -/
  published : Nat
  /-- Calls of change handlers, with the snapshot they were given. -/
  delivered : List (Nat × Nat)
  deriving DecidableEq, Repr

structure Signals where
  status : MonitorStatus
  dirty : Bool
  /-- The counter of the eventfd. -/
  counter : Nat
  socket : NetlinkSocket
  /-- Whether a thread holds `refresh_mutex_`. -/
  refreshLocked : Bool
  log : MonitorLog
  deriving DecidableEq, Repr

/-- The largest counter of an eventfd. -/
def eventfdMax : Nat := 2 ^ 64 - 2

/-- Writing 1 to an eventfd; a full counter refuses the write. -/
def eventfdWrite (counter : Nat) : Nat :=
  if counter < eventfdMax then counter + 1 else counter

/-- `wake_monitor`. -/
def Signals.wake (signals : Signals) (resources : Resources) : Signals :=
  if resources.wakeFd.isSome then
    { signals with counter := eventfdWrite signals.counter }
  else signals

@[simp] theorem Signals.wake_status (signals : Signals)
    (resources : Resources) :
    (signals.wake resources).status = signals.status := by
  unfold Signals.wake
  split
  · rfl
  · rfl

@[simp] theorem Signals.wake_dirty (signals : Signals)
    (resources : Resources) :
    (signals.wake resources).dirty = signals.dirty := by
  unfold Signals.wake
  split
  · rfl
  · rfl

@[simp] theorem Signals.wake_socket (signals : Signals)
    (resources : Resources) :
    (signals.wake resources).socket = signals.socket := by
  unfold Signals.wake
  split
  · rfl
  · rfl

@[simp] theorem Signals.wake_log (signals : Signals)
    (resources : Resources) :
    (signals.wake resources).log = signals.log := by
  unfold Signals.wake
  split
  · rfl
  · rfl

theorem eventfdWrite_pos (counter : Nat) : 0 < eventfdWrite counter := by
  unfold eventfdWrite eventfdMax
  split
  · omega
  · omega

inductive RefreshPoint where
  | locking
  /-- Holding `refresh_mutex_`. -/
  | reading
  /-- The mutex is released, `notify_change` is about to test the status and
  to copy the handler. -/
  | notifying (snapshot : Nat)
  | calling (handler snapshot : Nat)
  deriving DecidableEq, Repr

inductive RefreshAction where
  | lock
  | publish
  /-- The interfaces cannot be read, nothing is published. -/
  | abort
  | copyHandler (snapshot : Nat)
  | call (handler snapshot : Nat)
  deriving DecidableEq, Repr

def RefreshAction.enabled (signals : Signals) (point : RefreshPoint) :
    RefreshAction → Bool
  | .lock => point = .locking && !signals.refreshLocked
  | .publish => point = .reading
  | .abort => point = .reading
  | .copyHandler snapshot => point = .notifying snapshot
  | .call handler snapshot => point = .calling handler snapshot

/-- Where the refresh stands after an action, `none` when it is over. -/
def RefreshAction.next (resources : Resources) (signals : Signals) :
    RefreshAction → Option RefreshPoint
  | .lock => some .reading
  | .publish => some (.notifying signals.log.published)
  | .abort => none
  | .copyHandler snapshot =>
      if signals.status = .running then
        resources.handlers.onChange.map fun handler =>
          .calling handler snapshot
      else none
  | .call _ _ => none

def RefreshAction.apply (signals : Signals) : RefreshAction → Signals
  | .lock => { signals with refreshLocked := true }
  | .publish =>
      { signals with
        refreshLocked := false
        log :=
          { signals.log with published := signals.log.published + 1 } }
  | .abort => { signals with refreshLocked := false }
  | .copyHandler _ => signals
  | .call handler snapshot =>
      { signals with
        log :=
          { signals.log with
            delivered := (handler, snapshot) :: signals.log.delivered } }

@[simp] theorem refresh_status (action : RefreshAction)
    (signals : Signals) : (action.apply signals).status = signals.status := by
  cases action with
  | _ => rfl

@[simp] theorem refresh_dirty (action : RefreshAction)
    (signals : Signals) : (action.apply signals).dirty = signals.dirty := by
  cases action with
  | _ => rfl

@[simp] theorem refresh_socket (action : RefreshAction)
    (signals : Signals) :
    (action.apply signals).socket = signals.socket := by
  cases action with
  | _ => rfl

@[simp] theorem refresh_counter (action : RefreshAction)
    (signals : Signals) :
    (action.apply signals).counter = signals.counter := by
  cases action with
  | _ => rfl

inductive LoopPoint where
  /-- The thread runs, the stop callback is not registered. -/
  | entering
  /-- At the condition of the loop. -/
  | head
  | polling (timeoutMs : Int32)
  /-- `poll` has returned, the stop flag is tested next. -/
  | polled
  /-- In `drain_wake`, about to read the eventfd. -/
  | draining
  /-- In `drain_wake` after a read, about to test the status. -/
  | drained
  /-- About to exchange `dirty_`. -/
  | exchanging
  /-- The exchange returned true, `pending` is not assigned yet. -/
  | taken
  | testingNetlink
  /-- In `drain_netlink`, about to test the status. -/
  | checkingStatus (changed : Bool)
  | receiving (changed : Bool)
  /-- `drain_netlink` is left with this result. -/
  | received (changed : Bool)
  | testingDeadline
  | refreshing (point : RefreshPoint)
  /-- The loop is left with a failure. -/
  | failing (error : InterfaceError)
  /-- The status is `kFailed`, the handler is not copied yet. -/
  | notifying (error : InterfaceError)
  | calling (handler : Nat) (error : InterfaceError)
  | finished
  deriving DecidableEq, Repr

/-- The events of one return of `poll`. -/
structure Readiness where
  netlink : Bool
  netlinkError : Bool
  wake : Bool
  deriving DecidableEq, Repr

/-- A session runs from the creation of a monitor thread to its join. -/
structure Session where
  /-- The failure handler passed to `start_monitor`. -/
  passed : Option Nat
  /-- Whether the failure exit of the loop found the status `kRunning`. -/
  foundRunning : Bool
  /-- The failure handlers the thread has called. -/
  invoked : List Nat
  deriving DecidableEq, Repr

structure LoopThread where
  point : LoopPoint
  /-- The stop flag of the thread. -/
  stop : Bool
  /-- Whether a stop request has a callback to run. -/
  registered : Bool
  pending : Bool
  deadline : Int
  ready : Readiness
  session : Session
  /-- Whether the queue was overrun since `pending` was last set. -/
  unscheduled : Bool
  deriving DecidableEq, Repr

namespace LoopThread

def start (onFailure : Option Nat) : LoopThread where
  point := .entering
  stop := false
  registered := false
  pending := false
  deadline := 0
  ready := { netlink := false, netlinkError := false, wake := false }
  session := { passed := onFailure, foundRunning := false, invoked := [] }
  unscheduled := false

def nanosPerMilli : Int := 1000000

/-- Clocks count nanoseconds.  The timeout is an `int` of milliseconds, and a
negative one is no timeout. -/
def timeoutMs (thread : LoopThread) (now : Int) : Int32 :=
  if thread.pending then
    if thread.deadline ≤ now then 0
    else Int32.ofInt ((thread.deadline - now).tdiv nanosPerMilli)
  else -1

/-- `pending = true` with a new deadline. -/
def schedule (thread : LoopThread) (debounce now : Int) : LoopThread :=
  { thread with
    pending := true
    deadline := now + debounce * nanosPerMilli
    unscheduled := false }

/-- The end of the thread function, where the stop callback is destroyed. -/
def finish (thread : LoopThread) : LoopThread :=
  { thread with point := .finished, registered := false }

end LoopThread

inductive LoopAction where
  | registerCallback
  | exit
  | enterPoll (now : Int)
  /-- `poll` returns events, or none after its timeout. -/
  | pollReturns (timeoutMs : Int32) (ready : Readiness)
  | pollInterrupted (timeoutMs : Int32)
  | pollFails (timeoutMs : Int32)
  | testWake
  | readWake
  | testRunning
  | exchangeDirty
  | scheduleDirty (now : Int)
  | testNetlink
  | checkStatus (changed : Bool)
  | receive (changed : Bool)
  | receiveInterrupted (changed : Bool)
  | receiveFails (changed : Bool)
  | finishReceiving (changed : Bool) (now : Int)
  | testDeadline (now : Int)
  | refresh (point : RefreshPoint) (action : RefreshAction)
  | compareExchange (error : InterfaceError)
  | copyFailureHandler (error : InterfaceError)
  | callFailureHandler (handler : Nat) (error : InterfaceError)
  deriving DecidableEq, Repr

/-- What `poll` reports is so when it returns; it may have looked at a
descriptor before something happened to it. -/
def Readiness.holds (ready : Readiness) (signals : Signals) : Bool :=
  (!ready.netlink || !signals.socket.queue.isEmpty) &&
    (!ready.netlinkError ||
      (signals.socket.overrun || signals.socket.broken)) &&
    (!ready.wake || decide (0 < signals.counter))

def Readiness.any (ready : Readiness) : Bool :=
  ready.netlink || ready.netlinkError || ready.wake

def LoopAction.enabled (signals : Signals) (thread : LoopThread) :
    LoopAction → Bool
  | .registerCallback => thread.point = .entering
  | .exit =>
      (thread.point = .head || thread.point = .polled) && thread.stop
  | .enterPoll _ => thread.point = .head && !thread.stop
  | .pollReturns timeoutMs ready =>
      thread.point = .polling timeoutMs &&
        (ready.any || decide (0 ≤ timeoutMs)) && ready.holds signals
  | .pollInterrupted timeoutMs => thread.point = .polling timeoutMs
  | .pollFails timeoutMs => thread.point = .polling timeoutMs
  | .testWake => thread.point = .polled && !thread.stop
  | .readWake => thread.point = .draining
  | .testRunning => thread.point = .drained
  | .exchangeDirty => thread.point = .exchanging
  | .scheduleDirty _ => thread.point = .taken
  | .testNetlink => thread.point = .testingNetlink
  | .checkStatus changed => thread.point = .checkingStatus changed
  | .receive changed => thread.point = .receiving changed
  | .receiveInterrupted changed => thread.point = .receiving changed
  | .receiveFails changed => thread.point = .receiving changed
  | .finishReceiving changed _ => thread.point = .received changed
  | .testDeadline _ => thread.point = .testingDeadline
  | .refresh point action =>
      thread.point = .refreshing point && action.enabled signals point
  | .compareExchange error => thread.point = .failing error
  | .copyFailureHandler error => thread.point = .notifying error
  | .callFailureHandler handler error =>
      thread.point = .calling handler error

/-- The branch of the loop on the error and input events of the socket. -/
def LoopThread.netlinkPoint (thread : LoopThread) : LoopPoint :=
  if thread.ready.netlinkError then .failing .netlinkReceiveError
  else if thread.ready.netlink then .checkingStatus false
  else .testingDeadline

/-- Where the receive loop stands after `recvmsg` returned. -/
def receivePoint (changed : Bool) (outcome : ReceiveOutcome) : LoopPoint :=
  if outcome.continues then .checkingStatus (changed || outcome.changes)
  else .received changed

/-- The effect of an action on what is local to the thread. -/
def LoopAction.move (debounce : Int) (resources : Resources)
    (signals : Signals) (thread : LoopThread) : LoopAction → LoopThread
  | .registerCallback =>
      { thread with point := .head, registered := !thread.stop }
  | .exit => thread.finish
  | .enterPoll now =>
      { thread with point := .polling (thread.timeoutMs now) }
  | .pollReturns _ ready => { thread with point := .polled, ready := ready }
  | .pollInterrupted _ => { thread with point := .head }
  | .pollFails _ => { thread with point := .failing .pollError }
  | .testWake =>
      { thread with
        point := if thread.ready.wake then .draining else .testingNetlink }
  | .readWake =>
      { thread with
        point := if 0 < signals.counter then .drained else .exchanging }
  | .testRunning =>
      { thread with
        point :=
          if signals.status = .running then .draining else .exchanging }
  | .exchangeDirty =>
      { thread with
        point := if signals.dirty then .taken else .testingNetlink }
  | .scheduleDirty now =>
      { thread.schedule debounce now with point := .testingNetlink }
  | .testNetlink => { thread with point := thread.netlinkPoint }
  | .checkStatus changed =>
      { thread with
        point :=
          if signals.status = .running then .receiving changed
          else .received changed }
  | .receive changed =>
      { thread with point := receivePoint changed signals.socket.recvmsg.2 }
  | .receiveInterrupted changed =>
      { thread with point := receivePoint changed .interrupted }
  | .receiveFails changed =>
      { thread with point := receivePoint changed .failed }
  | .finishReceiving changed now =>
      { (if changed then thread.schedule debounce now else thread) with
        point := .testingDeadline }
  | .testDeadline now =>
      if thread.pending && decide (thread.deadline ≤ now) then
        { thread with pending := false, point := .refreshing .locking }
      else { thread with point := .head }
  | .refresh _ action =>
      { thread with
        point :=
          match action.next resources signals with
          | some next => .refreshing next
          | none => .head }
  | .compareExchange error =>
      if signals.status = .running then
        { thread with
          point := .notifying error
          session := { thread.session with foundRunning := true } }
      else thread.finish
  | .copyFailureHandler error =>
      match resources.handlers.onFailure with
      | some handler => { thread with point := .calling handler error }
      | none => thread.finish
  | .callFailureHandler handler _ =>
      { thread.finish with
        session :=
          { thread.session with
            invoked := thread.session.invoked ++ [handler] } }

/-- The effect of an action on what the threads share. -/
def LoopAction.apply (resources : Resources) (signals : Signals)
    (thread : LoopThread) : LoopAction → Signals
  | .registerCallback =>
      -- A callback registered after the stop request runs at once.
      if thread.stop then signals.wake resources else signals
  | .readWake => { signals with counter := 0 }
  | .exchangeDirty => { signals with dirty := false }
  | .receive _ =>
      { signals with
        socket := signals.socket.recvmsg.1
        log :=
          { signals.log with
            consumed :=
              (signals.log.refreshes, signals.socket.recvmsg.2) ::
                signals.log.consumed } }
  | .testDeadline now =>
      if thread.pending && decide (thread.deadline ≤ now) then
        { signals with
          log :=
            { signals.log with refreshes := signals.log.refreshes + 1 } }
      else signals
  | .refresh _ action => action.apply signals
  | .compareExchange _ =>
      if signals.status = .running then { signals with status := .failed }
      else signals
  | _ => signals

inductive StartPoint where
  | checkFailed
  /-- About to test for `kStopped`; `seen` is what the first test read. -/
  | testStopped (seen : MonitorStatus)
  | storeStarting
  | openEventfd
  | openSocket
  | bindSocket
  | closeNetlink
  | closeWake
  | storeStopped
  | storeHandlers
  | storeDirty
  | wake
  | storeRunning
  | createThread
  deriving DecidableEq, Repr

inductive StopPoint where
  | check
  | storeStopping
  | requestStop
  | runCallback
  | join
  | closeNetlink
  | closeWake
  | clearHandlers
  | storeStopped
  deriving DecidableEq, Repr

/-- Where `stop_monitor` was called. -/
inductive StopCaller where
  | user
  /-- `start_monitor` found the status `kFailed`. -/
  | restart (handlers : Handlers)
  /-- `start_monitor` could not create the thread. -/
  | unwind
  deriving DecidableEq, Repr

inductive CallResult where
  | started (success : Bool)
  | stopped
  deriving DecidableEq, Repr

/-- The thread which calls `start_monitor` and `stop_monitor`; between two
calls it is idle. -/
inductive Controller where
  | idle (last : Option CallResult)
  | start (handlers : Handlers) (point : StartPoint)
  | stop (caller : StopCaller) (point : StopPoint)
  deriving DecidableEq, Repr

def Controller.isIdle : Controller → Bool
  | .idle _ => true
  | _ => false

/-- Where control goes when `stop_monitor` returns. -/
def StopCaller.resume : StopCaller → Controller
  | .user => .idle (some .stopped)
  | .restart handlers => .start handlers (.testStopped .failed)
  | .unwind => .idle (some (.started false))

/-- The threads which call `request_refresh`. -/
inductive RefreshCaller where
  | idle
  /-- The monitor was running, `dirty_` is not stored yet. -/
  | monitoring
  /-- `dirty_` was stored when so many refreshes had begun, the eventfd is not
  written yet. -/
  | stored (refreshes : Nat)
  | refreshing (point : RefreshPoint)
  deriving DecidableEq, Repr

structure Monitor where
  debounce : Int
  controller : Controller
  resources : Resources
  signals : Signals
  /-- `monitor_thread_`, which is joinable until it is joined. -/
  thread : Option LoopThread
  callers : Nat → RefreshCaller
  /-- The sessions whose thread was joined. -/
  ended : List Session

inductive MonitorStep where
  | callStart (handlers : Handlers)
  | callStop
  /-- The next step of `start_monitor`; `succeeds` is the outcome of the call
  to the system which it makes, if it makes one. -/
  | start (handlers : Handlers) (point : StartPoint) (succeeds : Bool)
  | stop (caller : StopCaller) (point : StopPoint)
  | loop (action : LoopAction)
  | requestRefresh (caller : Nat)
  | storeDirty (caller : Nat)
  | wakeMonitor (caller refreshes : Nat)
  | refresh (caller : Nat) (point : RefreshPoint) (action : RefreshAction)
  /-- A datagram is queued. -/
  | deliver (bytes : List UInt8)
  | overrun
  | breakSocket
  deriving DecidableEq, Repr

namespace Monitor

def setStatus (state : Monitor) (status : MonitorStatus) : Monitor :=
  { state with signals := { state.signals with status := status } }

/-- The session ended by `join`. -/
def endSession (state : Monitor) : Monitor :=
  { state with
    thread := none
    ended := (state.thread.map LoopThread.session).toList ++ state.ended }

def goto (state : Monitor) (controller : Controller) : Monitor :=
  { state with controller := controller }

def applyStart (state : Monitor) (handlers : Handlers) (succeeds : Bool) :
    StartPoint → Monitor
  | .checkFailed =>
      state.goto
        (if state.signals.status = .failed then
          .stop (.restart handlers) .check
        else .start handlers (.testStopped state.signals.status))
  | .testStopped _ =>
      state.goto
        (if state.signals.status = .stopped then
          .start handlers .storeStarting
        else .idle (some (.started false)))
  | .storeStarting =>
      (state.setStatus .starting).goto (.start handlers .openEventfd)
  | .openEventfd =>
      if succeeds then
        { state with
          resources := state.resources.openWake
          signals := { state.signals with counter := 0 }
          controller := .start handlers .openSocket }
      else state.goto (.start handlers .storeStopped)
  | .openSocket =>
      if succeeds then
        { state with
          resources := state.resources.openNetlink
          signals := { state.signals with socket := .fresh }
          controller := .start handlers .bindSocket }
      else state.goto (.start handlers .closeWake)
  | .bindSocket =>
      state.goto
        (.start handlers
          (if succeeds then .storeHandlers else .closeNetlink))
  | .closeNetlink =>
      { state with
        resources := state.resources.closeNetlink
        controller := .start handlers .closeWake }
  | .closeWake =>
      { state with
        resources := state.resources.closeWake
        controller := .start handlers .storeStopped }
  | .storeStopped =>
      (state.setStatus .stopped).goto (.idle (some (.started false)))
  | .storeHandlers =>
      { state with
        resources := { state.resources with handlers := handlers }
        controller := .start handlers .storeDirty }
  | .storeDirty =>
      { state with
        signals := { state.signals with dirty := true }
        controller := .start handlers .wake }
  | .wake =>
      { state with
        signals := state.signals.wake state.resources
        controller := .start handlers .storeRunning }
  | .storeRunning =>
      (state.setStatus .running).goto (.start handlers .createThread)
  | .createThread =>
      if succeeds then
        { state with
          thread := some (.start handlers.onFailure)
          controller := .idle (some (.started true)) }
      else state.goto (.stop .unwind .check)

def applyStop (state : Monitor) (caller : StopCaller) : StopPoint → Monitor
  | .check =>
      state.goto
        (if state.signals.status = .stopped ∧ state.thread.isNone then
          caller.resume
        else .stop caller .storeStopping)
  | .storeStopping =>
      (state.setStatus .stopping).goto
        (.stop caller
          (if state.thread.isSome then .requestStop else .closeNetlink))
  | .requestStop =>
      { state with
        thread := state.thread.map fun thread => { thread with stop := true }
        controller := .stop caller .runCallback }
  | .runCallback =>
      { state with
        signals :=
          if state.thread.any LoopThread.registered then
            state.signals.wake state.resources
          else state.signals
        controller := .stop caller .join }
  | .join => state.endSession.goto (.stop caller .closeNetlink)
  | .closeNetlink =>
      { state with
        resources := state.resources.closeNetlink
        controller := .stop caller .closeWake }
  | .closeWake =>
      { state with
        resources := state.resources.closeWake
        controller := .stop caller .clearHandlers }
  | .clearHandlers =>
      { state with
        resources := { state.resources with handlers := .none }
        controller := .stop caller .storeStopped }
  | .storeStopped => (state.setStatus .stopped).goto caller.resume

def setCaller (state : Monitor) (caller : Nat) (now : RefreshCaller) :
    Monitor :=
  { state with callers := Function.update state.callers caller now }

def enabled (state : Monitor) : MonitorStep → Bool
  | .callStart _ => state.controller.isIdle
  | .callStop => state.controller.isIdle
  | .start handlers point _ => state.controller = .start handlers point
  | .stop caller point =>
      state.controller = .stop caller point &&
        (point != .join ||
          state.thread.any fun thread => thread.point = .finished)
  | .loop action => state.thread.any fun thread =>
      action.enabled state.signals thread
  | .requestRefresh caller => state.callers caller = .idle
  | .storeDirty caller => state.callers caller = .monitoring
  | .wakeMonitor caller refreshes =>
      state.callers caller = .stored refreshes
  | .refresh caller point action =>
      state.callers caller = .refreshing point &&
        action.enabled state.signals point
  | .deliver _ => state.resources.nlSock.isSome
  | .overrun => state.resources.nlSock.isSome
  | .breakSocket => state.resources.nlSock.isSome

def applyLoop (state : Monitor) (action : LoopAction) (thread : LoopThread) :
    Monitor :=
  { state with
    thread :=
      some (action.move state.debounce state.resources state.signals thread)
    signals := action.apply state.resources state.signals thread }

def setSocket (state : Monitor) (socket : NetlinkSocket) : Monitor :=
  { state with signals := { state.signals with socket := socket } }

def apply (state : Monitor) : MonitorStep → Monitor
  | .callStart handlers => state.goto (.start handlers .checkFailed)
  | .callStop => state.goto (.stop .user .check)
  | .start handlers point succeeds =>
      state.applyStart handlers succeeds point
  | .stop caller point => state.applyStop caller point
  | .loop action =>
      match state.thread with
      | some thread => state.applyLoop action thread
      | none => state
  | .requestRefresh caller =>
      state.setCaller caller
        (if state.signals.status = .running then .monitoring
        else .refreshing .locking)
  | .storeDirty caller =>
      { state.setCaller caller (.stored state.signals.log.refreshes) with
        signals := { state.signals with dirty := true } }
  | .wakeMonitor caller refreshes =>
      let woken := state.signals.wake state.resources
      { state.setCaller caller .idle with
        signals :=
          { woken with
            log :=
              { woken.log with
                requested :=
                  (refreshes, woken.log.refreshes) ::
                    woken.log.requested } } }
  | .refresh caller _ action =>
      { state.setCaller caller
          (match action.next state.resources state.signals with
          | some next => .refreshing next
          | none => .idle) with
        signals := action.apply state.signals }
  | .deliver bytes =>
      state.setSocket
        { state.signals.socket with
          queue := state.signals.socket.queue ++ [bytes] }
  | .overrun =>
      { state.setSocket { state.signals.socket with overrun := true } with
        thread :=
          state.thread.map fun thread => { thread with unscheduled := true } }
  | .breakSocket =>
      state.setSocket { state.signals.socket with broken := true }

/-- The loader after its construction, before the first call. -/
def constructed (debounce : Int) : Monitor where
  debounce := debounce
  controller := .idle none
  resources :=
    { wakeFd := none, nlSock := none, handlers := .none, ledger := .empty }
  signals :=
    { status := .stopped
      dirty := false
      counter := 0
      socket := .fresh
      refreshLocked := false
      log :=
        { refreshes := 0
          consumed := []
          requested := []
          published := 0
          delivered := [] } }
  thread := none
  callers := fun _ => .idle
  ended := []

end Monitor

def monitorMachine : Machine Monitor MonitorStep :=
  .guarded (fun state => ∃ debounce, state = .constructed debounce)
    Monitor.enabled Monitor.apply

theorem constructed_initial (debounce : Int) :
    monitorMachine.initial (.constructed debounce) :=
  ⟨debounce, rfl⟩

/-- What a step of the machine finds and does. -/
inductive Monitor.Moves (state : Monitor) : MonitorStep → Monitor → Prop where
  | callStart {handlers : Handlers} {last : Option CallResult}
      (idle : state.controller = .idle last) :
      state.Moves (.callStart handlers)
        (state.goto (.start handlers .checkFailed))
  | callStop {last : Option CallResult}
      (idle : state.controller = .idle last) :
      state.Moves .callStop (state.goto (.stop .user .check))
  | start {handlers : Handlers} {point : StartPoint} {succeeds : Bool}
      (stands : state.controller = .start handlers point) :
      state.Moves (.start handlers point succeeds)
        (state.applyStart handlers succeeds point)
  | stop {caller : StopCaller} {point : StopPoint}
      (stands : state.controller = .stop caller point)
      (joinable : point = .join → ∃ thread, state.thread = some thread ∧
        thread.point = .finished) :
      state.Moves (.stop caller point) (state.applyStop caller point)
  | loop {action : LoopAction} {thread : LoopThread}
      (found : state.thread = some thread)
      (isEnabled : action.enabled state.signals thread = true) :
      state.Moves (.loop action) (state.applyLoop action thread)
  | requestRefresh {caller : Nat} (stands : state.callers caller = .idle) :
      state.Moves (.requestRefresh caller)
        (state.apply (.requestRefresh caller))
  | storeDirty {caller : Nat} (stands : state.callers caller = .monitoring) :
      state.Moves (.storeDirty caller) (state.apply (.storeDirty caller))
  | wakeMonitor {caller refreshes : Nat}
      (stands : state.callers caller = .stored refreshes) :
      state.Moves (.wakeMonitor caller refreshes)
        (state.apply (.wakeMonitor caller refreshes))
  | refresh {caller : Nat} {point : RefreshPoint} {action : RefreshAction}
      (stands : state.callers caller = .refreshing point)
      (isEnabled : action.enabled state.signals point = true) :
      state.Moves (.refresh caller point action)
        (state.apply (.refresh caller point action))
  | deliver {bytes : List UInt8}
      (isOpen : state.resources.nlSock.isSome = true) :
      state.Moves (.deliver bytes) (state.apply (.deliver bytes))
  | overrun (isOpen : state.resources.nlSock.isSome = true) :
      state.Moves .overrun (state.apply .overrun)
  | breakSocket (isOpen : state.resources.nlSock.isSome = true) :
      state.Moves .breakSocket (state.apply .breakSocket)

theorem Controller.eq_idle {controller : Controller}
    (isIdle : controller.isIdle = true) :
    ∃ last, controller = .idle last := by
  cases controller with
  | idle last => exact ⟨last, rfl⟩
  | start handlers point => cases isIdle
  | stop caller point => cases isIdle

theorem Monitor.moves_of_step {state target : Monitor} {label : MonitorStep}
    (stepped : monitorMachine.step state label = some target) :
    state.Moves label target := by
  obtain ⟨isEnabled, rfl⟩ := Machine.enabled_of_guarded stepped
  cases label with
  | callStart handlers =>
      obtain ⟨last, idle⟩ := Controller.eq_idle isEnabled
      exact .callStart idle
  | callStop =>
      obtain ⟨last, idle⟩ := Controller.eq_idle isEnabled
      exact .callStop idle
  | start handlers point succeeds =>
      exact .start (of_decide_eq_true isEnabled)
  | stop caller point =>
      simp only [enabled, Bool.and_eq_true, Bool.or_eq_true,
        bne_iff_ne, decide_eq_true_eq, Option.any_eq_true] at isEnabled
      exact .stop isEnabled.1 fun isJoin =>
        isEnabled.2.resolve_left (absurd isJoin)
  | loop action =>
      obtain ⟨thread, found, isEnabled⟩ :=
        (Option.any_eq_true _ _).mp isEnabled
      have moved := Moves.loop found isEnabled
      simpa only [apply, found] using moved
  | requestRefresh caller =>
      exact .requestRefresh (of_decide_eq_true isEnabled)
  | storeDirty caller => exact .storeDirty (of_decide_eq_true isEnabled)
  | wakeMonitor caller refreshes =>
      exact .wakeMonitor (of_decide_eq_true isEnabled)
  | refresh caller point action =>
      simp only [enabled, Bool.and_eq_true, decide_eq_true_eq] at isEnabled
      exact .refresh isEnabled.1 isEnabled.2
  | deliver bytes => exact .deliver isEnabled
  | overrun => exact .overrun isEnabled
  | breakSocket => exact .breakSocket isEnabled

def sampleHandlers : Handlers where
  onChange := some 1
  onFailure := some 2

/-- The steps of `start_monitor` from the test for `kStopped` on. -/
def startSteps (handlers : Handlers) (seen : MonitorStatus) :
    List MonitorStep :=
  [.testStopped seen, .storeStarting, .openEventfd, .openSocket, .bindSocket,
    .storeHandlers, .storeDirty, .wake, .storeRunning,
    .createThread].map (.start handlers · true)

/-- The first start of a constructed loader. -/
def firstStart : List MonitorStep :=
  [.callStart sampleHandlers, .start sampleHandlers .checkFailed true] ++
    startSteps sampleHandlers .stopped

end LibbpfControl.NicCheck
