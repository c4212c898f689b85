import LibbpfControl.NicCheck.Monitor

/-!
# The lifecycle of the monitor

Only the controlling thread assigns the descriptors, the handlers and the
thread object; the monitor thread interferes by one assignment, its exchange
of `kRunning` for `kFailed`.  What is held at each point of `start_monitor`
and `stop_monitor` is therefore a matter of the point alone, up to that
exchange, and every unwinding path can be followed to its return.
-/

namespace LibbpfControl.NicCheck

/-- The members which hold descriptors. -/
inductive DescriptorMember where
  | wakeFd
  | nlSock
  deriving DecidableEq, Repr

namespace Resources

def descriptor (resources : Resources) : DescriptorMember → Option Nat
  | .wakeFd => resources.wakeFd
  | .nlSock => resources.nlSock

variable {resources : Resources}

@[simp] theorem closeWake_wakeFd (resources : Resources) :
    resources.closeWake.wakeFd = none := by
  unfold closeWake
  split
  · assumption
  · rfl

@[simp] theorem closeWake_nlSock (resources : Resources) :
    resources.closeWake.nlSock = resources.nlSock := by
  unfold closeWake
  split
  · rfl
  · rfl

@[simp] theorem closeWake_handlers (resources : Resources) :
    resources.closeWake.handlers = resources.handlers := by
  unfold closeWake
  split
  · rfl
  · rfl

@[simp] theorem closeNetlink_nlSock (resources : Resources) :
    resources.closeNetlink.nlSock = none := by
  unfold closeNetlink
  split
  · assumption
  · rfl

@[simp] theorem closeNetlink_wakeFd (resources : Resources) :
    resources.closeNetlink.wakeFd = resources.wakeFd := by
  unfold closeNetlink
  split
  · rfl
  · rfl

@[simp] theorem closeNetlink_handlers (resources : Resources) :
    resources.closeNetlink.handlers = resources.handlers := by
  unfold closeNetlink
  split
  · rfl
  · rfl

/-- Everything opened is held in one member or was closed once. -/
def Balanced (resources : Resources) : Prop :=
  resources.ledger.OwnedBy resources.descriptor

theorem Balanced.openWake (balanced : resources.Balanced)
    (closed : resources.wakeFd = none) : resources.openWake.Balanced := by
  have stored : resources.openWake.descriptor =
      Function.update resources.descriptor .wakeFd
        (some resources.ledger.fresh) := by
    funext member
    cases member with
    | wakeFd => rfl
    | nlSock => rfl
  rw [Resources.Balanced, stored]
  exact Ledger.OwnedBy.acquire balanced closed

theorem Balanced.openNetlink (balanced : resources.Balanced)
    (closed : resources.nlSock = none) :
    resources.openNetlink.Balanced := by
  have stored : resources.openNetlink.descriptor =
      Function.update resources.descriptor .nlSock
        (some resources.ledger.fresh) := by
    funext member
    cases member with
    | wakeFd => rfl
    | nlSock => rfl
  rw [Resources.Balanced, stored]
  exact Ledger.OwnedBy.acquire balanced closed

theorem Balanced.closeWake (balanced : resources.Balanced) :
    resources.closeWake.Balanced := by
  unfold Resources.closeWake
  split
  · exact balanced
  · rename_i fd isOpen
    have emptied : { resources with
          wakeFd := none
          ledger := resources.ledger.release fd }.descriptor =
        Function.update resources.descriptor .wakeFd none := by
      funext member
      cases member with
      | wakeFd => rfl
      | nlSock => rfl
    rw [Resources.Balanced, emptied]
    exact Ledger.OwnedBy.release balanced isOpen

theorem Balanced.closeNetlink (balanced : resources.Balanced) :
    resources.closeNetlink.Balanced := by
  unfold Resources.closeNetlink
  split
  · exact balanced
  · rename_i fd isOpen
    have emptied : { resources with
          nlSock := none
          ledger := resources.ledger.release fd }.descriptor =
        Function.update resources.descriptor .nlSock none := by
      funext member
      cases member with
      | wakeFd => rfl
      | nlSock => rfl
    rw [Resources.Balanced, emptied]
    exact Ledger.OwnedBy.release balanced isOpen

end Resources

/-- The part of the state which the controlling thread builds up and takes
down. -/
structure Footing where
  status : MonitorStatus
  resources : Resources
  threaded : Bool

def Monitor.footing (state : Monitor) : Footing where
  status := state.signals.status
  resources := state.resources
  threaded := state.thread.isSome

namespace Footing

structure Stopped (footing : Footing) : Prop where
  status : footing.status = .stopped
  wakeFd : footing.resources.wakeFd = none
  nlSock : footing.resources.nlSock = none
  handlers : footing.resources.handlers = .none
  unthreaded : footing.threaded = false

structure Live (footing : Footing) : Prop where
  status : footing.status = .running ∨ footing.status = .failed
  wakeFd : footing.resources.wakeFd.isSome = true
  nlSock : footing.resources.nlSock.isSome = true
  threaded : footing.threaded = true

/-- What holds whenever a call returns. -/
def Settled (footing : Footing) : Prop :=
  footing.Stopped ∨ footing.Live

/-- No thread yet, and exactly these descriptors and handlers. -/
structure Building (footing : Footing) (status : MonitorStatus)
    (wake netlink : Bool) (handlers : Handlers) : Prop where
  status : footing.status = status
  wakeFd : footing.resources.wakeFd.isSome = wake
  nlSock : footing.resources.nlSock.isSome = netlink
  handlers : footing.resources.handlers = handlers
  unthreaded : footing.threaded = false

def StartStage (footing : Footing) (handlers : Handlers) :
    StartPoint → Prop
  | .checkFailed => footing.Settled
  | .testStopped seen =>
      footing.Settled ∧ (seen = .running → footing.Live)
  | .storeStarting => footing.Stopped
  | .openEventfd => footing.Building .starting false false .none
  | .openSocket => footing.Building .starting true false .none
  | .bindSocket => footing.Building .starting true true .none
  | .closeNetlink => footing.Building .starting true true .none
  | .closeWake => footing.Building .starting true false .none
  | .storeStopped => footing.Building .starting false false .none
  | .storeHandlers => footing.Building .starting true true .none
  | .storeDirty => footing.Building .starting true true handlers
  | .wake => footing.Building .starting true true handlers
  | .storeRunning => footing.Building .starting true true handlers
  | .createThread => footing.Building .running true true handlers

/-- Only where the thread could not be created is `stop_monitor` called in a
state no call returns in. -/
def StopCalled (footing : Footing) : StopCaller → Prop
  | .unwind => footing.status = .running ∧ footing.threaded = false
  | _ => footing.Settled

/-- Taking down, with what is already gone. -/
structure Unwinding (footing : Footing) (netlink wake handlers : Bool) :
    Prop where
  status : footing.status = .stopping
  unthreaded : footing.threaded = false
  nlSock : netlink = true → footing.resources.nlSock = none
  wakeFd : wake = true → footing.resources.wakeFd = none
  handlers : handlers = true → footing.resources.handlers = .none

def StopStage (footing : Footing) (caller : StopCaller) : StopPoint → Prop
  | .check => footing.StopCalled caller
  | .storeStopping => True
  | .requestStop => footing.status = .stopping
  | .runCallback => footing.status = .stopping
  | .join => footing.status = .stopping
  | .closeNetlink => footing.Unwinding false false false
  | .closeWake => footing.Unwinding true false false
  | .clearHandlers => footing.Unwinding true true false
  | .storeStopped => footing.Unwinding true true true

/-- What holds where the controlling thread stands. -/
def Stage (footing : Footing) : Controller → Prop
  | .idle _ => footing.Settled
  | .start handlers point => footing.StartStage handlers point
  | .stop caller point => footing.StopStage caller point

variable {footing : Footing}

theorem Building.stopped
    (building : footing.Building .starting false false .none) :
    { footing with status := .stopped }.Stopped where
  status := rfl
  wakeFd := by simpa using building.wakeFd
  nlSock := by simpa using building.nlSock
  handlers := building.handlers
  unthreaded := building.unthreaded

theorem Unwinding.stopped (unwinding : footing.Unwinding true true true) :
    { footing with status := .stopped }.Stopped where
  status := rfl
  wakeFd := unwinding.wakeFd rfl
  nlSock := unwinding.nlSock rfl
  handlers := unwinding.handlers rfl
  unthreaded := unwinding.unthreaded

theorem Settled.live (settled : footing.Settled)
    (nonstopped : footing.status ≠ .stopped) : footing.Live :=
  settled.resolve_left fun stopped => nonstopped stopped.status

theorem Settled.failed (settled : footing.Settled)
    (running : footing.status = .running) :
    { footing with status := .failed }.Live := by
  have live := settled.live (by rw [running]; decide)
  exact ⟨.inr rfl, live.wakeFd, live.nlSock, live.threaded⟩

theorem Stopped.starting (stopped : footing.Stopped) :
    { footing with status := .starting }.Building
      .starting false false .none where
  status := rfl
  wakeFd := by simp [stopped.wakeFd]
  nlSock := by simp [stopped.nlSock]
  handlers := stopped.handlers
  unthreaded := stopped.unthreaded

theorem Building.closeNetlink {status : MonitorStatus} {wake netlink : Bool}
    {handlers : Handlers}
    (building : footing.Building status wake netlink handlers) :
    { footing with resources := footing.resources.closeNetlink }.Building
      status wake false handlers where
  status := building.status
  wakeFd := by simpa using building.wakeFd
  nlSock := by simp
  handlers := by simpa using building.handlers
  unthreaded := building.unthreaded

theorem Building.closeWake {status : MonitorStatus} {wake netlink : Bool}
    {handlers : Handlers}
    (building : footing.Building status wake netlink handlers) :
    { footing with resources := footing.resources.closeWake }.Building
      status false netlink handlers where
  status := building.status
  wakeFd := by simp
  nlSock := by simpa using building.nlSock
  handlers := by simpa using building.handlers
  unthreaded := building.unthreaded

theorem Settled.stopped (settled : footing.Settled)
    (stopped : footing.status = .stopped) : footing.Stopped := by
  apply settled.resolve_right
  intro live
  rcases live.status with running | failed
  · exact absurd (running.symm.trans stopped) (by decide)
  · exact absurd (failed.symm.trans stopped) (by decide)

theorem Unwinding.closeNetlink
    (unwinding : footing.Unwinding false false false) :
    { footing with resources := footing.resources.closeNetlink }.Unwinding
      true false false where
  status := unwinding.status
  unthreaded := unwinding.unthreaded
  nlSock := fun _ => Resources.closeNetlink_nlSock _
  wakeFd := by simp
  handlers := by simp

theorem Unwinding.closeWake
    (unwinding : footing.Unwinding true false false) :
    { footing with resources := footing.resources.closeWake }.Unwinding
      true true false where
  status := unwinding.status
  unthreaded := unwinding.unthreaded
  nlSock := fun gone =>
    (Resources.closeWake_nlSock _).trans (unwinding.nlSock gone)
  wakeFd := fun _ => Resources.closeWake_wakeFd _
  handlers := by simp

/-- Every caller of `stop_monitor` goes on from a stopped monitor. -/
theorem Stopped.resume (stopped : footing.Stopped) (caller : StopCaller) :
    footing.Stage caller.resume := by
  cases caller with
  | user => exact .inl stopped
  | restart handlers => exact ⟨.inl stopped, by simp⟩
  | unwind => exact .inl stopped

/-- The exchange of the monitor thread keeps every stage. -/
theorem Stage.failed {controller : Controller}
    (stage : footing.Stage controller) (running : footing.status = .running)
    (threaded : footing.threaded = true) :
    { footing with status := .failed }.Stage controller := by
  have notBuilding : ∀ {status wake netlink handlers},
      ¬ footing.Building status wake netlink handlers := by
    intro status wake netlink handlers building
    exact absurd (threaded.symm.trans building.unthreaded) (by decide)
  have notStopping : footing.status ≠ .stopping := by
    rw [running]
    decide
  cases controller with
  | idle last => exact .inr (Settled.failed stage running)
  | start handlers point =>
      cases point with
      | checkFailed => exact .inr (Settled.failed stage running)
      | testStopped seen =>
          exact ⟨.inr (stage.1.failed running),
            fun _ => stage.1.failed running⟩
      | storeStarting =>
          exact absurd (running.symm.trans stage.status) (by decide)
      | _ => exact absurd stage notBuilding
  | stop caller point =>
      cases point with
      | check =>
          cases caller with
          | unwind => exact absurd (threaded.symm.trans stage.2) (by decide)
          | _ => exact .inr (Settled.failed stage running)
      | storeStopping => exact trivial
      | requestStop => exact absurd stage notStopping
      | runCallback => exact absurd stage notStopping
      | join => exact absurd stage notStopping
      | _ => exact absurd stage.status notStopping

end Footing

variable {state target : Monitor} {label : MonitorStep}

theorem stage_start {handlers : Handlers} {point : StartPoint}
    (stage : state.footing.StartStage handlers point) (succeeds : Bool) :
    (state.applyStart handlers succeeds point).footing.Stage
      (state.applyStart handlers succeeds point).controller := by
  cases point with
  | checkFailed =>
      have settled : state.footing.Settled := stage
      simp only [Monitor.applyStart, Monitor.goto]
      split
      · exact settled
      · exact ⟨settled, fun running => settled.live (by
          rw [show state.footing.status = .running from running]
          decide)⟩
  | testStopped seen =>
      simp only [Monitor.applyStart, Monitor.goto]
      split
      · rename_i stopped
        exact stage.1.stopped stopped
      · exact stage.1
  | storeStarting => exact Footing.Stopped.starting stage
  | openEventfd =>
      cases succeeds with
      | false => exact stage
      | true => exact ⟨stage.status, rfl, stage.nlSock, stage.handlers,
          stage.unthreaded⟩
  | openSocket =>
      cases succeeds with
      | false => exact stage
      | true => exact ⟨stage.status, stage.wakeFd, rfl, stage.handlers,
          stage.unthreaded⟩
  | bindSocket =>
      cases succeeds with
      | false => exact stage
      | true => exact stage
  | closeNetlink => exact Footing.Building.closeNetlink stage
  | closeWake => exact Footing.Building.closeWake stage
  | storeStopped => exact .inl stage.stopped
  | storeHandlers =>
      exact ⟨stage.status, stage.wakeFd, stage.nlSock, rfl,
        stage.unthreaded⟩
  | storeDirty => exact stage
  | wake =>
      exact ⟨(Signals.wake_status _ _).trans stage.status, stage.wakeFd,
        stage.nlSock, stage.handlers, stage.unthreaded⟩
  | storeRunning =>
      exact ⟨rfl, stage.wakeFd, stage.nlSock, stage.handlers,
        stage.unthreaded⟩
  | createThread =>
      cases succeeds with
      | false => exact ⟨stage.status, stage.unthreaded⟩
      | true => exact .inr ⟨.inl stage.status, stage.wakeFd, stage.nlSock,
          rfl⟩

theorem stage_stop {caller : StopCaller} {point : StopPoint}
    (stage : state.footing.StopStage caller point) :
    (state.applyStop caller point).footing.Stage
      (state.applyStop caller point).controller := by
  cases point with
  | check =>
      simp only [Monitor.applyStop, Monitor.goto]
      split
      · rename_i idle
        cases caller with
        | unwind => exact absurd (idle.1.symm.trans stage.1) (by decide)
        | user => exact .inl (Footing.Settled.stopped stage idle.1)
        | restart handlers =>
            have stopped := Footing.Settled.stopped stage idle.1
            exact stopped.resume (.restart handlers)
      · exact trivial
  | storeStopping =>
      simp only [Monitor.applyStop, Monitor.goto]
      split
      · rfl
      · rename_i unthreaded
        exact ⟨rfl, eq_false_of_ne_true unthreaded, by simp, by simp,
          by simp⟩
  | requestStop => exact stage
  | runCallback =>
      have kept : (state.applyStop caller .runCallback).signals.status =
          state.signals.status := by
        simp only [Monitor.applyStop]
        split
        · exact Signals.wake_status _ _
        · rfl
      exact kept.trans stage
  | join => exact ⟨stage, rfl, by simp, by simp, by simp⟩
  | closeNetlink => exact Footing.Unwinding.closeNetlink stage
  | closeWake => exact Footing.Unwinding.closeWake stage
  | clearHandlers =>
      exact ⟨stage.status, stage.unthreaded, stage.nlSock, stage.wakeFd,
        fun _ => rfl⟩
  | storeStopped => exact stage.stopped.resume caller

/-- The descriptors stay accounted for. -/
theorem balanced_start {handlers : Handlers} {point : StartPoint}
    (balanced : state.resources.Balanced)
    (stage : state.footing.StartStage handlers point) (succeeds : Bool) :
    (state.applyStart handlers succeeds point).resources.Balanced := by
  cases point with
  | openEventfd =>
      cases succeeds with
      | false => exact balanced
      | true => exact balanced.openWake (by
          simpa [Monitor.footing] using stage.wakeFd)
  | openSocket =>
      cases succeeds with
      | false => exact balanced
      | true => exact balanced.openNetlink (by
          simpa [Monitor.footing] using stage.nlSock)
  | closeNetlink => exact balanced.closeNetlink
  | closeWake => exact balanced.closeWake
  | createThread =>
      cases succeeds with
      | false => exact balanced
      | true => exact balanced
  | _ => exact balanced

theorem balanced_stop (balanced : state.resources.Balanced)
    (caller : StopCaller) (point : StopPoint) :
    (state.applyStop caller point).resources.Balanced := by
  cases point with
  | closeNetlink => exact balanced.closeNetlink
  | closeWake => exact balanced.closeWake
  | _ => exact balanced

/-- The steps from the failure exit on. -/
def LoopAction.reports : LoopAction → Bool
  | .compareExchange _ => true
  | .copyFailureHandler _ => true
  | .callFailureHandler _ _ => true
  | _ => false

/-- Before the failure exit the status is only read. -/
theorem quiet_status {resources : Resources} {signals : Signals}
    {thread : LoopThread} {action : LoopAction}
    (quiet : action.reports = false) :
    (action.apply resources signals thread).status = signals.status := by
  cases action with
  | compareExchange error => cases quiet
  | registerCallback =>
      simp only [LoopAction.apply]
      split
      · exact Signals.wake_status _ _
      · rfl
  | testDeadline now =>
      simp only [LoopAction.apply]
      split
      · rfl
      · rfl
  | refresh point action => exact refresh_status action signals
  | _ => rfl

/-- The only assignment of the monitor thread to the status. -/
theorem loop_status (action : LoopAction) (resources : Resources)
    (signals : Signals) (thread : LoopThread) :
    (action.apply resources signals thread).status = signals.status ∨
      signals.status = .running ∧
        (action.apply resources signals thread).status = .failed := by
  cases reports : action.reports with
  | false => exact .inl (quiet_status reports)
  | true =>
      cases action with
      | compareExchange error =>
          simp only [LoopAction.apply]
          split
          · exact .inr ⟨‹_›, rfl⟩
          · exact .inl rfl
      | copyFailureHandler error => exact .inl rfl
      | callFailureHandler handler error => exact .inl rfl
      | _ => cases reports

theorem stage_loop {thread : LoopThread} (action : LoopAction)
    (stage : state.footing.Stage state.controller)
    (found : state.thread = some thread) :
    (state.applyLoop action thread).footing.Stage state.controller := by
  have threaded : state.footing.threaded = true := by
    simp [Monitor.footing, found]
  rcases loop_status action state.resources state.signals thread with
    same | ⟨running, failed⟩
  · have kept : (state.applyLoop action thread).footing = state.footing := by
      simp [Monitor.footing, Monitor.applyLoop, same, found]
    rw [kept]
    exact stage
  · have exchanged : (state.applyLoop action thread).footing =
        { state.footing with status := .failed } := by
      simp [Monitor.footing, Monitor.applyLoop, failed, found]
    rw [exchanged]
    exact stage.failed running threaded

/-- What the failure exit of a finished session did. -/
def Session.Settled (session : Session) : Prop :=
  session.invoked =
    if session.foundRunning then session.passed.toList else []

/-- What a session has done at each point of the loop. -/
def Session.At (session : Session) : LoopPoint → Prop
  | .notifying _ => session.foundRunning = true ∧ session.invoked = []
  | .calling handler _ =>
      session.foundRunning = true ∧ session.invoked = [] ∧
        session.passed = some handler
  | .finished => session.Settled
  | _ => session.foundRunning = false ∧ session.invoked = []

/-- A session whose loop has not been left by a failure. -/
def Session.Fresh (session : Session) : Prop :=
  session.foundRunning = false ∧ session.invoked = []

theorem Session.Fresh.settled {session : Session} (fresh : session.Fresh) :
    session.Settled := by
  simp [Settled, fresh.1, fresh.2]

/-- The points between the failure exit and the end of the thread. -/
def LoopPoint.reporting : LoopPoint → Bool
  | .notifying _ => true
  | .calling _ _ => true
  | _ => false

theorem Session.Fresh.at {session : Session} (fresh : session.Fresh)
    {point : LoopPoint} (quiet : point.reporting = false) :
    session.At point := by
  cases point with
  | notifying error => cases quiet
  | calling handler error => cases quiet
  | finished => exact fresh.settled
  | _ => exact fresh

section LoopMove

variable {debounce : Int} {resources : Resources} {signals : Signals}
  {thread : LoopThread} {action : LoopAction}

theorem receivePoint_reporting (changed : Bool) (outcome : ReceiveOutcome) :
    (receivePoint changed outcome).reporting = false := by
  unfold receivePoint
  split
  · rfl
  · rfl

theorem netlinkPoint_reporting (thread : LoopThread) :
    thread.netlinkPoint.reporting = false := by
  unfold LoopThread.netlinkPoint
  split
  · rfl
  · split
    · rfl
    · rfl

/-- The steps before the failure exit leave the session alone. -/
theorem quiet_move (quiet : action.reports = false) :
    (action.move debounce resources signals thread).session =
        thread.session ∧
      (action.move debounce resources signals thread).point.reporting =
        false := by
  cases action with
  | compareExchange error => cases quiet
  | copyFailureHandler error => cases quiet
  | callFailureHandler handler error => cases quiet
  | testNetlink => exact ⟨rfl, netlinkPoint_reporting thread⟩
  | receive changed => exact ⟨rfl, receivePoint_reporting _ _⟩
  | receiveInterrupted changed =>
      exact ⟨rfl, receivePoint_reporting changed .interrupted⟩
  | receiveFails changed =>
      exact ⟨rfl, receivePoint_reporting changed .failed⟩
  | finishReceiving changed now =>
      cases changed with
      | false => exact ⟨rfl, rfl⟩
      | true => exact ⟨rfl, rfl⟩
  | testDeadline now =>
      simp only [LoopAction.move]
      split
      · exact ⟨rfl, rfl⟩
      · exact ⟨rfl, rfl⟩
  | registerCallback => exact ⟨rfl, rfl⟩
  | exit => exact ⟨rfl, rfl⟩
  | enterPoll now => exact ⟨rfl, rfl⟩
  | pollReturns timeoutMs ready => exact ⟨rfl, rfl⟩
  | pollInterrupted timeoutMs => exact ⟨rfl, rfl⟩
  | pollFails timeoutMs => exact ⟨rfl, rfl⟩
  | scheduleDirty now => exact ⟨rfl, rfl⟩
  | _ =>
      refine ⟨rfl, ?_⟩
      simp only [LoopAction.move]
      split
      · rfl
      · rfl

/-- Neither in `poll` nor with a snapshot to deliver. -/
def LoopPoint.plain : LoopPoint → Bool
  | .polling _ => false
  | .refreshing (.notifying _) => false
  | .refreshing (.calling _ _) => false
  | _ => true

/-- The steps which may lead to another point. -/
def LoopAction.plain : LoopAction → Bool
  | .enterPoll _ => false
  | .refresh _ _ => false
  | _ => true

theorem receivePoint_plain (changed : Bool) (outcome : ReceiveOutcome) :
    (receivePoint changed outcome).plain = true := by
  unfold receivePoint
  split
  · rfl
  · rfl

theorem netlinkPoint_plain (thread : LoopThread) :
    thread.netlinkPoint.plain = true := by
  unfold LoopThread.netlinkPoint
  split
  · rfl
  · split
    · rfl
    · rfl

theorem plain_move (debounce : Int) (resources : Resources)
    (signals : Signals) (thread : LoopThread)
    (plain : action.plain = true) :
    (action.move debounce resources signals thread).point.plain = true := by
  cases action with
  | enterPoll now => cases plain
  | refresh point action => cases plain
  | testNetlink => exact netlinkPoint_plain thread
  | receive changed => exact receivePoint_plain _ _
  | receiveInterrupted changed => exact receivePoint_plain changed .interrupted
  | receiveFails changed => exact receivePoint_plain changed .failed
  | registerCallback => rfl
  | exit => rfl
  | pollReturns timeoutMs ready => rfl
  | pollInterrupted timeoutMs => rfl
  | pollFails timeoutMs => rfl
  | scheduleDirty now => rfl
  | finishReceiving changed now => rfl
  | callFailureHandler handler error => rfl
  | _ =>
      simp only [LoopAction.move]
      split
      · rfl
      · rfl

theorem move_passed (debounce : Int) (resources : Resources)
    (signals : Signals) (thread : LoopThread) (action : LoopAction) :
    (action.move debounce resources signals thread).session.passed =
      thread.session.passed := by
  cases reports : action.reports with
  | false => exact congrArg Session.passed (quiet_move reports).1
  | true =>
      cases action with
      | callFailureHandler handler error => rfl
      | compareExchange error =>
          simp only [LoopAction.move]
          split
          · rfl
          · rfl
      | copyFailureHandler error =>
          simp only [LoopAction.move]
          split
          · rfl
          · rfl
      | _ => cases reports

theorem quiet_enabled (quiet : action.reports = false)
    (isEnabled : action.enabled signals thread = true) :
    thread.point.reporting = false ∧ thread.point ≠ .finished := by
  cases action with
  | compareExchange error => cases quiet
  | copyFailureHandler error => cases quiet
  | callFailureHandler handler error => cases quiet
  | exit =>
      simp only [LoopAction.enabled, Bool.and_eq_true, Bool.or_eq_true,
        decide_eq_true_eq] at isEnabled
      rcases isEnabled.1 with stands | stands
      · simp [stands, LoopPoint.reporting]
      · simp [stands, LoopPoint.reporting]
  | _ =>
      simp only [LoopAction.enabled, Bool.and_eq_true,
        decide_eq_true_eq] at isEnabled
      simp [isEnabled, LoopPoint.reporting]

theorem quiet_fresh (quiet : action.reports = false)
    (session : thread.session.At thread.point)
    (isEnabled : action.enabled signals thread = true) :
    thread.session.Fresh := by
  obtain ⟨silent, unfinished⟩ := quiet_enabled quiet isEnabled
  cases stands : thread.point with
  | notifying error => simp [stands, LoopPoint.reporting] at silent
  | calling handler error => simp [stands, LoopPoint.reporting] at silent
  | finished => exact absurd stands unfinished
  | _ =>
      rw [stands] at session
      exact session

theorem session_move
    (passed : resources.handlers.onFailure = thread.session.passed)
    (session : thread.session.At thread.point)
    (isEnabled : action.enabled signals thread = true) :
    (action.move debounce resources signals thread).session.At
      (action.move debounce resources signals thread).point := by
  cases reports : action.reports with
  | false =>
      obtain ⟨same, quiet⟩ := quiet_move reports
      rw [same]
      exact (quiet_fresh reports session isEnabled).at quiet
  | true =>
      cases action with
      | compareExchange error =>
          have stands : thread.point = .failing error :=
            of_decide_eq_true isEnabled
          rw [stands] at session
          simp only [LoopAction.move]
          split
          · exact ⟨rfl, session.2⟩
          · exact Session.Fresh.settled session
      | copyFailureHandler error =>
          have stands : thread.point = .notifying error :=
            of_decide_eq_true isEnabled
          rw [stands] at session
          simp only [LoopAction.move]
          split
          · rename_i handler copied
            exact ⟨session.1, session.2, passed.symm.trans copied⟩
          · rename_i copied
            simp [LoopThread.finish, Session.At, Session.Settled, session.1,
              session.2, passed.symm.trans copied]
      | callFailureHandler handler error =>
          have stands : thread.point = .calling handler error :=
            of_decide_eq_true isEnabled
          rw [stands] at session
          obtain ⟨found, none, passed⟩ := session
          simp [LoopAction.move, LoopThread.finish, Session.At,
            Session.Settled, found, none, passed]
      | _ => cases reports

end LoopMove

structure Monitor.Sound (state : Monitor) : Prop where
  stage : state.footing.Stage state.controller
  balanced : state.resources.Balanced
  ended : ∀ session ∈ state.ended, session.Settled
  session : ∀ thread, state.thread = some thread →
    thread.session.At thread.point
  /-- The handler of the session is not replaced while its thread runs. -/
  passed : ∀ thread, state.thread = some thread →
    state.resources.handlers.onFailure = thread.session.passed

/-- What a session has done and where its thread stands. -/
def LoopThread.course (thread : LoopThread) : Session × LoopPoint :=
  (thread.session, thread.point)

theorem course_origin {before after : Option LoopThread}
    (same : after.map LoopThread.course = before.map LoopThread.course)
    {thread : LoopThread} (found : after = some thread) :
    ∃ origin, before = some origin ∧ origin.session = thread.session ∧
      origin.point = thread.point := by
  rw [found, Option.map_some] at same
  obtain ⟨origin, present, course⟩ := Option.map_eq_some_iff.mp same.symm
  exact ⟨origin, present, congrArg Prod.fst course,
    congrArg Prod.snd course⟩

theorem footing_of_same
    (sameStatus : target.signals.status = state.signals.status)
    (sameResources : target.resources = state.resources)
    (sameCourse : target.thread.map LoopThread.course =
      state.thread.map LoopThread.course) :
    target.footing = state.footing := by
  have sameThreaded := congrArg Option.isSome sameCourse
  simp only [Option.isSome_map] at sameThreaded
  simp [Monitor.footing, sameStatus, sameResources, sameThreaded]

/-- Steps which change none of this. -/
theorem Monitor.Sound.frame (sound : state.Sound)
    (sameController : target.controller = state.controller)
    (sameStatus : target.signals.status = state.signals.status)
    (sameResources : target.resources = state.resources)
    (sameCourse : target.thread.map LoopThread.course =
      state.thread.map LoopThread.course)
    (sameEnded : target.ended = state.ended) : target.Sound where
  stage := by
    rw [footing_of_same sameStatus sameResources sameCourse, sameController]
    exact sound.stage
  balanced := by
    rw [sameResources]
    exact sound.balanced
  ended := by
    rw [sameEnded]
    exact sound.ended
  session := by
    intro thread found
    obtain ⟨origin, present, sameSession, samePoint⟩ :=
      course_origin sameCourse found
    have known := sound.session origin present
    rw [sameSession, samePoint] at known
    exact known
  passed := by
    intro thread found
    obtain ⟨origin, present, sameSession, _⟩ :=
      course_origin sameCourse found
    have known := sound.passed origin present
    rw [sameSession] at known
    rw [sameResources]
    exact known

/-- What `start_monitor` does to the sessions. -/
inductive StartEffect (state : Monitor) (handlers : Handlers)
    (point : StartPoint) (after : Monitor) : Prop where
  | none (sameThread : after.thread = state.thread)
      (sameEnded : after.ended = state.ended)
      (sameHandlers : after.resources.handlers = state.resources.handlers)
  | handlers (stands : point = .storeHandlers)
      (sameThread : after.thread = state.thread)
      (sameEnded : after.ended = state.ended)
  | thread (stands : point = .createThread)
      (created : after.thread = some (.start handlers.onFailure))
      (sameEnded : after.ended = state.ended)
      (sameResources : after.resources = state.resources)

theorem start_effect (state : Monitor) (handlers : Handlers)
    (point : StartPoint) (succeeds : Bool) :
    StartEffect state handlers point
      (state.applyStart handlers succeeds point) := by
  cases point with
  | createThread =>
      cases succeeds with
      | false => exact .none rfl rfl rfl
      | true => exact .thread rfl rfl rfl rfl
  | openEventfd =>
      cases succeeds with
      | false => exact .none rfl rfl rfl
      | true => exact .none rfl rfl rfl
  | openSocket =>
      cases succeeds with
      | false => exact .none rfl rfl rfl
      | true => exact .none rfl rfl rfl
  | closeNetlink =>
      exact .none rfl rfl (Resources.closeNetlink_handlers _)
  | closeWake => exact .none rfl rfl (Resources.closeWake_handlers _)
  | storeHandlers => exact .handlers rfl rfl rfl
  | _ => exact .none rfl rfl rfl

theorem Monitor.Sound.stage_at {controller : Controller}
    (sound : state.Sound) (stands : state.controller = controller) :
    state.footing.Stage controller := by
  rw [← stands]
  exact sound.stage

theorem Monitor.thread_eq_none
    (unthreaded : state.footing.threaded = false) :
    state.thread = none := by
  simpa [Monitor.footing] using unthreaded

/-- A step of `start_monitor` as the other threads see it.  A step which does
more than move the controlling thread finds no loop beside it. -/
inductive StartView (state : Monitor) (handlers : Handlers)
    (point : StartPoint) (after : Monitor) : Prop where
  | passed (controller : Controller) (moved : after = state.goto controller)
  | threadless (before : state.thread = none)
      (sameThread : after.thread = none)
      (sameCallers : after.callers = state.callers)
      (sameLog : after.signals.log = state.signals.log)
  | created (stands : point = .createThread) (before : state.thread = none)
      (moved : after = { state with
        thread := some (.start handlers.onFailure)
        controller := .idle (some (.started true)) })

theorem start_view {handlers : Handlers} {point : StartPoint}
    (sound : state.Sound)
    (stands : state.controller = .start handlers point) (succeeds : Bool) :
    StartView state handlers point
      (state.applyStart handlers succeeds point) := by
  have stage : state.footing.StartStage handlers point := sound.stage_at stands
  cases point with
  | checkFailed => exact .passed _ rfl
  | testStopped seen => exact .passed _ rfl
  | openEventfd =>
      have unthreaded := Monitor.thread_eq_none stage.unthreaded
      cases succeeds with
      | false => exact .passed _ rfl
      | true => exact .threadless unthreaded unthreaded rfl rfl
  | openSocket =>
      have unthreaded := Monitor.thread_eq_none stage.unthreaded
      cases succeeds with
      | false => exact .passed _ rfl
      | true => exact .threadless unthreaded unthreaded rfl rfl
  | wake =>
      have unthreaded := Monitor.thread_eq_none stage.unthreaded
      exact .threadless unthreaded unthreaded rfl (Signals.wake_log _ _)
  | createThread =>
      cases succeeds with
      | false => exact .passed _ rfl
      | true =>
          exact .created rfl (Monitor.thread_eq_none stage.unthreaded) rfl
  | _ =>
      have unthreaded := Monitor.thread_eq_none stage.unthreaded
      exact .threadless unthreaded unthreaded rfl rfl

theorem sound_start {handlers : Handlers} {point : StartPoint}
    (sound : state.Sound)
    (stands : state.controller = .start handlers point) (succeeds : Bool) :
    (state.applyStart handlers succeeds point).Sound := by
  have stage : state.footing.StartStage handlers point := sound.stage_at stands
  have kept := stage_start stage succeeds
  have balanced := balanced_start sound.balanced stage succeeds
  cases start_effect state handlers point succeeds with
  | none sameThread sameEnded sameHandlers =>
      exact ⟨kept, balanced, by rw [sameEnded]; exact sound.ended,
        by rw [sameThread]; exact sound.session,
        by rw [sameThread, sameHandlers]; exact sound.passed⟩
  | handlers atHandlers sameThread sameEnded =>
      subst atHandlers
      refine ⟨kept, balanced, by rw [sameEnded]; exact sound.ended,
        by rw [sameThread]; exact sound.session, ?_⟩
      intro thread found
      rw [sameThread] at found
      cases (Monitor.thread_eq_none stage.unthreaded).symm.trans found
  | thread atCreation created sameEnded sameResources =>
      subst atCreation
      refine ⟨kept, balanced, by rw [sameEnded]; exact sound.ended, ?_, ?_⟩
      · intro thread found
        cases created.symm.trans found
        exact ⟨rfl, rfl⟩
      · intro thread found
        cases created.symm.trans found
        rw [sameResources]
        exact congrArg Handlers.onFailure stage.handlers

theorem sound_stop {caller : StopCaller} {point : StopPoint}
    (sound : state.Sound) (stands : state.controller = .stop caller point)
    (joinable : point = .join → ∃ thread, state.thread = some thread ∧
      thread.point = .finished) :
    (state.applyStop caller point).Sound := by
  have stage : state.footing.StopStage caller point := sound.stage_at stands
  have kept := stage_stop stage
  have balanced := balanced_stop sound.balanced caller point
  cases point with
  | requestStop =>
      refine ⟨kept, balanced, sound.ended, ?_, ?_⟩
      · intro thread found
        obtain ⟨origin, present, rfl⟩ := Option.map_eq_some_iff.mp found
        exact sound.session origin present
      · intro thread found
        obtain ⟨origin, present, rfl⟩ := Option.map_eq_some_iff.mp found
        exact sound.passed origin present
  | join =>
      obtain ⟨thread, present, finished⟩ := joinable rfl
      have settled : thread.session.Settled := by
        have known := sound.session thread present
        rw [finished] at known
        exact known
      refine ⟨kept, balanced, ?_, by simp [Monitor.applyStop,
        Monitor.goto, Monitor.endSession], by simp [Monitor.applyStop,
        Monitor.goto, Monitor.endSession]⟩
      intro session member
      simp only [Monitor.applyStop, Monitor.goto, Monitor.endSession,
        present, Option.map_some, Option.toList_some, List.singleton_append,
        List.mem_cons] at member
      rcases member with rfl | earlier
      · exact settled
      · exact sound.ended session earlier
  | clearHandlers =>
      refine ⟨kept, balanced, sound.ended, sound.session, ?_⟩
      intro thread found
      cases (Monitor.thread_eq_none stage.unthreaded).symm.trans found
  | closeNetlink =>
      refine ⟨kept, balanced, sound.ended, sound.session, ?_⟩
      intro thread found
      cases (Monitor.thread_eq_none stage.unthreaded).symm.trans found
  | closeWake =>
      refine ⟨kept, balanced, sound.ended, sound.session, ?_⟩
      intro thread found
      cases (Monitor.thread_eq_none stage.unthreaded).symm.trans found
  | _ => exact ⟨kept, balanced, sound.ended, sound.session, sound.passed⟩

theorem sound_loop {thread : LoopThread} {action : LoopAction}
    (sound : state.Sound) (found : state.thread = some thread)
    (isEnabled : action.enabled state.signals thread = true) :
    (state.applyLoop action thread).Sound where
  stage := stage_loop action sound.stage found
  balanced := sound.balanced
  ended := sound.ended
  session := by
    intro later same
    cases same
    exact session_move (sound.passed thread found)
      (sound.session thread found) isEnabled
  passed := by
    intro later same
    cases same
    rw [move_passed]
    exact sound.passed thread found

theorem sound_step (sound : state.Sound) (moves : state.Moves label target) :
    target.Sound := by
  cases moves with
  | callStart idle =>
      have settled : state.footing.Settled := by
        have known := sound.stage
        rw [idle] at known
        exact known
      exact ⟨settled, sound.balanced, sound.ended, sound.session,
        sound.passed⟩
  | callStop idle =>
      have settled : state.footing.Settled := by
        have known := sound.stage
        rw [idle] at known
        exact known
      exact ⟨settled, sound.balanced, sound.ended, sound.session,
        sound.passed⟩
  | start stands => exact sound_start sound stands _
  | stop stands joinable => exact sound_stop sound stands joinable
  | loop found isEnabled => exact sound_loop sound found isEnabled
  | requestRefresh stands => exact sound.frame rfl rfl rfl rfl rfl
  | storeDirty stands => exact sound.frame rfl rfl rfl rfl rfl
  | wakeMonitor stands =>
      exact sound.frame rfl (Signals.wake_status _ _) rfl rfl rfl
  | refresh stands isEnabled =>
      exact sound.frame rfl (refresh_status _ _) rfl rfl rfl
  | deliver isOpen => exact sound.frame rfl rfl rfl rfl rfl
  | overrun isOpen =>
      have sameCourse : (state.apply .overrun).thread.map
          LoopThread.course = state.thread.map LoopThread.course := by
        simp only [Monitor.apply, Option.map_map]
        rfl
      exact sound.frame rfl rfl rfl sameCourse rfl
  | breakSocket isOpen => exact sound.frame rfl rfl rfl rfl rfl

theorem sound_constructed (debounce : Int) :
    (Monitor.constructed debounce).Sound where
  stage := .inl ⟨rfl, rfl, rfl, rfl, rfl⟩
  balanced := Ledger.ownedBy_empty fun member => by
    cases member with
    | _ => rfl
  ended := by simp [Monitor.constructed]
  session := by simp [Monitor.constructed]
  passed := by simp [Monitor.constructed]

theorem sound_reachable (reached : monitorMachine.Reachable state) :
    state.Sound := by
  apply reached.invariant
  · intro start initial
    obtain ⟨debounce, rfl⟩ := initial
    exact sound_constructed debounce
  · intro before step after sound stepped
    exact sound_step sound (Monitor.moves_of_step stepped)

structure Monitor.Lifecycle (state : Monitor) : Prop where
  /-- Whenever a call has returned the monitor is stopped and holds nothing,
  or runs or has failed and holds both descriptors and a thread. -/
  returned : ∀ last, state.controller = .idle last → state.footing.Settled
  /-- Every descriptor opened is held in exactly one member or was closed
  exactly once. -/
  descriptors :
    state.resources.ledger.OwnedBy state.resources.descriptor
  /-- A thread is created only where none is joinable. -/
  oneThread : ∀ handlers, state.controller = .start handlers .createThread →
    state.thread = none
  /-- A call of `start_monitor` which finds the monitor running makes two
  steps, changes nothing and returns false. -/
  refusedFirst : ∀ handlers succeeds target,
    state.signals.status = .running →
    monitorMachine.step state (.start handlers .checkFailed succeeds) =
      some target →
    target = state.goto (.start handlers (.testStopped .running))
  refusedSecond : ∀ handlers succeeds target,
    monitorMachine.step state
      (.start handlers (.testStopped .running) succeeds) = some target →
    target = state.goto (.idle (some (.started false)))
  /-- The failure handler of a session was called once if its failure exit
  found the monitor running, and never otherwise. -/
  ended : ∀ session ∈ state.ended, session.Settled
  finished : ∀ thread, state.thread = some thread →
    thread.point = .finished → thread.session.Settled
  /-- No earlier moment of a session is ahead of that. -/
  current : ∀ thread, state.thread = some thread →
    thread.session.invoked = [] ∨ thread.session.foundRunning = true ∧
      thread.session.invoked = thread.session.passed.toList

theorem Session.At.invoked {session : Session} {point : LoopPoint}
    (course : session.At point) :
    session.invoked = [] ∨ session.foundRunning = true ∧
      session.invoked = session.passed.toList := by
  cases point with
  | notifying error => exact .inl course.2
  | calling handler error => exact .inl course.2.1
  | finished =>
      have settled : session.Settled := course
      unfold Settled at settled
      split at settled
      · exact .inr ⟨‹_›, settled⟩
      · exact .inl settled
  | _ => exact .inl course.2

/-- A running monitor refuses to be started. -/
theorem refuse_testStopped (sound : state.Sound) {handlers : Handlers}
    {succeeds : Bool}
    (moves : state.Moves (.start handlers (.testStopped .running) succeeds)
      target) :
    target = state.goto (.idle (some (.started false))) := by
  cases moves with
  | start stands =>
      have live : state.footing.Live := (sound.stage_at stands).2 rfl
      have nonstopped : state.signals.status ≠ .stopped := by
        intro stopped
        rcases live.status with running | failed
        · exact absurd (running.symm.trans stopped) (by decide)
        · exact absurd (failed.symm.trans stopped) (by decide)
      simp [Monitor.applyStart, nonstopped]

theorem monitor_lifecycle (reached : monitorMachine.Reachable state) :
    state.Lifecycle := by
  have sound := sound_reachable reached
  refine
    { returned := ?_
      descriptors := sound.balanced
      oneThread := ?_
      refusedFirst := ?_
      refusedSecond := ?_
      ended := sound.ended
      finished := ?_
      current := fun thread found => (sound.session thread found).invoked }
  · intro last idle
    exact sound.stage_at idle
  · intro handlers stands
    exact Monitor.thread_eq_none (sound.stage_at stands).unthreaded
  · intro handlers succeeds target running stepped
    cases Monitor.moves_of_step stepped with
    | start stands => simp [Monitor.applyStart, running]
  · intro handlers succeeds target stepped
    exact refuse_testStopped sound (Monitor.moves_of_step stepped)
  · intro thread found finished
    have course := sound.session thread found
    rw [finished] at course
    exact course

/-- The monitor is started, its `poll` fails, the handler is told, and the
next start joins the failed thread first. -/
def failureAndRestart : List MonitorStep :=
  firstStart ++
    ([.registerCallback, .enterPoll 0, .pollFails (-1),
      .compareExchange .pollError, .copyFailureHandler .pollError,
      .callFailureHandler 2 .pollError] : List LoopAction).map .loop ++
    [.callStart sampleHandlers, .start sampleHandlers .checkFailed true] ++
    ([.check, .storeStopping, .requestStop, .runCallback, .join,
      .closeNetlink, .closeWake, .clearHandlers,
      .storeStopped] : List StopPoint).map
        (.stop (.restart sampleHandlers)) ++
    startSteps sampleHandlers .failed

theorem failureAndRestart_enabled :
    (monitorMachine.runWhere (fun _ _ => True) (.constructed 150)
      failureAndRestart).isSome = true := by
  decide

def restartedMonitor : Monitor :=
  monitorMachine.finish (.constructed 150) failureAndRestart
    failureAndRestart_enabled

theorem monitor_lifecycle_restarted :
    restartedMonitor.Lifecycle ∧
      restartedMonitor.ended =
        [{ passed := some 2, foundRunning := true, invoked := [2] }] :=
  ⟨monitor_lifecycle (Machine.reachable_finish (constructed_initial 150)
    failureAndRestart_enabled), by decide⟩

end LibbpfControl.NicCheck
