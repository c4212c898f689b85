import LibbpfControl.NicCheck.StopWake

/-!
# Overruns of the netlink socket

After an overrun the socket carries a pending error.  `drain_netlink` is
ready for it: `recvmsg` returns the error once and the loop schedules a full
refresh.  `monitor_loop` however looks at the events of `poll` first, where
the pending error shows as `POLLERR`, and takes that for the end of the
socket.  Whether an overrun is survived is thus decided by where the loop
stands when it happens: once `poll` has reported input and no error, the loop
of a running monitor comes to `recvmsg` before it polls again.
-/

namespace LibbpfControl.NicCheck

/-- In `drain_netlink`, with another `recvmsg` to come while the monitor
runs. -/
def LoopPoint.inReceiveLoop : LoopPoint → Bool
  | .checkingStatus _ => true
  | .receiving _ => true
  | _ => false

/-- Nothing but overruns goes wrong with the socket. -/
def OnlyOverruns : MonitorStep → Bool
  | .breakSocket => false
  | .loop (.pollFails _) => false
  | .loop (.receiveFails _) => false
  | _ => true

/-- Between the return of `poll` and the test of the events of the socket. -/
def LoopPoint.handlesEvents : LoopPoint → Bool
  | .polled => true
  | .draining => true
  | .drained => true
  | .exchanging => true
  | .taken => true
  | .testingNetlink => true
  | _ => false

/-- The loop comes to `recvmsg` before it polls again, unless the monitor is
stopped: it is in `drain_netlink`, or `poll` has reported input of the socket
and no error. -/
def LoopThread.towardReceive (thread : LoopThread) : Bool :=
  thread.point.inReceiveLoop ||
    thread.point.handlesEvents &&
      (thread.ready.netlink && !thread.ready.netlinkError)

/-- The loop of a running monitor is on its way to `recvmsg`. -/
def Monitor.receiving (state : Monitor) : Bool :=
  state.signals.status = .running &&
    state.thread.any LoopThread.towardReceive

/-- The queue overruns only where the loop is on its way to `recvmsg`, and the
monitor is not stopped before the error has been received. -/
def OverrunReceived (state : Monitor) : MonitorStep → Bool
  | .overrun => state.receiving
  | .stop _ .storeStopping => !state.signals.socket.overrun
  | _ => true

structure Monitor.SurvivesOverruns (state : Monitor) : Prop where
  /-- The monitor has not failed. -/
  status : state.signals.status ≠ .failed
  /-- And the loop is not on its way out with a failure. -/
  point : ∀ thread error, state.thread = some thread →
    thread.point ≠ .failing error
  /-- No overrun is left without a scheduled refresh where the loop polls
  without a timeout. -/
  scheduled : ∀ thread timeoutMs, state.thread = some thread →
    thread.point = .polling timeoutMs → timeoutMs < 0 →
    thread.unscheduled = false

/-- What the loop owes for overruns, where `overrun` is the pending error. -/
structure LoopThread.Recovers (thread : LoopThread) (overrun : Bool) :
    Prop where
  point : thread.point.live = true ∨ thread.point = .finished
  ready : thread.ready.netlinkError = false
  unscheduled : thread.unscheduled = true →
    overrun = true ∨ thread.point.holdsTrigger = true

/-- A pending error is met by a `recvmsg` of the running monitor. -/
structure Recovery (signals : Signals) (thread : LoopThread) : Prop where
  recovers : thread.Recovers signals.socket.overrun
  pendingError : signals.socket.overrun = true →
    signals.status = .running ∧ thread.towardReceive = true
  /-- A running monitor has not been asked to stop. -/
  unstopped : signals.status = .running → thread.stop = false
  unbroken : signals.socket.broken = false

section LoopStep

variable {debounce : Int} {resources : Resources} {signals : Signals}
  {thread : LoopThread} {action : LoopAction}

/-- Only `recvmsg` touches the socket. -/
theorem loop_socket (other : ∀ changed, action ≠ .receive changed) :
    (action.apply resources signals thread).socket = signals.socket := by
  cases action with
  | receive changed => exact absurd rfl (other changed)
  | registerCallback =>
      simp only [LoopAction.apply]
      split
      · exact Signals.wake_socket _ _
      · rfl
  | testDeadline now =>
      simp only [LoopAction.apply]
      split
      · rfl
      · rfl
  | refresh point action => exact refresh_socket action signals
  | compareExchange error =>
      simp only [LoopAction.apply]
      split
      · rfl
      · rfl
  | _ => rfl

/-- A loop which has not failed makes none of the steps of the failure exit,
and leaves the status alone. -/
theorem quiet_of_live
    (point : thread.point.live = true ∨ thread.point = .finished)
    (isEnabled : action.enabled signals thread = true) :
    action.reports = false := by
  cases action with
  | compareExchange error =>
      have stands : thread.point = .failing error :=
        of_decide_eq_true isEnabled
      simp [stands, LoopPoint.live] at point
  | copyFailureHandler error =>
      have stands : thread.point = .notifying error :=
        of_decide_eq_true isEnabled
      simp [stands, LoopPoint.live] at point
  | callFailureHandler handler error =>
      have stands : thread.point = .calling handler error :=
        of_decide_eq_true isEnabled
      simp [stands, LoopPoint.live] at point
  | _ => rfl

theorem Recovery.noError (recovery : Recovery signals thread)
    (away : thread.towardReceive = false) :
    signals.socket.overrun = false := by
  apply eq_false_of_ne_true
  intro pendingError
  have toward := (recovery.pendingError pendingError).2
  exact absurd (away.symm.trans toward) (by decide)

/-- A step which leaves the socket alone and does not turn away from
`recvmsg`. -/
theorem Recovery.keep (recovery : Recovery signals thread)
    (other : ∀ changed, action ≠ .receive changed)
    (quiet : action.reports = false)
    (recovers : (action.move debounce resources signals thread).Recovers
      signals.socket.overrun)
    (toward : signals.status = .running → thread.towardReceive = true →
      (action.move debounce resources signals thread).towardReceive =
        true) :
    Recovery (action.apply resources signals thread)
      (action.move debounce resources signals thread) where
  recovers := by
    rw [loop_socket other]
    exact recovers
  pendingError := by
    rw [loop_socket other, quiet_status quiet]
    intro pendingError
    obtain ⟨running, before⟩ := recovery.pendingError pendingError
    exact ⟨running, toward running before⟩
  unstopped := by
    rw [quiet_status quiet, move_stop]
    exact recovery.unstopped
  unbroken := by
    rw [loop_socket other]
    exact recovery.unbroken

/-- What the loop owes stays owed while it does not schedule. -/
theorem LoopThread.Recovers.keep {next : LoopThread} {overrun : Bool}
    (recovers : thread.Recovers overrun)
    (point : next.point.live = true ∨ next.point = .finished)
    (ready : next.ready.netlinkError = false)
    (same : next.unscheduled = thread.unscheduled)
    (holding : thread.point.holdsTrigger = true →
      next.point.holdsTrigger = true) : next.Recovers overrun where
  point := point
  ready := ready
  unscheduled := by
    rw [same]
    exact fun unscheduled =>
      (recovers.unscheduled unscheduled).imp_right holding

/-- Nothing is owed where a refresh has just been scheduled. -/
theorem LoopThread.Recovers.scheduled {next : LoopThread} {overrun : Bool}
    (point : next.point.live = true)
    (ready : next.ready.netlinkError = false)
    (scheduled : next.unscheduled = false) : next.Recovers overrun where
  point := .inl point
  ready := ready
  unscheduled := by simp [scheduled]

theorem netlinkPoint_live (noError : thread.ready.netlinkError = false) :
    thread.netlinkPoint.live = true := by
  simp only [LoopThread.netlinkPoint, noError, Bool.false_eq_true, if_false]
  split
  · rfl
  · rfl

theorem receivePoint_live (changed : Bool) (outcome : ReceiveOutcome) :
    (receivePoint changed outcome).live = true := by
  unfold receivePoint
  split
  · rfl
  · rfl

/-- `recvmsg` clears the pending error and reports it as a change. -/
theorem recovery_receive {changed : Bool}
    (recovery : Recovery signals thread)
    (stands : thread.point = .receiving changed) :
    Recovery ((LoopAction.receive changed).apply resources signals thread)
      ((LoopAction.receive changed).move debounce resources signals
        thread) := by
  have cleared : ((LoopAction.receive changed).apply resources signals
      thread).socket.overrun = false :=
    signals.socket.recvmsg_overrun
  refine ⟨⟨.inl (receivePoint_live changed _), recovery.recovers.ready, ?_⟩,
    ?_, recovery.unstopped, ?_⟩
  · intro unscheduled
    refine .inr (receivePoint_holds changed _ ?_)
    rcases recovery.recovers.unscheduled unscheduled with
      pendingError | holding
    · rw [NetlinkSocket.recvmsg_of_overrun pendingError]
      exact .inr rfl
    · rw [stands] at holding
      exact .inl holding
  · intro pendingError
    exact absurd (cleared.symm.trans pendingError) (by decide)
  · exact signals.socket.recvmsg_broken.trans recovery.unbroken

/-- What `poll` reports of the socket is no error where none is pending. -/
theorem ready_of_holds {ready : Readiness}
    (recovery : Recovery signals thread)
    (noError : signals.socket.overrun = false)
    (holds : ready.holds signals = true) : ready.netlinkError = false := by
  simp only [Readiness.holds, noError, recovery.unbroken, Bool.or_self,
    Bool.or_false, Bool.and_eq_true, Bool.not_eq_true'] at holds
  exact holds.1.2

/-- From the return of `poll` to `drain_netlink` nothing but the events which
it has reported matters. -/
theorem towardReceive_handling {next : LoopThread}
    (toward : thread.towardReceive = true)
    (before : thread.point.handlesEvents = true)
    (after : next.point.handlesEvents = true)
    (ready : next.ready = thread.ready) : next.towardReceive = true := by
  have outside : thread.point.inReceiveLoop = false := by
    revert before
    cases thread.point <;> simp [LoopPoint.handlesEvents,
      LoopPoint.inReceiveLoop]
  simp only [LoopThread.towardReceive, before, outside, Bool.true_and,
    Bool.false_or] at toward
  simp only [LoopThread.towardReceive, after, ready, toward, Bool.and_self,
    Bool.or_true]

/-- The loop does not turn away from `recvmsg` while the monitor runs. -/
theorem towardReceive_move (recovery : Recovery signals thread)
    (allowed : OnlyOverruns (.loop action) = true)
    (isEnabled : action.enabled signals thread = true)
    (other : ∀ changed, action ≠ .receive changed)
    (running : signals.status = .running)
    (toward : thread.towardReceive = true) :
    (action.move debounce resources signals thread).towardReceive =
      true := by
  cases action with
  | receive changed => exact absurd rfl (other changed)
  | receiveFails changed => cases allowed
  | receiveInterrupted changed => rfl
  | checkStatus changed =>
      simp only [LoopAction.move, if_pos running]
      rfl
  | exit =>
      simp only [LoopAction.enabled, recovery.unstopped running,
        Bool.and_false] at isEnabled
      cases isEnabled
  | testWake =>
      simp only [LoopAction.enabled, Bool.and_eq_true,
        decide_eq_true_eq] at isEnabled
      refine towardReceive_handling toward (by rw [isEnabled.1]; rfl) ?_ rfl
      simp only [LoopAction.move]
      split <;> rfl
  | readWake =>
      have stands : thread.point = .draining := of_decide_eq_true isEnabled
      refine towardReceive_handling toward (by rw [stands]; rfl) ?_ rfl
      simp only [LoopAction.move]
      split <;> rfl
  | testRunning =>
      have stands : thread.point = .drained := of_decide_eq_true isEnabled
      refine towardReceive_handling toward (by rw [stands]; rfl) ?_ rfl
      simp only [LoopAction.move]
      split <;> rfl
  | exchangeDirty =>
      have stands : thread.point = .exchanging :=
        of_decide_eq_true isEnabled
      refine towardReceive_handling toward (by rw [stands]; rfl) ?_ rfl
      simp only [LoopAction.move]
      split <;> rfl
  | scheduleDirty now =>
      have stands : thread.point = .taken := of_decide_eq_true isEnabled
      exact towardReceive_handling toward (by rw [stands]; rfl) rfl rfl
  | testNetlink =>
      have stands : thread.point = .testingNetlink :=
        of_decide_eq_true isEnabled
      simp only [LoopThread.towardReceive, stands, LoopPoint.inReceiveLoop,
        LoopPoint.handlesEvents, Bool.false_or, Bool.true_and,
        Bool.and_eq_true, Bool.not_eq_true'] at toward
      simp [LoopAction.move, LoopThread.netlinkPoint, toward.1, toward.2,
        LoopThread.towardReceive, LoopPoint.inReceiveLoop]
  | _ =>
      simp only [LoopAction.enabled, Bool.and_eq_true,
        decide_eq_true_eq] at isEnabled
      simp [LoopThread.towardReceive, isEnabled, LoopPoint.inReceiveLoop,
        LoopPoint.handlesEvents] at toward

theorem recovers_receiveInterrupted {changed overrun : Bool}
    (recovers : thread.Recovers overrun)
    (stands : thread.point = .receiving changed) :
    LoopThread.Recovers
      { thread with point := receivePoint changed .interrupted } overrun := by
  refine recovers.keep (.inl (receivePoint_live changed .interrupted))
    recovers.ready rfl ?_
  intro holding
  rw [stands] at holding
  exact receivePoint_holds changed .interrupted (.inl holding)

theorem recovers_checkStatus {changed : Bool}
    (recovers : thread.Recovers signals.socket.overrun)
    (stands : thread.point = .checkingStatus changed) :
    ((LoopAction.checkStatus changed).move debounce resources signals
      thread).Recovers signals.socket.overrun := by
  have held : thread.point.holdsTrigger = changed := by
    rw [stands]
    rfl
  simp only [LoopAction.move]
  split
  · exact recovers.keep (.inl rfl) recovers.ready rfl held.symm.trans
  · exact recovers.keep (.inl rfl) recovers.ready rfl held.symm.trans

/-- What the loop owes is kept by every step but `recvmsg`. -/
theorem recovers_move (recovery : Recovery signals thread)
    (allowed : OnlyOverruns (.loop action) = true)
    (isEnabled : action.enabled signals thread = true)
    (other : ∀ changed, action ≠ .receive changed)
    (quiet : action.reports = false) :
    (action.move debounce resources signals thread).Recovers
      signals.socket.overrun := by
  have recovers := recovery.recovers
  have ready := recovers.ready
  cases action with
  | receive changed => exact absurd rfl (other changed)
  | pollFails timeoutMs => cases allowed
  | receiveFails changed => cases allowed
  | receiveInterrupted changed =>
      exact recovers_receiveInterrupted recovers
        (of_decide_eq_true isEnabled)
  | checkStatus changed =>
      exact recovers_checkStatus recovers (of_decide_eq_true isEnabled)
  | pollReturns timeoutMs events =>
      simp only [LoopAction.enabled, Bool.and_eq_true,
        decide_eq_true_eq] at isEnabled
      have noError := recovery.noError (by
        simp [LoopThread.towardReceive, isEnabled.1.1,
          LoopPoint.inReceiveLoop, LoopPoint.handlesEvents])
      exact recovers.keep (.inl rfl)
        (ready_of_holds recovery noError isEnabled.2) rfl
        (by simp [isEnabled.1.1, LoopPoint.holdsTrigger])
  | finishReceiving changed now =>
      have stands : thread.point = .received changed :=
        of_decide_eq_true isEnabled
      cases changed with
      | true => exact .scheduled rfl ready rfl
      | false =>
          exact recovers.keep (.inl rfl) ready rfl
            (by simp [stands, LoopPoint.holdsTrigger])
  | scheduleDirty now => exact .scheduled rfl ready rfl
  | testNetlink =>
      have stands : thread.point = .testingNetlink :=
        of_decide_eq_true isEnabled
      exact recovers.keep (.inl (netlinkPoint_live ready)) ready rfl
        (by simp [stands, LoopPoint.holdsTrigger])
  | exit =>
      refine recovers.keep (.inr rfl) ready rfl ?_
      simp only [LoopAction.enabled, Bool.and_eq_true, Bool.or_eq_true,
        decide_eq_true_eq] at isEnabled
      rcases isEnabled.1 with stands | stands
      · simp [stands, LoopPoint.holdsTrigger]
      · simp [stands, LoopPoint.holdsTrigger]
  | testDeadline now =>
      have stands : thread.point = .testingDeadline :=
        of_decide_eq_true isEnabled
      simp only [LoopAction.move]
      split
      · exact recovers.keep (.inl rfl) ready rfl
          (by simp [stands, LoopPoint.holdsTrigger])
      · exact recovers.keep (.inl rfl) ready rfl
          (by simp [stands, LoopPoint.holdsTrigger])
  | compareExchange error => cases quiet
  | copyFailureHandler error => cases quiet
  | callFailureHandler handler error => cases quiet
  | _ =>
      simp only [LoopAction.enabled, Bool.and_eq_true,
        decide_eq_true_eq] at isEnabled
      refine recovers.keep (.inl ?_) ready rfl
        (by simp [isEnabled, LoopPoint.holdsTrigger])
      simp only [LoopAction.move]
      first
        | rfl
        | (split <;> rfl)

theorem recovery_loop (recovery : Recovery signals thread)
    (allowed : OnlyOverruns (.loop action) = true)
    (isEnabled : action.enabled signals thread = true) :
    Recovery (action.apply resources signals thread)
      (action.move debounce resources signals thread) := by
  by_cases receives : ∃ changed, action = .receive changed
  · obtain ⟨changed, rfl⟩ := receives
    exact recovery_receive recovery (of_decide_eq_true isEnabled)
  · have other : ∀ changed, action ≠ .receive changed :=
      fun changed same => receives ⟨changed, same⟩
    have quiet := quiet_of_live recovery.recovers.point isEnabled
    exact recovery.keep other quiet
      (recovers_move recovery allowed isEnabled other quiet)
      (towardReceive_move recovery allowed isEnabled other)

end LoopStep

structure Monitor.Recovering (state : Monitor) : Prop where
  status : state.signals.status ≠ .failed
  unbroken : state.signals.socket.broken = false
  unthreaded : state.thread = none → state.signals.socket.overrun = false
  thread : ∀ thread, state.thread = some thread →
    Recovery state.signals thread

variable {state target : Monitor} {label : MonitorStep}

/-- Without a thread there is nothing to recover from. -/
theorem Monitor.Recovering.threadless (recovering : state.Recovering)
    (unthreaded : state.thread = none) (same : target.thread = none)
    (status : target.signals.status ≠ .failed)
    (socket : target.signals.socket = state.signals.socket) :
    target.Recovering where
  status := status
  unbroken := by
    rw [socket]
    exact recovering.unbroken
  unthreaded := by
    rw [socket]
    exact fun _ => recovering.unthreaded unthreaded
  thread := by simp [same]

/-- Steps which leave the socket, the status and the thread alone. -/
theorem Monitor.Recovering.frame (recovering : state.Recovering)
    (status : target.signals.status = state.signals.status)
    (overrun : target.signals.socket.overrun =
      state.signals.socket.overrun)
    (broken : target.signals.socket.broken = state.signals.socket.broken)
    (thread : target.thread = state.thread) : target.Recovering where
  status := by
    rw [status]
    exact recovering.status
  unbroken := broken.trans recovering.unbroken
  unthreaded := by
    rw [thread, overrun]
    exact recovering.unthreaded
  thread := by
    rw [thread]
    intro loop found
    obtain ⟨recovers, pendingError, unstopped, unbroken⟩ :=
      recovering.thread loop found
    exact ⟨overrun ▸ recovers, by rw [overrun, status]; exact pendingError,
      by rw [status]; exact unstopped, broken.trans unbroken⟩

theorem recovering_start {handlers : Handlers} {point : StartPoint}
    (sound : state.Sound) (recovering : state.Recovering)
    (stands : state.controller = .start handlers point) (succeeds : Bool) :
    (state.applyStart handlers succeeds point).Recovering := by
  have stage : state.footing.StartStage handlers point := sound.stage_at stands
  cases point with
  | checkFailed => exact recovering.frame rfl rfl rfl rfl
  | testStopped seen => exact recovering.frame rfl rfl rfl rfl
  | storeStarting =>
      have unthreaded := Monitor.thread_eq_none stage.unthreaded
      exact recovering.threadless unthreaded unthreaded
        (show MonitorStatus.starting ≠ .failed by decide) rfl
  | openEventfd =>
      cases succeeds with
      | false => exact recovering.frame rfl rfl rfl rfl
      | true => exact recovering.frame rfl rfl rfl rfl
  | openSocket =>
      cases succeeds with
      | false => exact recovering.frame rfl rfl rfl rfl
      | true =>
          have unthreaded := Monitor.thread_eq_none stage.unthreaded
          exact ⟨recovering.status, rfl, fun _ => rfl,
            fun thread found => absurd (unthreaded.symm.trans found)
              (by simp)⟩
  | storeStopped =>
      have unthreaded := Monitor.thread_eq_none stage.unthreaded
      exact recovering.threadless unthreaded unthreaded
        (show MonitorStatus.stopped ≠ .failed by decide) rfl
  | storeRunning =>
      have unthreaded := Monitor.thread_eq_none stage.unthreaded
      exact recovering.threadless unthreaded unthreaded
        (show MonitorStatus.running ≠ .failed by decide) rfl
  | wake =>
      exact recovering.frame (Signals.wake_status _ _)
        (congrArg NetlinkSocket.overrun (Signals.wake_socket _ _))
        (congrArg NetlinkSocket.broken (Signals.wake_socket _ _)) rfl
  | createThread =>
      cases succeeds with
      | false => exact recovering.frame rfl rfl rfl rfl
      | true =>
          have noError := recovering.unthreaded
            (Monitor.thread_eq_none stage.unthreaded)
          refine ⟨recovering.status, recovering.unbroken,
            (fun isNone => by cases isNone), ?_⟩
          intro thread found
          cases found
          refine ⟨⟨.inl rfl, rfl, fun unscheduled => by cases unscheduled⟩,
            ?_, fun _ => rfl, recovering.unbroken⟩
          intro pendingError
          exact absurd (noError.symm.trans pendingError) (by decide)
  | _ => exact recovering.frame rfl rfl rfl rfl

theorem recovering_stop {caller : StopCaller} {point : StopPoint}
    (sound : state.Sound) (recovering : state.Recovering)
    (stands : state.controller = .stop caller point)
    (joinable : point = .join → ∃ thread, state.thread = some thread ∧
      thread.point = .finished)
    (received : OverrunReceived state (.stop caller point) = true) :
    (state.applyStop caller point).Recovering := by
  have stage : state.footing.StopStage caller point := sound.stage_at stands
  cases point with
  | storeStopping =>
      have noError : state.signals.socket.overrun = false := by
        simpa [OverrunReceived] using received
      refine ⟨show MonitorStatus.stopping ≠ .failed by decide,
        recovering.unbroken, fun _ => noError, ?_⟩
      intro thread found
      refine ⟨(recovering.thread thread found).recovers, ?_,
        (fun running => by cases running), recovering.unbroken⟩
      intro pendingError
      exact absurd (noError.symm.trans pendingError) (by decide)
  | requestStop =>
      refine ⟨recovering.status, recovering.unbroken, ?_, ?_⟩
      · intro isNone
        exact recovering.unthreaded (Option.map_eq_none_iff.mp isNone)
      · intro thread found
        obtain ⟨origin, present, rfl⟩ := Option.map_eq_some_iff.mp found
        obtain ⟨recovers, pendingError, _, unbroken⟩ :=
          recovering.thread origin present
        have stopping : state.signals.status = .stopping := stage
        refine ⟨⟨recovers.point, recovers.ready, recovers.unscheduled⟩,
          pendingError, ?_, unbroken⟩
        intro running
        exact absurd (stopping.symm.trans running) (by decide)
  | runCallback =>
      by_cases registered : state.thread.any LoopThread.registered = true
      · refine recovering.frame ?_ ?_ ?_ rfl
        · simp [Monitor.applyStop, registered]
        · simp [Monitor.applyStop, registered]
        · simp [Monitor.applyStop, registered]
      · refine recovering.frame ?_ ?_ ?_ rfl
        · simp [Monitor.applyStop, registered]
        · simp [Monitor.applyStop, registered]
        · simp [Monitor.applyStop, registered]
  | join =>
      obtain ⟨thread, present, finished⟩ := joinable rfl
      have noError := (recovering.thread thread present).noError (by
        simp [LoopThread.towardReceive, finished, LoopPoint.inReceiveLoop,
          LoopPoint.handlesEvents])
      refine ⟨recovering.status, recovering.unbroken, fun _ => noError, ?_⟩
      intro later found
      cases found
  | storeStopped =>
      have unthreaded := Monitor.thread_eq_none stage.unthreaded
      exact recovering.threadless unthreaded unthreaded
        (show MonitorStatus.stopped ≠ .failed by decide) rfl
  | _ => exact recovering.frame rfl rfl rfl rfl

theorem recovering_loop {thread : LoopThread} {action : LoopAction}
    (recovering : state.Recovering) (found : state.thread = some thread)
    (allowed : OnlyOverruns (.loop action) = true)
    (isEnabled : action.enabled state.signals thread = true) :
    (state.applyLoop action thread).Recovering := by
  have recovery := recovering.thread thread found
  have kept : Recovery
      (action.apply state.resources state.signals thread)
      (action.move state.debounce state.resources state.signals thread) :=
    recovery_loop recovery allowed isEnabled
  have quiet := quiet_of_live recovery.recovers.point isEnabled
  refine ⟨?_, kept.unbroken, (fun isNone => by cases isNone), ?_⟩
  · rw [show (state.applyLoop action thread).signals.status =
      state.signals.status from quiet_status quiet]
    exact recovering.status
  · intro later same
    cases same
    exact kept

/-- An overrun on the way to `recvmsg` is ahead of it. -/
theorem recovering_overrun (recovering : state.Recovering)
    (received : state.receiving = true) :
    (state.apply .overrun).Recovering := by
  simp only [Monitor.receiving, Bool.and_eq_true, decide_eq_true_eq,
    Option.any_eq_true] at received
  obtain ⟨running, thread, present, toward⟩ := received
  refine ⟨recovering.status, recovering.unbroken, ?_, ?_⟩
  · intro isNone
    have absent := Option.map_eq_none_iff.mp isNone
    exact absurd (absent.symm.trans present) (by simp)
  · intro later found
    obtain ⟨origin, same, rfl⟩ := Option.map_eq_some_iff.mp found
    cases same.symm.trans present
    have recovery := recovering.thread thread present
    exact ⟨⟨recovery.recovers.point, recovery.recovers.ready,
      fun _ => .inl rfl⟩, fun _ => ⟨running, toward⟩, recovery.unstopped,
      recovery.unbroken⟩

theorem recovering_step (sound : state.Sound)
    (recovering : state.Recovering)
    (allowed : OnlyOverruns label = true)
    (received : OverrunReceived state label = true)
    (moves : state.Moves label target) : target.Recovering := by
  cases moves with
  | callStart idle => exact recovering.frame rfl rfl rfl rfl
  | callStop idle => exact recovering.frame rfl rfl rfl rfl
  | start stands => exact recovering_start sound recovering stands _
  | stop stands joinable =>
      exact recovering_stop sound recovering stands joinable received
  | loop found isEnabled =>
      exact recovering_loop recovering found allowed isEnabled
  | requestRefresh stands => exact recovering.frame rfl rfl rfl rfl
  | storeDirty stands => exact recovering.frame rfl rfl rfl rfl
  | wakeMonitor stands =>
      exact recovering.frame (Signals.wake_status _ _)
        (congrArg NetlinkSocket.overrun (Signals.wake_socket _ _))
        (congrArg NetlinkSocket.broken (Signals.wake_socket _ _)) rfl
  | refresh stands isEnabled =>
      exact recovering.frame (refresh_status _ _)
        (congrArg NetlinkSocket.overrun (refresh_socket _ _))
        (congrArg NetlinkSocket.broken (refresh_socket _ _)) rfl
  | deliver isOpen => exact recovering.frame rfl rfl rfl rfl
  | overrun isOpen => exact recovering_overrun recovering received
  | breakSocket isOpen => cases allowed

/-- Runs in which nothing but overruns goes wrong and every overrun is
received. -/
def OverrunsReceived (state : Monitor) (label : MonitorStep) : Prop :=
  OnlyOverruns label = true ∧ OverrunReceived state label = true

instance (state : Monitor) (label : MonitorStep) :
    Decidable (OverrunsReceived state label) :=
  inferInstanceAs (Decidable (_ ∧ _))

theorem recovering_reachable
    (reached : monitorMachine.ReachableWhere OverrunsReceived state) :
    state.Recovering := by
  apply reached.invariant_with fun _ along => sound_reachable along.reachable
  · intro start initial
    obtain ⟨debounce, rfl⟩ := initial
    exact ⟨by simp [Monitor.constructed], rfl, fun _ => rfl,
      by simp [Monitor.constructed]⟩
  · intro before step after sound recovering allowed stepped
    exact recovering_step sound recovering allowed.1 allowed.2
      (Monitor.moves_of_step stepped)

theorem overrun_survived
    (reached : monitorMachine.ReachableWhere OverrunsReceived state) :
    state.SurvivesOverruns := by
  have recovering := recovering_reachable reached
  refine ⟨recovering.status, ?_, ?_⟩
  · intro thread error found failing
    have point := (recovering.thread thread found).recovers.point
    rw [failing] at point
    simp [LoopPoint.live] at point
  · intro thread timeoutMs found polling _
    have recovery := recovering.thread thread found
    have noError := recovery.noError (by
      simp [LoopThread.towardReceive, polling, LoopPoint.inReceiveLoop,
        LoopPoint.handlesEvents])
    apply eq_false_of_ne_true
    intro unscheduled
    rcases recovery.recovers.unscheduled unscheduled with
      pendingError | holding
    · exact absurd (noError.symm.trans pendingError) (by decide)
    · rw [polling] at holding
      cases holding

/-- A message about a link, without attributes. -/
def newlinkMessage : List UInt8 :=
  [16, 0, 0, 0, 16, 0, 0, 0, 0, 0, 0, 0, 0, 0, 0, 0]

def firstPoll (ready : Readiness) : List MonitorStep :=
  ([.registerCallback, .enterPoll 0,
    .pollReturns (-1) ready] : List LoopAction).map .loop

/-- From the first return of `poll` to the look at the socket. -/
def firstEvents : List MonitorStep :=
  ([.testWake, .readWake, .testRunning, .readWake, .exchangeDirty,
    .scheduleDirty 0, .testNetlink] : List LoopAction).map .loop

/-- The queue overruns after `poll` has returned, and again between two calls
of `recvmsg`. -/
def overrunWhileReceiving : List MonitorStep :=
  firstStart ++ [.deliver newlinkMessage] ++
    firstPoll { noEvents with netlink := true, wake := true } ++
    [.overrun] ++ firstEvents ++
    [.loop (.checkStatus false), .loop (.receive false), .overrun] ++
    ([.checkStatus true, .receive true, .checkStatus true, .receive true,
      .checkStatus true, .receive true,
      .finishReceiving true 0] : List LoopAction).map .loop

theorem overrunWhileReceiving_enabled :
    (monitorMachine.runWhere OverrunsReceived (.constructed 150)
      overrunWhileReceiving).isSome = true := by
  decide

theorem overrun_survived_receiving :
    (monitorMachine.finishWhere OverrunsReceived (.constructed 150)
      overrunWhileReceiving
      overrunWhileReceiving_enabled).SurvivesOverruns :=
  overrun_survived (Machine.ReachableWhere.finishWhere
    (fun _ _ allowed => allowed) (.initial (constructed_initial 150))
    overrunWhileReceiving_enabled)

/-- The queue overruns while the loop waits in `poll`. -/
def overrunWhilePolling : List MonitorStep :=
  firstStart ++ firstPoll { noEvents with wake := true } ++ firstEvents ++
    [.loop (.testDeadline 0), .loop (.enterPoll 0),
      .deliver newlinkMessage, .overrun] ++
    ([.pollReturns 150 { noEvents with netlink := true, netlinkError := true },
      .testWake, .testNetlink,
      .compareExchange .netlinkReceiveError] : List LoopAction).map .loop

theorem overrunWhilePolling_enabled :
    (monitorMachine.runWhere (fun _ label => OnlyOverruns label = true)
      (.constructed 150) overrunWhilePolling).isSome = true := by
  decide

/-- The monitor fails although nothing but an overrun has happened. -/
theorem overrun_fails_monitor :
    ∃ state, monitorMachine.ReachableWhere
        (fun _ label => OnlyOverruns label = true) state ∧
      state.signals.status = .failed ∧ ¬ state.SurvivesOverruns := by
  have failed : (monitorMachine.finishWhere
      (fun _ label => OnlyOverruns label = true) (.constructed 150)
      overrunWhilePolling overrunWhilePolling_enabled).signals.status =
        .failed := by
    decide
  refine ⟨_, ?_, failed, fun survives => survives.status failed⟩
  exact Machine.ReachableWhere.finishWhere (fun _ _ allowed => allowed)
    (.initial (constructed_initial 150)) overrunWhilePolling_enabled

end LibbpfControl.NicCheck
