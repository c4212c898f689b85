import LibbpfControl.Main.EventLoop

/-!
# A termination signal makes `main` return

Once a termination signal is pending for a waiter which is started or about
to be, or the handler is under way, every run comes to the return of `main`:
the handler pushes its event, `main` wakes up and leaves its loop, the thread
which polls the ring buffer is stopped and joined, and the waiter is
destroyed.

Steps which change nothing may be taken finitely often: a poll of the ring
buffer before a stop is requested, a wait for signals which times out before
that, a wait which another signal interrupts, a spurious wake-up, a new thread
and a further termination signal.  Such a signal has to come while every
thread blocks it, and not in the gap between the emptying of the pending
signals and the restoring of the mask, where it ends the process.
-/

namespace LibbpfControl.Main

open Utils

namespace Process

variable {state target : Process} {label : ProcessStep}

def waitStopRequested (state : Process) : Bool :=
  state.waiter.waiter.waitThread.any WaitThread.stopRequested

def monitorStopRequested (state : Process) : Bool :=
  state.monitorThread.any MonitorThread.stopRequested

/-- The steps which bring nobody further. -/
def idles (state : Process) : ProcessStep → Bool
  | .wakeSpuriously => true
  | .createThread _ => true
  | .signal _ => true
  | .testMonitorStop => !state.monitorStopRequested
  | .waiter (.sigtimedwait (.failed error)) =>
      decide (error = eAGAIN ∨ error = eINTR) && !state.waitStopRequested
  | .waiter (.drain (.failed error)) => decide (error = eINTR)
  | _ => false

/-- A termination signal comes while every thread blocks it and not after the
pending signals have been emptied, and `sigtimedwait` reports the end of that
only when none is pending. -/
def Orderly (state : Process) : ProcessStep → Prop
  | .signal signal =>
      state.blocks signal = true ∧ state.waiter.owner ≠ .restoringMask
  | .waiter (.drain (.failed error)) =>
      error = eINTR ∨ state.waiter.pending = .empty
  | _ => True

/-- No signal has come in the gap before the mask is restored. -/
def Drained (state : Process) : Prop :=
  state.waiter.owner = .restoringMask → state.waiter.pending = .empty

theorem afterStop_ne_restoringMask (waiter : WaiterState)
    (destroying : Bool) :
    waiter.afterStop destroying ≠ .restoringMask := by
  unfold WaiterState.afterStop
  split
  · split
    · simp
    · simp
  · simp

theorem drained_of_waiter (drained : state.Drained) {step : WaiterStep}
    (orderly : state.Orderly (.waiter step))
    (runs : state.runsWaiter step = true)
    (restoring : (state.waiter.apply step).owner = .restoringMask) :
    (state.waiter.apply step).pending = .empty := by
  cases step with
  | testStop => exact drained restoring
  | sigtimedwait result =>
      have empty : state.waiter.pending = .empty := drained restoring
      simp only [WaiterState.apply, empty]
      cases result with
      | received signal => cases signal <;> rfl
      | failed error => rfl
  | stop destroying =>
      simp only [WaiterState.apply, WaiterState.stop] at restoring
      split at restoring
      · exact absurd restoring (afterStop_ne_restoringMask _ _)
      · cases restoring
  | join destroying =>
      exact absurd restoring (afterStop_ne_restoringMask _ _)
  | drain result =>
      cases result with
      | received signal => cases restoring
      | failed error =>
          rcases orderly with rfl | empty
          · cases restoring
          · exact empty
  | restoreMask error =>
      simp only [WaiterState.apply] at restoring
      split at restoring
      · cases restoring
      · cases restoring
  | _ => cases runs

theorem drained_of_moves (drained : state.Drained)
    (orderly : state.Orderly label) (moves : state.Moves label target) :
    target.Drained := by
  cases moves with
  | startWaiter => exact fun restoring => OwnerPoint.noConfusion restoring
  | startFails => exact fun restoring => OwnerPoint.noConfusion restoring
  | waiter runs => exact drained_of_waiter drained orderly runs
  | blockedSignal => exact fun restoring => absurd restoring orderly.2
  | _ => exact drained

/-- Nothing ends the process. -/
theorem alive_of_moves (drained : state.Drained)
    (alive : state.killed = false) (orderly : state.Orderly label)
    (moves : state.Moves label target) : target.killed = false := by
  cases moves with
  | @waiter step _ isEnabled =>
      cases step with
      | restoreMask error =>
          have empty := drained (of_decide_eq_true isEnabled)
          simp [delivers, empty, SignalSet.has, SignalSet.empty]
      | _ => rfl
  | kill unblocked => cases orderly.1.symm.trans unblocked
  | _ => exact alive

/-- The waiter is stopped by its destructor only, which `main` runs when it
returns. -/
structure Ending (state : Process) : Prop where
  idle : state.isReturning = false → state.hasExited = false →
    state.waiter.isIdle = true
  unrequested : state.waiter.isIdle = true → state.waitStopRequested = false
  joining : ∀ destroying, state.waiter.owner = .joining destroying →
    destroying = true ∧ state.waitStopRequested = true
  monitor : state.main = .joiningMonitor → state.monitorStopRequested = true

theorem any_map_stopRequested (thread : Option WaitThread)
    (point : WaitThread → WaitPoint) :
    (thread.map fun thread =>
      { thread with point := point thread }).any WaitThread.stopRequested =
      thread.any WaitThread.stopRequested := by
  cases thread <;> rfl

theorem any_map_monitor (thread : Option MonitorThread)
    (point : MonitorThread → MonitorPoint) :
    (thread.map fun thread =>
      { thread with point := point thread }).any
        MonitorThread.stopRequested =
      thread.any MonitorThread.stopRequested := by
  cases thread <;> rfl

theorem ending_of_start (handled : state.Handled)
    (starting : state.main = .starting) (thread : Option Int) :
    (state.waiter.start thread).isIdle = true ∧
      (state.waiter.start thread).waiter.waitThread.any
        WaitThread.stopRequested = false := by
  refine ⟨rfl, ?_⟩
  simp only [WaiterState.start]
  split
  · rfl
  · simp [WaiterState.goto, (handled.unstarted starting).2.1]

/-- Behind the join of its destructor the waiter is not used any more. -/
theorem ending_of_behind {waiter : WaiterState} {killed : Bool}
    (returning : state.isReturning = true)
    (owner : waiter.owner = .draining ∨ waiter.owner = .restoringMask ∨
      waiter.owner = .destroyed) :
    ({ state with waiter := waiter, killed := killed } : Process).Ending := by
  refine ⟨?_, ?_, ?_, ?_⟩
  · intro away
    cases returning.symm.trans away
  · intro isIdle
    rcases owner with owner | owner | owner <;>
      simp [WaiterState.isIdle, owner] at isIdle
  · intro destroying joining
    rcases owner with owner | owner | owner <;>
      cases joining.symm.trans owner
  · intro stands
    change state.main = .joiningMonitor at stands
    simp [isReturning, stands] at returning

theorem afterStop_destroying (waiter : WaiterState) :
    waiter.afterStop true = .draining ∨
      waiter.afterStop true = .restoringMask ∨
      waiter.afterStop true = .destroyed := by
  simp only [WaiterState.afterStop, if_true]
  split
  · exact .inl rfl
  · exact .inr (.inr rfl)

/-- The steps of the waiter keep what its destructor has come to. -/
theorem ending_of_waiter (ending : state.Ending) {step : WaiterStep}
    (runs : state.runsWaiter step = true) :
    ({ state with
      waiter := state.waiter.apply step
      killed := state.delivers step } : Process).Ending := by
  obtain ⟨idle, unrequested, joining, monitor⟩ := ending
  cases step with
  | testStop =>
      refine ⟨idle, ?_, ?_, monitor⟩
      · intro isIdle
        exact (any_map_stopRequested _ _).trans (unrequested isIdle)
      · intro destroying owner
        obtain ⟨destroys, requested⟩ := joining destroying owner
        exact ⟨destroys, (any_map_stopRequested _ _).trans requested⟩
  | sigtimedwait result =>
      refine ⟨idle, ?_, ?_, monitor⟩
      · intro isIdle
        exact (any_map_stopRequested _ _).trans (unrequested isIdle)
      · intro destroying owner
        obtain ⟨destroys, requested⟩ := joining destroying owner
        exact ⟨destroys, (any_map_stopRequested _ _).trans requested⟩
  | stop destroying =>
      simp only [runsWaiter, Bool.and_eq_true] at runs
      obtain ⟨rfl, returning⟩ := runs
      cases found : state.waiter.waiter.waitThread with
      | none =>
          apply ending_of_behind returning
          simp only [WaiterState.apply, WaiterState.stop, found]
          exact afterStop_destroying state.waiter
      | some thread =>
          have shape : state.waiter.apply (.stop true) =
              (state.waiter.setThread (some { thread with
                stopRequested := true })).goto (.joining true) := by
            simp only [WaiterState.apply, WaiterState.stop, found]
          rw [shape]
          refine ⟨?_, ?_, ?_, monitor⟩
          · intro away
            cases returning.symm.trans away
          · intro isIdle
            cases isIdle
          · rintro _ ⟨⟩
            exact ⟨rfl, rfl⟩
  | join destroying =>
      simp only [runsWaiter, Bool.and_eq_true] at runs
      obtain ⟨rfl, returning⟩ := runs
      exact ending_of_behind returning (afterStop_destroying state.waiter)
  | drain result =>
      apply ending_of_behind runs
      simp only [WaiterState.apply]
      split
      · exact .inl rfl
      · split
        · exact .inl rfl
        · exact .inr (.inl rfl)
  | restoreMask error =>
      apply ending_of_behind runs
      simp only [WaiterState.apply]
      split
      · exact .inr (.inr rfl)
      · exact .inr (.inr rfl)
  | _ => cases runs

theorem ending_of_moves (handled : state.Handled) (loop : state.Loop)
    (ending : state.Ending) (moves : state.Moves label target) :
    target.Ending := by
  obtain ⟨idle, unrequested, joining, monitor⟩ := ending
  -- as long as `main` is not returning the waiter belongs to no destructor
  have still (stays : state.isReturning = false ∧ state.hasExited = false) :
      state.waiter.isIdle = true := idle stays.1 stays.2
  cases moves with
  | @startWaiter thread starting =>
      obtain ⟨isIdle, unstopped⟩ := ending_of_start handled starting thread
      refine ⟨fun _ _ => isIdle, fun _ => unstopped, ?_, by simp⟩
      intro destroying owner
      cases owner
  | @startFails thread starting =>
      obtain ⟨isIdle, unstopped⟩ := ending_of_start handled starting thread
      refine ⟨fun _ _ => isIdle, fun _ => unstopped, ?_, by simp⟩
      intro destroying owner
      cases owner
  | testLoop stands =>
      refine ⟨fun _ _ => still (by simp [isReturning, hasExited, stands]),
        unrequested, joining, ?_⟩
      dsimp only
      split
      · simp
      · simp
  | requestStop stands =>
      refine ⟨fun _ _ => still (by simp [isReturning, hasExited, stands]),
        unrequested, joining, fun _ => ?_⟩
      have present : state.monitorThread.isSome = true := by
        rw [loop.polled, stands]
        rfl
      obtain ⟨thread, found⟩ := Option.isSome_iff_exists.mp present
      simp [monitorStopRequested, found]
  | waiter runs =>
      exact ending_of_waiter ⟨idle, unrequested, joining, monitor⟩ runs
  | notifyOne =>
      refine ⟨?_, ?_, ?_, ?_⟩
      · intro away present
        apply still
        revert away present
        simp only [isReturning, hasExited]
        cases state.main <;> simp [MainPoint.notified]
      · intro isIdle
        exact (any_map_stopRequested _ _).trans (unrequested isIdle)
      · intro destroying owner
        obtain ⟨destroys, requested⟩ := joining destroying owner
        exact ⟨destroys, (any_map_stopRequested _ _).trans requested⟩
      · intro stands
        exact monitor (eq_of_notified stands (by simp))
  | prepareMonitor =>
      exact ⟨idle, unrequested, joining, fun stands =>
        (any_map_monitor _ _).trans (monitor stands)⟩
  | testMonitorStop =>
      exact ⟨idle, unrequested, joining, fun stands =>
        (any_map_monitor _ _).trans (monitor stands)⟩
  | poll =>
      exact ⟨idle, unrequested, joining, fun stands =>
        (any_map_monitor _ _).trans (monitor stands)⟩
  | pushEvent => exact ⟨idle, unrequested, joining, monitor⟩
  | createThread => exact ⟨idle, unrequested, joining, monitor⟩
  | blockedSignal => exact ⟨idle, unrequested, joining, monitor⟩
  | kill => exact ⟨idle, unrequested, joining, monitor⟩
  | setUpFails => exact ⟨by simp [isReturning], unrequested, joining, by simp⟩
  | joinMonitor =>
      exact ⟨by simp [isReturning], unrequested, joining, by simp⟩
  | exit => exact ⟨by simp [hasExited], unrequested, joining, by simp⟩
  | _ stands =>
      exact ⟨fun _ _ => still (by simp [isReturning, hasExited, *]),
        unrequested, joining, by simp⟩

theorem ending_of_initial (initial : state.Initial) : state.Ending := by
  have handled := handled_of_initial initial
  obtain ⟨idle, absent, _⟩ := handled.unstarted initial.main
  refine ⟨fun _ _ => idle, fun _ => by simp [waitStopRequested, absent], ?_,
    by simp [initial.main]⟩
  intro destroying owner
  simp [WaiterState.isIdle, owner] at idle

theorem ending_reachable (reached : processMachine.Reachable state) :
    state.Ending :=
  reached.invariant_with
    (fun _ reached => And.intro (handled_reachable reached)
      (loop_reachable reached))
    (fun _ => ending_of_initial)
    fun _ _ _ known ending stepped =>
      ending_of_moves known.1 known.2 ending (moves_of_step stepped).2.2

/-- A signal is pending for a waiting thread which nobody stops. -/
def Awaited (state : Process) : Prop :=
  (∃ signal, state.waiter.pending.has signal = true) ∧
    (state.main = .starting ∨
      state.waiter.waitsAt .testingStop = true ∨
      state.waiter.waitsAt .waiting = true)

/-- The end of the process has been brought about: by a signal, by the
handler, or because `main` returns already. -/
def Signalled (state : Process) : Prop :=
  state.Awaited ∨ state.waiter.waitsAt .invoking = true ∨ state.Pushed ∨
    state.isReturning = true ∨ state.hasExited = true

theorem waitsAt_moveThread {waiter : WaiterState} {here there : WaitPoint}
    {point : WaitThread → WaitPoint}
    (stands : waiter.waitsAt here = true)
    (moves : ∀ thread, waiter.waiter.waitThread = some thread →
      point thread = there) :
    (waiter.moveThread point).waitsAt there = true := by
  obtain ⟨thread, found, _⟩ := waitsAt_iff.mp stands
  rw [waitsAt_iff]
  refine ⟨{ thread with point := point thread }, ?_, moves thread found⟩
  simp [WaiterState.moveThread, WaiterState.setThread, found]

/-- Where neither the waiter nor the handler moves, the stop stays on its
way. -/
theorem Signalled.congr (signalled : state.Signalled)
    (waiter : target.waiter = state.waiter)
    (notifying : target.notifying = state.notifying)
    (main : state.main = .starting ∨ state.isReturning = true ∨
      state.hasExited = true → target.main = state.main) :
    target.Signalled := by
  rcases signalled with ⟨pending, starting | waits⟩ | invoking | pushed |
    returning | exited
  · refine .inl ⟨?_, .inl ((main (.inl starting)).trans starting)⟩
    rw [waiter]
    exact pending
  · refine .inl ⟨?_, .inr ?_⟩
    · rw [waiter]
      exact pending
    · rw [waiter]
      exact waits
  · refine .inr (.inl ?_)
    rw [waiter]
    exact invoking
  · refine .inr (.inr (.inl ?_))
    rw [Pushed, waiter, notifying]
    exact pushed
  · refine .inr (.inr (.inr (.inl ?_)))
    rw [isReturning, main (.inr (.inl returning))]
    exact returning
  · refine .inr (.inr (.inr (.inr ?_)))
    rw [hasExited, main (.inr (.inr exited))]
    exact exited

/-- A waiting thread which nobody stops goes on to receive the signal. -/
theorem signalled_of_wait {step : WaiterStep}
    (unrequested : state.waitStopRequested = false)
    (wait : step = .testStop ∨ ∃ result, step = .sigtimedwait result)
    (isEnabled : state.waiter.enabled step = true)
    (awaited : state.Awaited) :
    ({ state with
      waiter := state.waiter.apply step
      killed := state.delivers step } : Process).Signalled := by
  obtain ⟨pending, _⟩ := awaited
  rcases wait with rfl | ⟨result, rfl⟩
  · refine .inl ⟨pending, .inr (.inr (waitsAt_moveThread isEnabled ?_))⟩
    intro thread found
    rw [waitStopRequested, found] at unrequested
    exact if_neg (by simpa using unrequested)
  · simp only [WaiterState.enabled, Bool.and_eq_true] at isEnabled
    cases result with
    | received signal =>
        exact .inr (.inl (waitsAt_moveThread isEnabled.1 fun _ _ => rfl))
    | failed error =>
        by_cases timedOut : error = eAGAIN ∨ error = eINTR
        · exact .inl ⟨pending, .inr (.inl (waitsAt_moveThread isEnabled.1
            fun _ _ => if_pos timedOut))⟩
        · exact .inr (.inl (waitsAt_moveThread isEnabled.1
            fun _ _ => if_neg timedOut))

/-- One more signal does not take back the stop. -/
theorem signalled_of_signal (signalled : state.Signalled)
    (signal : TerminationSignal) :
    ({ state with
      waiter := state.waiter.apply (.generate signal) } :
        Process).Signalled := by
  rcases signalled with ⟨_, waits⟩ | later
  · refine .inl ⟨⟨signal, ?_⟩, waits⟩
    cases signal <;> rfl
  · exact .inr later

theorem signalled_of_moves (handled : state.Handled)
    (ending : state.Ending) (present : state.hasExited = false)
    (moves : state.Moves label target) (signalled : state.Signalled) :
    target.Signalled := by
  cases moves with
  | @startWaiter thread starting created =>
      have unpushed : ¬state.Pushed := by
        simp [Pushed, handled.quiet starting,
          (handled.unstarted starting).2.2]
      rcases signalled with ⟨pending, _⟩ | invoking | pushed | returning |
        exited
      · refine .inl ⟨?_, .inr (.inl ?_)⟩
        · simpa [WaiterState.start, created, WaiterState.setThread,
            WaiterState.goto] using pending
        · simp [WaiterState.waitsAt, WaiterState.start, created,
            WaiterState.setThread, WaiterState.goto, WaitThread.start]
      · rw [handled.silent starting] at invoking
        cases invoking
      · exact absurd pushed unpushed
      · simp [isReturning, starting] at returning
      · cases present.symm.trans exited
  | startFails => exact .inr (.inr (.inr (.inl rfl)))
  | setUpFails => exact .inr (.inr (.inr (.inl rfl)))
  | joinMonitor => exact .inr (.inr (.inr (.inl rfl)))
  | exit => exact .inr (.inr (.inr (.inr rfl)))
  | pushEvent => exact .inr (.inr (.inl (.inl rfl)))
  | notifyOne pushed =>
      refine .inr (.inr (.inl (.inr ?_)))
      exact congrArg (· + 1) (handled.once.waiting
        (WaiterState.waits_of_waitsAt (handled.notifying pushed)
          (by decide)))
  | @waiter step runs isEnabled =>
      rcases signalled with awaited | invoking | pushed | returning | exited
      · by_cases returning : state.isReturning = true
        · exact .inr (.inr (.inr (.inl returning)))
        · rw [Bool.not_eq_true] at returning
          have unrequested := ending.unrequested
            (ending.idle returning present)
          refine signalled_of_wait unrequested ?_ isEnabled awaited
          cases step with
          | testStop => exact .inl rfl
          | sigtimedwait result => exact .inr ⟨result, rfl⟩
          | _ => simp [runsWaiter, returning] at runs
      · exact .inr (.inl (invoking_apply invoking runs isEnabled))
      · refine .inr (.inr (.inl ?_))
        have same : (state.waiter.apply step).invocations =
            state.waiter.invocations := by
          apply WaiterState.invocations_apply
          rintro rfl
          cases runs
        rw [Pushed, same]
        exact pushed
      · exact .inr (.inr (.inr (.inl returning)))
      · cases present.symm.trans exited
  | blockedSignal => exact signalled_of_signal signalled _
  | createThread => exact signalled.congr rfl rfl fun _ => rfl
  | kill => exact signalled.congr rfl rfl fun _ => rfl
  | prepareMonitor => exact signalled.congr rfl rfl fun _ => rfl
  | testMonitorStop => exact signalled.congr rfl rfl fun _ => rfl
  | poll => exact signalled.congr rfl rfl fun _ => rfl
  | _ =>
      refine signalled.congr rfl rfl ?_
      simp [isReturning, hasExited, *]

def mainRank (isRunning : Bool) : MainPoint → Nat
  | .starting => 40
  | .settingUp => 20
  | .loopHead => if isRunning then 11 else 5
  | .evaluating => 10
  | .falsified => 9
  | .blocked => 8
  | .woken => 12
  | .processing _ => 6
  | .stoppingMonitor => 4
  | .joiningMonitor => 3
  | .returning _ => 2
  | .exited _ => 0

/-- What is left of the waiting thread.  Its notification is worth the way
back of a woken `main`. -/
def waitRank (notifying : Bool) : Option WaitThread → Nat
  | none => 0
  | some thread =>
      match thread.point with
      | .testingStop => if thread.stopRequested then 8 else 12
      | .waiting => if thread.stopRequested then 10 else 11
      | .invoking => if notifying then 6 else 7
      | .finished => 0

def ownerRank : OwnerPoint → Nat
  | .idle _ => 6
  | .joining _ => 5
  | .draining => 2
  | .restoringMask => 1
  | .destroyed => 0

def pendingRank (pending : SignalSet) : Nat :=
  pending.sigint.toNat + pending.sigterm.toNat

def monitorRank : Option MonitorThread → Nat
  | none => 0
  | some thread =>
      match thread.point with
      | .preparing => 3
      | .polling => 2
      | .testingStop => 1
      | .finished => 0

def remaining (state : Process) : Nat :=
  mainRank state.isRunning state.main +
    waitRank state.notifying state.waiter.waiter.waitThread +
    ownerRank state.waiter.owner + pendingRank state.waiter.pending +
    monitorRank state.monitorThread

theorem ownerRank_of_idle {waiter : WaiterState}
    (idle : waiter.isIdle = true) : ownerRank waiter.owner = 6 := by
  unfold WaiterState.isIdle at idle
  split at idle
  · simp only [*]
    rfl
  · cases idle

theorem ownerRank_afterStop (waiter : WaiterState) :
    ownerRank (waiter.afterStop true) ≤ 2 := by
  simp only [WaiterState.afterStop, if_true]
  split
  · exact Nat.le_refl 2
  · exact Nat.zero_le 2

theorem pendingRank_remove {pending : SignalSet}
    {signal : TerminationSignal} (present : pending.has signal = true) :
    pendingRank (pending.remove signal) + 1 = pendingRank pending := by
  obtain ⟨sigint, sigterm⟩ := pending
  cases signal <;> simp only [SignalSet.has] at present <;> subst present
  · cases sigterm <;> rfl
  · cases sigint <;> rfl

theorem pendingRank_wait (pending : SignalSet) {result : WaitResult}
    (possible : result.possible pending = true) :
    pendingRank (result.pending pending) ≤ pendingRank pending := by
  cases result with
  | received signal =>
      exact Nat.le_of_lt (Nat.lt_of_succ_le
        (Nat.le_of_eq (pendingRank_remove possible)))
  | failed error => exact Nat.le_refl _

/-- Requesting a stop brings the waiting thread closer to its end. -/
theorem waitRank_stop (notifying : Bool) (thread : WaitThread) :
    waitRank notifying (some { thread with stopRequested := true }) ≤
      waitRank notifying (some thread) := by
  obtain ⟨point, stopRequested⟩ := thread
  cases point <;> cases stopRequested <;> simp [waitRank]

/-- A wait receives a signal, fails, or times out after a stop request. -/
theorem remaining_lt_of_wait {result : WaitResult}
    (progresses : state.idles (.waiter (.sigtimedwait result)) = false)
    (isEnabled : state.waiter.enabled (.sigtimedwait result) = true) :
    ({ state with waiter := state.waiter.apply (.sigtimedwait result) } :
      Process).remaining < state.remaining := by
  simp only [WaiterState.enabled, Bool.and_eq_true] at isEnabled
  obtain ⟨stands, possible⟩ := isEnabled
  obtain ⟨⟨_, stopRequested⟩, found, rfl⟩ := waitsAt_iff.mp stands
  have received := pendingRank_wait state.waiter.pending possible
  have goes : result.next = .invoking ∨
      result.next = .testingStop ∧ stopRequested = true := by
    cases result with
    | received signal => exact .inl rfl
    | failed error =>
        by_cases timedOut : error = eAGAIN ∨ error = eINTR
        · refine .inr ⟨if_pos timedOut, ?_⟩
          simpa [idles, timedOut, waitStopRequested, found] using progresses
        · exact .inl (if_neg timedOut)
  simp only [remaining, WaiterState.apply, WaiterState.moveThread,
    WaiterState.setThread, found, Option.map_some, waitRank]
  rcases goes with invoking | ⟨testing, rfl⟩
  · rw [invoking]
    cases stopRequested <;> cases state.notifying <;> simp <;> omega
  · rw [testing]
    simp only [if_true]
    omega

/-- The steps of the waiting thread and of the destructor. -/
theorem remaining_lt_of_waiter {step : WaiterStep}
    (progresses : state.idles (.waiter step) = false)
    (runs : state.runsWaiter step = true)
    (isEnabled : state.waiter.enabled step = true) :
    ({ state with waiter := state.waiter.apply step } : Process).remaining <
      state.remaining := by
  cases step with
  | testStop =>
      obtain ⟨⟨_, stopRequested⟩, found, rfl⟩ := waitsAt_iff.mp isEnabled
      simp only [remaining, WaiterState.apply, WaiterState.moveThread,
        WaiterState.setThread, found, Option.map_some, waitRank]
      cases stopRequested <;> simp
  | sigtimedwait result => exact remaining_lt_of_wait progresses isEnabled
  | stop destroying =>
      simp only [runsWaiter, Bool.and_eq_true] at runs
      obtain ⟨rfl, _⟩ := runs
      have idle := ownerRank_of_idle isEnabled
      have after := ownerRank_afterStop state.waiter
      simp only [remaining, WaiterState.apply, WaiterState.stop]
      split
      · simp only [WaiterState.goto]
        omega
      · rename_i thread found
        have closer := waitRank_stop state.notifying thread
        simp only [WaiterState.goto, WaiterState.setThread, found]
        simp only [ownerRank] at idle ⊢
        omega
  | join destroying =>
      simp only [runsWaiter, Bool.and_eq_true] at runs
      obtain ⟨rfl, _⟩ := runs
      simp only [WaiterState.enabled, Bool.and_eq_true, decide_eq_true_eq]
        at isEnabled
      have after := ownerRank_afterStop state.waiter
      simp only [remaining, WaiterState.apply, WaiterState.goto,
        WaiterState.setThread, isEnabled.1, waitRank]
      simp only [ownerRank] at after ⊢
      omega
  | drain result =>
      simp only [WaiterState.enabled, Bool.and_eq_true, decide_eq_true_eq]
        at isEnabled
      obtain ⟨draining, possible⟩ := isEnabled
      simp only [remaining, WaiterState.apply, draining]
      cases result with
      | received signal =>
          have removed : pendingRank (state.waiter.pending.remove signal) + 1 =
              pendingRank state.waiter.pending := pendingRank_remove possible
          simp only [WaitResult.pending]
          omega
      | failed error =>
          have other : ¬error = eINTR := of_decide_eq_false progresses
          simp only [WaitResult.pending, if_neg other, ownerRank]
          omega
  | restoreMask error =>
      have restoring : state.waiter.owner = .restoringMask :=
        of_decide_eq_true isEnabled
      simp only [remaining, WaiterState.apply, restoring, ownerRank]
      split
      · simp only [WaiterState.goto]
        omega
      · simp only
        omega
  | _ => cases runs

theorem remaining_lt_of_monitor {point : MonitorPoint}
    (stands : state.monitorAt point = true)
    {next : MonitorThread → MonitorPoint}
    (closer : ∀ thread, state.monitorThread = some thread →
      thread.point = point →
      monitorRank (some { thread with point := next thread }) <
        monitorRank (some thread)) :
    (state.moveMonitor fun thread =>
      { thread with point := next thread }).remaining <
      state.remaining := by
  simp only [monitorAt, Option.any_eq_true, decide_eq_true_eq] at stands
  obtain ⟨thread, found, here⟩ := stands
  have smaller := closer thread found here
  simp only [remaining, moveMonitor, found, Option.map_some]
  omega

/-- `main` goes on. -/
theorem remaining_lt_of_main {point : MainPoint} {isRunning : Bool}
    {events : List EventType}
    (closer : mainRank isRunning point <
      mainRank state.isRunning state.main) :
    ({ state with
      main := point
      isRunning := isRunning
      events := events } : Process).remaining < state.remaining := by
  simp only [remaining]
  omega

theorem remaining_lt_of_start (handled : state.Handled)
    (starting : state.main = .starting) {thread : Option Int}
    {main : MainPoint} {threads : List SignalSet}
    (closer : mainRank state.isRunning main ≤ 20) :
    ({ state with
      waiter := state.waiter.start thread
      threads := threads
      main := main } : Process).remaining < state.remaining := by
  obtain ⟨idle, absent, _⟩ := handled.unstarted starting
  have before := ownerRank_of_idle idle
  have started : waitRank state.notifying
      (state.waiter.start thread).waiter.waitThread ≤ 12 := by
    simp only [WaiterState.start]
    split
    · exact Nat.le_refl _
    · simp [WaiterState.goto, absent, waitRank]
  have owner : ownerRank (state.waiter.start thread).owner = 6 := rfl
  have pending : (state.waiter.start thread).pending =
      state.waiter.pending := by
    simp only [WaiterState.start]
    split
    · rfl
    · rfl
  have unstarted : mainRank state.isRunning .starting = 40 := rfl
  have none : waitRank state.notifying none = 0 := rfl
  simp only [remaining, starting, absent, owner, pending]
  omega

/-- The notification is worth the way back of a woken `main`. -/
theorem remaining_lt_of_notifyOne (handled : state.Handled)
    (pushed : state.notifying = true) :
    ({ state with
      main := state.main.notified
      waiter := state.waiter.apply .invokeHandler
      notifying := false } : Process).remaining < state.remaining := by
  obtain ⟨⟨_, stopRequested⟩, found, rfl⟩ :=
    waitsAt_iff.mp (handled.notifying pushed)
  have woken : mainRank state.isRunning state.main.notified ≤
      mainRank state.isRunning state.main + 4 := by
    cases state.main <;> simp [MainPoint.notified, mainRank]
  simp only [remaining, WaiterState.apply, WaiterState.moveThread,
    WaiterState.setThread, found, Option.map_some, waitRank, pushed, if_true]
  omega

/-- The loop ends after the events which it has taken. -/
theorem remaining_lt_of_processEvents (loop : state.Loop)
    {events : List EventType} (stands : state.main = .processing events) :
    ({ state with
      main := .loopHead
      isRunning := state.isRunning && !events.contains .stop } :
        Process).remaining < state.remaining := by
  apply remaining_lt_of_main
  have stopped : (state.isRunning && !events.contains .stop) = false := by
    rw [contains_stop]
    rcases loop.taken events stands with settled | some
    · simp [settled]
    · simp [List.isEmpty_eq_false_iff.mpr some]
  rw [stopped, stands]
  exact Nat.lt_succ_self 5

theorem remaining_lt_of_moves (handled : state.Handled) (loop : state.Loop)
    (progresses : state.idles label = false)
    (moves : state.Moves label target) :
    target.remaining < state.remaining := by
  cases moves with
  | startWaiter starting =>
      exact remaining_lt_of_start handled starting (Nat.le_refl 20)
  | startFails starting =>
      exact remaining_lt_of_start handled starting (by simp [mainRank])
  | setUp stands =>
      simp only [remaining, stands, mainRank, monitorRank,
        MonitorThread.start]
      split <;> omega
  | setUpFails stands =>
      exact remaining_lt_of_main (by simp [stands, mainRank])
  | testLoop stands =>
      apply remaining_lt_of_main
      cases running : state.isRunning <;> simp [stands, mainRank]
  | takeEvents stands =>
      exact remaining_lt_of_main (by simp [stands, mainRank])
  | falsify stands =>
      exact remaining_lt_of_main (by simp [stands, mainRank])
  | block stands => exact remaining_lt_of_main (by simp [stands, mainRank])
  | resume stands => exact remaining_lt_of_main (by simp [stands, mainRank])
  | processEvents stands => exact remaining_lt_of_processEvents loop stands
  | requestStop stands =>
      have same : monitorRank (state.monitorThread.map fun thread =>
          { thread with stopRequested := true }) =
          monitorRank state.monitorThread := by
        cases state.monitorThread <;> rfl
      simp only [remaining, stands, mainRank, same]
      omega
  | joinMonitor stands =>
      simp only [remaining, stands, mainRank, monitorRank]
      omega
  | waiter runs isEnabled =>
      exact remaining_lt_of_waiter progresses runs isEnabled
  | pushEvent invoking quiet =>
      obtain ⟨⟨_, stopRequested⟩, found, rfl⟩ := waitsAt_iff.mp invoking
      simp only [remaining, found, waitRank, quiet]
      simp
  | notifyOne pushed => exact remaining_lt_of_notifyOne handled pushed
  | prepareMonitor stands =>
      refine remaining_lt_of_monitor stands fun thread _ here => ?_
      simp [monitorRank, here]
  | testMonitorStop stands =>
      refine remaining_lt_of_monitor stands fun thread found here => ?_
      have requested : thread.stopRequested = true := by
        simpa [idles, monitorStopRequested, found] using progresses
      simp [monitorRank, here, requested]
  | poll stands =>
      refine remaining_lt_of_monitor stands fun thread _ here => ?_
      simp [monitorRank, here]
  | exit stands => exact remaining_lt_of_main (by simp [stands, mainRank])
  | wakeSpuriously => cases progresses
  | createThread => cases progresses
  | blockedSignal => cases progresses
  | kill => cases progresses

/-- Some step which is not idle can be taken. -/
def CanProgress (state : Process) : Prop :=
  ∃ label, state.Orderly label ∧ state.idles label = false ∧
    state.enabled label = true

/-- The handler under way comes to its end when the mutex is free. -/
theorem canProgress_of_invoking (alive : state.killed = false)
    (present : state.hasExited = false)
    (invoking : state.waiter.waitsAt .invoking = true)
    (free : state.main.holdsMutex = false) : state.CanProgress := by
  cases pushed : state.notifying with
  | true => exact ⟨.notifyOne, trivial, rfl, by simp [enabled, *]⟩
  | false => exact ⟨.pushEvent, trivial, rfl, by simp [enabled, *]⟩

/-- A blocked `main` is woken up: the stop which is on its way comes to a
notification. -/
theorem canProgress_of_blocked (loop : state.Loop)
    (alive : state.killed = false) (blocked : state.main = .blocked)
    (signalled : state.Signalled) : state.CanProgress := by
  have present : state.hasExited = false := by simp [hasExited, blocked]
  obtain ⟨running, notified⟩ := loop.blocked blocked
  rcases signalled with ⟨⟨signal, pending⟩, starting | testing | waiting⟩ |
    invoking | pushed | returning | exited
  · cases blocked.symm.trans starting
  · refine ⟨.waiter .testStop, trivial, rfl, ?_⟩
    simp [enabled, runsWaiter, WaiterState.enabled, *]
  · refine ⟨.waiter (.sigtimedwait (.received signal)), trivial, rfl, ?_⟩
    simp [enabled, runsWaiter, WaiterState.enabled, WaitResult.possible, *]
  · exact canProgress_of_invoking alive present invoking
      (by simp [blocked, MainPoint.holdsMutex])
  · have outstanding : state.events ≠ [] := by
      rcases loop.delivered.mp pushed with stopped | some
      · cases running.symm.trans stopped
      · simpa [outstanding, blocked, pendings] using some
    exact ⟨.notifyOne, trivial, rfl, by simp [enabled, *]⟩
  · simp [isReturning, blocked] at returning
  · cases present.symm.trans exited

/-- A thread which polls the ring buffer is joined when it has seen the
stop. -/
theorem canProgress_of_joiningMonitor (ending : state.Ending)
    (alive : state.killed = false)
    (joining : state.main = .joiningMonitor) : state.CanProgress := by
  have present : state.hasExited = false := by simp [hasExited, joining]
  have requested := ending.monitor joining
  obtain ⟨thread, found, _⟩ := (Option.any_eq_true ..).mp requested
  cases point : thread.point with
  | preparing =>
      exact ⟨.prepareMonitor, trivial, rfl, by simp [enabled, monitorAt, *]⟩
  | testingStop =>
      exact ⟨.testMonitorStop, trivial, by simp [idles, requested],
        by simp [enabled, monitorAt, *]⟩
  | polling => exact ⟨.poll, trivial, rfl, by simp [enabled, monitorAt, *]⟩
  | finished =>
      exact ⟨.joinMonitor, trivial, rfl, by simp [enabled, monitorAt, *]⟩

theorem empty_or_has (pending : SignalSet) :
    pending = .empty ∨ ∃ signal, pending.has signal = true := by
  obtain ⟨sigint, sigterm⟩ := pending
  cases sigint with
  | true => exact .inr ⟨.sigint, rfl⟩
  | false =>
      cases sigterm with
      | true => exact .inr ⟨.sigterm, rfl⟩
      | false => exact .inl rfl

/-- The destructor of the waiter comes to its end. -/
theorem canProgress_of_returning (ending : state.Ending)
    (alive : state.killed = false) {code : Int}
    (stands : state.main = .returning code) : state.CanProgress := by
  have present : state.hasExited = false := by simp [hasExited, stands]
  have returning : state.isReturning = true := by simp [isReturning, stands]
  cases owner : state.waiter.owner with
  | idle result =>
      refine ⟨.waiter (.stop true), trivial, rfl, ?_⟩
      simp [enabled, runsWaiter, WaiterState.enabled, WaiterState.isIdle, *]
  | joining destroying =>
      obtain ⟨rfl, requested⟩ := ending.joining destroying owner
      obtain ⟨thread, found, _⟩ := (Option.any_eq_true ..).mp requested
      have stands {point : WaitPoint} (here : thread.point = point) :
          state.waiter.waitsAt point = true :=
        waitsAt_iff.mpr ⟨thread, found, here⟩
      cases point : thread.point with
      | testingStop =>
          refine ⟨.waiter .testStop, trivial, rfl, ?_⟩
          simp [enabled, runsWaiter, WaiterState.enabled, stands point, *]
      | waiting =>
          refine ⟨.waiter (.sigtimedwait (.failed eAGAIN)), trivial,
            by simp [idles, requested], ?_⟩
          simp [enabled, runsWaiter, WaiterState.enabled, stands point,
            WaitResult.possible, *]
      | invoking =>
          exact canProgress_of_invoking alive present (stands point)
            (by simp [MainPoint.holdsMutex, *])
      | finished =>
          refine ⟨.waiter (.join true), trivial, rfl, ?_⟩
          simp [enabled, runsWaiter, WaiterState.enabled, stands point, *]
  | draining =>
      rcases empty_or_has state.waiter.pending with empty | ⟨signal, pending⟩
      · refine ⟨.waiter (.drain (.failed eAGAIN)), .inr empty, rfl, ?_⟩
        simp [enabled, runsWaiter, WaiterState.enabled, WaitResult.possible,
          *]
      · refine ⟨.waiter (.drain (.received signal)), trivial, rfl, ?_⟩
        simp [enabled, runsWaiter, WaiterState.enabled, WaitResult.possible,
          *]
  | restoringMask =>
      refine ⟨.waiter (.restoreMask 0), trivial, rfl, ?_⟩
      simp [enabled, runsWaiter, WaiterState.enabled, *]
  | destroyed => exact ⟨.exit, trivial, rfl, by simp [enabled, *]⟩

theorem canProgress (loop : state.Loop) (ending : state.Ending)
    (alive : state.killed = false) (present : state.hasExited = false)
    (signalled : state.Signalled) : state.CanProgress := by
  cases main : state.main with
  | starting => exact ⟨.startWaiter none, trivial, rfl, by simp [enabled, *]⟩
  | settingUp => exact ⟨.setUp none, trivial, rfl, by simp [enabled, *]⟩
  | loopHead => exact ⟨.testLoop, trivial, rfl, by simp [enabled, *]⟩
  | evaluating => exact ⟨.evaluate, trivial, rfl, by simp [enabled, *]⟩
  | falsified => exact ⟨.block, trivial, rfl, by simp [enabled, *]⟩
  | blocked => exact canProgress_of_blocked loop alive main signalled
  | woken => exact ⟨.resume, trivial, rfl, by simp [enabled, *]⟩
  | processing pendings =>
      exact ⟨.processEvents, trivial, rfl, by simp [enabled, isProcessing, *]⟩
  | stoppingMonitor => exact ⟨.requestStop, trivial, rfl, by simp [enabled, *]⟩
  | joiningMonitor => exact canProgress_of_joiningMonitor ending alive main
  | returning code => exact canProgress_of_returning ending alive main
  | exited code => simp [hasExited, main] at present

/-- `main` has got into its loop. -/
def SetUp (state : Process) : Prop :=
  polls state.main = true ∨ leftLoop state.main = true

theorem setUp_of_moves (setUp : state.SetUp)
    (moves : state.Moves label target) : target.SetUp := by
  cases moves with
  | testLoop =>
      refine .inl ?_
      dsimp only
      split
      · rfl
      · rfl
  | notifyOne =>
      obtain ⟨_, sameLeft, samePolls⟩ := notified_same state.main
      simp only [SetUp, sameLeft, samePolls]
      exact setUp
  | joinMonitor => exact .inr rfl
  | startWaiter starting => simp [SetUp, starting, polls, leftLoop] at setUp
  | startFails starting => simp [SetUp, starting, polls, leftLoop] at setUp
  | setUpFails stands => simp [SetUp, stands, polls, leftLoop] at setUp
  | exit stands => simpa [SetUp, stands, polls, leftLoop] using setUp
  | waiter => exact setUp
  | pushEvent => exact setUp
  | prepareMonitor => exact setUp
  | testMonitorStop => exact setUp
  | poll => exact setUp
  | createThread => exact setUp
  | blockedSignal => exact setUp
  | kill => exact setUp
  | _ => exact .inl rfl

/-- What a run which is on its way to the end keeps. -/
structure Closing (state : Process) : Prop where
  reached : processMachine.Reachable state
  alive : state.killed = false
  drained : state.Drained
  signalled : state.Signalled

theorem Closing.next (closing : state.Closing)
    (orderly : state.Orderly label)
    (stepped : processMachine.step state label = some target) :
    target.Closing := by
  obtain ⟨reached, alive, drained, signalled⟩ := closing
  obtain ⟨_, present, moves⟩ := moves_of_step stepped
  exact ⟨.next reached trivial stepped,
    alive_of_moves drained alive orderly moves,
    drained_of_moves drained orderly moves,
    signalled_of_moves (handled_reachable reached)
      (ending_reachable reached) present moves signalled⟩

theorem Closing.inevitable (closing : state.Closing) (budget : Nat) :
    (processMachine.budgeted idles).Inevitable
      (fun run label => run.1.Orderly label)
      (fun final => final.1.hasExited = true) (state, budget) := by
  refine Machine.Inevitable.of_budget Orderly
    (fun state => state.hasExited = true) Closing remaining ?_ ?_ ?_ closing
    budget
  · intro state closing present
    rw [Bool.not_eq_true] at present
    obtain ⟨label, orderly, progresses, isEnabled⟩ := canProgress
      (loop_reachable closing.reached) (ending_reachable closing.reached)
      closing.alive present closing.signalled
    exact ⟨label, _, orderly, progresses, if_pos isEnabled⟩
  · intro state label target closing orderly stepped
    exact closing.next orderly stepped
  · intro state label target closing progresses stepped
    exact remaining_lt_of_moves (handled_reachable closing.reached)
      (loop_reachable closing.reached) progresses
      (moves_of_step stepped).2.2

end Process

/-- When a termination signal is pending for the waiter, or its handler has
been invoked, `main` returns in every interleaving, and with code 0 if it had
got into its loop.  Nobody waits for a wake-up which does not come, and
further signals, new threads and idle rounds only delay the end. -/
theorem process_exits {state : Process}
    (reached : processMachine.Reachable state)
    (alive : state.killed = false) (drained : state.Drained)
    (signalled : state.Signalled) (budget : Nat) :
    (processMachine.budgeted Process.idles).Inevitable
      (fun run label => run.1.Orderly label)
      (fun final => ∃ code, final.1.main = .exited code ∧
        (Process.polls state.main = true → code = 0)) (state, budget) := by
  have closing : state.Closing := ⟨reached, alive, drained, signalled⟩
  have kept : (processMachine.budgeted Process.idles).Inevitable
      (fun run label => run.1.Orderly label)
      (fun final => final.1.hasExited = true ∧
        (Process.polls state.main = true → final.1.SetUp))
      (state, budget) := by
    refine (closing.inevitable budget).with_invariant ?_ .inl
    intro _ _ _ setUp _ stepped polls
    exact Process.setUp_of_moves (setUp polls)
      (Process.moves_of_step (Machine.budgeted_step stepped).1).2.2
  refine kept.mono ?_
  rintro ⟨final, _⟩ ⟨exited, setUp⟩
  cases main : final.main with
  | exited code =>
      refine ⟨code, rfl, fun polls => ?_⟩
      simpa [Process.SetUp, main, Process.polls, Process.leftLoop]
        using setUp polls
  | _ => simp [Process.hasExited, main] at exited

/-- `main` is blocked when the signal arrives, and a second one may follow. -/
theorem process_exits_signalled :
    (processMachine.budgeted Process.idles).Inevitable
      (fun run label => run.1.Orderly label)
      (fun final => final.1.main = .exited 0) (signalledProcess, 3) ∧
    signalledProcess.Orderly (.signal .sigterm) := by
  have signalled : signalledProcess.Signalled :=
    .inl ⟨⟨.sigterm, rfl⟩, .inr (.inl rfl)⟩
  have drained : signalledProcess.Drained := by
    intro restoring
    cases restoring
  refine ⟨(process_exits (Machine.reachable_finish initialProcess_initial
    untilSignalled_enabled) rfl drained signalled 3).mono ?_, ?_⟩
  · rintro final ⟨code, exited, zero⟩
    rw [exited, zero rfl]
  · exact ⟨rfl, by decide⟩

end LibbpfControl.Main
