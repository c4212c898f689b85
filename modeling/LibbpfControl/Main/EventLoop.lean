import LibbpfControl.Liveness
import LibbpfControl.Utils.TerminationSignalWaiter

/-!
# The event loop of `main` and the end of the process

`main` constructs the termination signal waiter before any other thread
exists, starts it, sets everything up, starts the thread which polls the ring
buffer and then waits on a condition variable for events.  The handler of the
waiter appends a stop event under the mutex of the condition variable and
notifies afterwards, outside of it.

Signals are process-wide: one which some thread does not block ends the
process by its default action.  A new thread has the mask of the thread which
created it, so what counts is who was there before the waiter.  A signal which
is pending when the destructor of the waiter restores the mask ends the
process as well; the destructor empties the pending signals before that.

As in the shutdown of the manager, evaluating the predicate and blocking are
separate points.  Here a stop cannot fall between the two, because it is
appended under the mutex.
-/

namespace LibbpfControl.Main

open Utils

inductive EventType where
  | stop
  deriving DecidableEq, Repr

/-- Where `main` gives up before its event loop. -/
inductive SetUpFailure where
  | openOrCreate
  | loadProgram
  | createAttacher
  deriving DecidableEq, Repr

def SetUpFailure.code : SetUpFailure → Int
  | .openOrCreate => 1
  | .loadProgram => -1
  | .createAttacher => -1

inductive MainPoint where
  /-- The waiter is constructed, `start()` is next. -/
  | starting
  /-- Maps, program and attacher; the threads of the manager start here. -/
  | settingUp
  | loopHead
  /-- Holding `event_mutex`, about to evaluate the predicate. -/
  | evaluating
  /-- Holding `event_mutex`, about to release it and block. -/
  | falsified
  | blocked
  /-- Notified, the mutex has to be taken again. -/
  | woken
  | processing (pendings : List EventType)
  | stoppingMonitor
  | joiningMonitor
  /-- Leaving the scope of `main`, which destroys the waiter. -/
  | returning (code : Int)
  /-- `main` has returned; the manager, which is static, is destroyed after
  that. -/
  | exited (code : Int)
  deriving DecidableEq, Repr

def MainPoint.holdsMutex : MainPoint → Bool
  | .evaluating => true
  | .falsified => true
  | _ => false

def MainPoint.notified : MainPoint → MainPoint
  | .blocked => .woken
  | point => point

inductive MonitorPoint where
  /-- Setting the callback and creating the event buffer. -/
  | preparing
  | testingStop
  | polling
  | finished
  deriving DecidableEq, Repr

/-- `monitor_thread`. -/
structure MonitorThread where
  point : MonitorPoint
  stopRequested : Bool
  deriving DecidableEq, Repr

def MonitorThread.start : MonitorThread where
  point := .preparing
  stopRequested := false

structure Process where
  /-- The waiter, the mask of the main thread and the pending signals. -/
  waiter : WaiterState
  /-- The handler has appended its event and not yet notified. -/
  notifying : Bool
  main : MainPoint
  isRunning : Bool
  events : List EventType
  monitorThread : Option MonitorThread
  /-- The masks of the threads created so far. -/
  threads : List SignalSet
  /-- A signal has ended the process. -/
  killed : Bool
  deriving DecidableEq, Repr

inductive ProcessStep where
  | startWaiter (thread : Option Int)
  | setUp (failure : Option SetUpFailure)
  | testLoop
  | evaluate
  | block
  | wakeSpuriously
  | resume
  | processEvents
  | requestStop
  | joinMonitor
  /-- A step of the waiting thread before the handler, or of the destructor
  of the waiter. -/
  | waiter (step : WaiterStep)
  | pushEvent
  | notifyOne
  | prepareMonitor
  | testMonitorStop
  | poll
  /-- A thread is created by the main thread or by another one. -/
  | createThread (creator : Option Nat)
  | signal (signal : TerminationSignal)
  | exit
  deriving DecidableEq, Repr

namespace Process

def monitorAt (state : Process) (point : MonitorPoint) : Bool :=
  state.monitorThread.any fun thread => thread.point = point

def isReturning (state : Process) : Bool :=
  match state.main with
  | .returning _ => true
  | _ => false

def isProcessing (state : Process) : Bool :=
  match state.main with
  | .processing _ => true
  | _ => false

def hasExited (state : Process) : Bool :=
  match state.main with
  | .exited _ => true
  | _ => false

/-- The waiting thread takes its own steps, and `main` those of the
destructor. -/
def runsWaiter (state : Process) : WaiterStep → Bool
  | .testStop => true
  | .sigtimedwait _ => true
  | .stop destroying => destroying && state.isReturning
  | .join destroying => destroying && state.isReturning
  | .drain _ => state.isReturning
  | .restoreMask _ => state.isReturning
  | _ => false

/-- The mask of the main thread or of another one. -/
def maskOf (state : Process) : Option Nat → Option SignalSet
  | none => some state.waiter.mask
  | some thread => state.threads[thread]?

/-- Every thread blocks the signal. -/
def blocks (state : Process) (signal : TerminationSignal) : Bool :=
  state.waiter.mask.has signal && state.threads.all (·.has signal)

/-- Restoring the mask delivers a pending signal which it does not block. -/
def delivers (state : Process) : WaiterStep → Bool
  | .restoreMask error =>
      error = 0 && [TerminationSignal.sigint, .sigterm].any fun signal =>
        state.waiter.pending.has signal &&
          !state.waiter.waiter.previousMask.has signal
  | _ => false

/-- The predicate of the wait. -/
def hasEvents (state : Process) : Bool :=
  !state.isRunning || !state.events.isEmpty

def enabled (state : Process) (label : ProcessStep) : Bool :=
  !state.killed && !state.hasExited &&
  match label with
  | .startWaiter _ => state.main = .starting
  | .setUp _ => state.main = .settingUp
  | .testLoop => state.main = .loopHead
  | .evaluate => state.main = .evaluating
  | .block => state.main = .falsified
  | .wakeSpuriously => state.main = .blocked
  | .resume => state.main = .woken
  | .processEvents => state.isProcessing
  | .requestStop => state.main = .stoppingMonitor
  | .joinMonitor => state.main = .joiningMonitor && state.monitorAt .finished
  | .waiter step => state.runsWaiter step && state.waiter.enabled step
  | .pushEvent =>
      state.waiter.waitsAt .invoking && !state.notifying &&
        !state.main.holdsMutex
  | .notifyOne => state.notifying
  | .prepareMonitor => state.monitorAt .preparing
  | .testMonitorStop => state.monitorAt .testingStop
  | .poll => state.monitorAt .polling
  | .createThread creator => (state.maskOf creator).isSome
  | .signal _ => true
  | .exit => state.isReturning && state.waiter.owner = .destroyed

def goto (state : Process) (main : MainPoint) : Process :=
  { state with main := main }

def moveMonitor (state : Process)
    (move : MonitorThread → MonitorThread) : Process :=
  { state with monitorThread := state.monitorThread.map move }

/-- A thread with the mask of the thread which creates it. -/
def spawn (state : Process) (creator : Option Nat) : Process :=
  { state with threads := (state.maskOf creator).toList ++ state.threads }

def apply (state : Process) : ProcessStep → Process
  | .startWaiter thread =>
      let result := state.waiter.startResult thread
      let started := { state with waiter := state.waiter.start thread }
      if result = 0 then (started.spawn none).goto .settingUp
      else started.goto (.returning result)
  | .setUp none =>
      { (state.spawn none).goto .loopHead with
        monitorThread := some .start }
  | .setUp (some failure) => state.goto (.returning failure.code)
  | .testLoop =>
      state.goto (if state.isRunning then .evaluating else .stoppingMonitor)
  | .evaluate =>
      if state.hasEvents then
        { state.goto (.processing state.events) with events := [] }
      else state.goto .falsified
  | .block => state.goto .blocked
  | .wakeSpuriously => state.goto .woken
  | .resume => state.goto .evaluating
  | .processEvents =>
      match state.main with
      | .processing pendings =>
          { state.goto .loopHead with
            isRunning := state.isRunning && !pendings.contains .stop }
      | _ => state
  | .requestStop =>
      (state.moveMonitor fun thread =>
        { thread with stopRequested := true }).goto .joiningMonitor
  | .joinMonitor =>
      { state.goto (.returning 0) with monitorThread := none }
  | .waiter step =>
      { state with
        waiter := state.waiter.apply step
        killed := state.delivers step }
  | .pushEvent =>
      { state with
        events := state.events ++ [.stop]
        notifying := true }
  | .notifyOne =>
      { state.goto state.main.notified with
        waiter := state.waiter.apply .invokeHandler
        notifying := false }
  | .prepareMonitor =>
      state.moveMonitor fun thread => { thread with point := .testingStop }
  | .testMonitorStop =>
      state.moveMonitor fun thread =>
        { thread with
          point := if thread.stopRequested then .finished else .polling }
  | .poll =>
      state.moveMonitor fun thread => { thread with point := .testingStop }
  | .createThread creator => state.spawn creator
  | .signal signal =>
      if state.blocks signal then
        { state with waiter := state.waiter.apply (.generate signal) }
      else { state with killed := true }
  | .exit =>
      match state.main with
      | .returning code => state.goto (.exited code)
      | _ => state

end Process

/-- The process begins with the main thread alone, which has just constructed
the waiter. -/
structure Process.Initial (state : Process) : Prop where
  waiter : ∃ mask pending error,
    state.waiter = .constructed true mask pending error
  notifying : state.notifying = false
  main : state.main = .starting
  isRunning : state.isRunning = true
  events : state.events = []
  monitorThread : state.monitorThread = none
  threads : state.threads = []
  killed : state.killed = false

def processMachine : Machine Process ProcessStep :=
  .guarded Process.Initial Process.enabled Process.apply

/-- The steps as a relation, one constructor for each way a step can be
taken. -/
inductive Process.Moves (state : Process) : ProcessStep → Process → Prop where
  | startWaiter {thread : Option Int} :
      state.main = .starting → state.waiter.startResult thread = 0 →
      Moves state (.startWaiter thread)
        { state with
          waiter := state.waiter.start thread
          threads := (state.waiter.start thread).mask :: state.threads
          main := .settingUp }
  | startFails {thread : Option Int} :
      state.main = .starting → state.waiter.startResult thread ≠ 0 →
      Moves state (.startWaiter thread)
        { state with
          waiter := state.waiter.start thread
          main := .returning (state.waiter.startResult thread) }
  | setUp :
      state.main = .settingUp →
      Moves state (.setUp none)
        { state with
          threads := state.waiter.mask :: state.threads
          main := .loopHead
          monitorThread := some .start }
  | setUpFails {failure : SetUpFailure} :
      state.main = .settingUp →
      Moves state (.setUp (some failure))
        { state with main := .returning failure.code }
  | testLoop :
      state.main = .loopHead →
      Moves state .testLoop
        { state with
          main := if state.isRunning then .evaluating
            else .stoppingMonitor }
  | takeEvents :
      state.main = .evaluating → state.hasEvents = true →
      Moves state .evaluate
        { state with main := .processing state.events, events := [] }
  | falsify :
      state.main = .evaluating → state.hasEvents = false →
      Moves state .evaluate { state with main := .falsified }
  | block :
      state.main = .falsified →
      Moves state .block { state with main := .blocked }
  | wakeSpuriously :
      state.main = .blocked →
      Moves state .wakeSpuriously { state with main := .woken }
  | resume :
      state.main = .woken →
      Moves state .resume { state with main := .evaluating }
  | processEvents {pendings : List EventType} :
      state.main = .processing pendings →
      Moves state .processEvents
        { state with
          main := .loopHead
          isRunning := state.isRunning && !pendings.contains .stop }
  | requestStop :
      state.main = .stoppingMonitor →
      Moves state .requestStop
        { state with
          monitorThread := state.monitorThread.map fun thread =>
            { thread with stopRequested := true }
          main := .joiningMonitor }
  | joinMonitor :
      state.main = .joiningMonitor → state.monitorAt .finished = true →
      Moves state .joinMonitor
        { state with main := .returning 0, monitorThread := none }
  | waiter {step : WaiterStep} :
      state.runsWaiter step = true → state.waiter.enabled step = true →
      Moves state (.waiter step)
        { state with
          waiter := state.waiter.apply step
          killed := state.delivers step }
  | pushEvent :
      state.waiter.waitsAt .invoking = true → state.notifying = false →
      state.main.holdsMutex = false →
      Moves state .pushEvent
        { state with
          events := state.events ++ [.stop]
          notifying := true }
  | notifyOne :
      state.notifying = true →
      Moves state .notifyOne
        { state with
          main := state.main.notified
          waiter := state.waiter.apply .invokeHandler
          notifying := false }
  | prepareMonitor :
      state.monitorAt .preparing = true →
      Moves state .prepareMonitor
        (state.moveMonitor fun thread => { thread with point := .testingStop })
  | testMonitorStop :
      state.monitorAt .testingStop = true →
      Moves state .testMonitorStop
        (state.moveMonitor fun thread =>
          { thread with
            point := if thread.stopRequested then .finished else .polling })
  | poll :
      state.monitorAt .polling = true →
      Moves state .poll
        (state.moveMonitor fun thread => { thread with point := .testingStop })
  | createThread {creator : Option Nat} {mask : SignalSet} :
      state.maskOf creator = some mask →
      Moves state (.createThread creator)
        { state with threads := mask :: state.threads }
  | blockedSignal {signal : TerminationSignal} :
      state.blocks signal = true →
      Moves state (.signal signal)
        { state with waiter := state.waiter.apply (.generate signal) }
  | kill {signal : TerminationSignal} :
      state.blocks signal = false →
      Moves state (.signal signal) { state with killed := true }
  | exit {code : Int} :
      state.main = .returning code → state.waiter.owner = .destroyed →
      Moves state .exit { state with main := .exited code }

theorem Process.moves_of_step {state target : Process} {label : ProcessStep}
    (stepped : processMachine.step state label = some target) :
    state.killed = false ∧ state.hasExited = false ∧
      state.Moves label target := by
  obtain ⟨isEnabled, rfl⟩ := Machine.enabled_of_guarded stepped
  simp only [enabled, Bool.and_eq_true, Bool.not_eq_true'] at isEnabled
  obtain ⟨⟨alive, present⟩, isEnabled⟩ := isEnabled
  refine ⟨alive, present, ?_⟩
  cases label with
  | startWaiter thread =>
      have starting := of_decide_eq_true isEnabled
      simp only [apply]
      split
      · exact .startWaiter starting ‹_›
      · exact .startFails starting ‹_›
  | setUp failure =>
      cases failure with
      | none => exact .setUp (of_decide_eq_true isEnabled)
      | some failure => exact .setUpFails (of_decide_eq_true isEnabled)
  | testLoop => exact .testLoop (of_decide_eq_true isEnabled)
  | evaluate =>
      have evaluating := of_decide_eq_true isEnabled
      simp only [apply]
      split
      · exact .takeEvents evaluating ‹_›
      · exact .falsify evaluating (Bool.not_eq_true _ ▸ ‹_›)
  | block => exact .block (of_decide_eq_true isEnabled)
  | wakeSpuriously => exact .wakeSpuriously (of_decide_eq_true isEnabled)
  | resume => exact .resume (of_decide_eq_true isEnabled)
  | processEvents =>
      simp only [isProcessing] at isEnabled
      split at isEnabled
      · rename_i pendings processing
        simp only [apply, processing]
        exact .processEvents processing
      · cases isEnabled
  | requestStop => exact .requestStop (of_decide_eq_true isEnabled)
  | joinMonitor =>
      simp only [Bool.and_eq_true, decide_eq_true_eq] at isEnabled
      exact .joinMonitor isEnabled.1 isEnabled.2
  | waiter step =>
      simp only [Bool.and_eq_true] at isEnabled
      exact .waiter isEnabled.1 isEnabled.2
  | pushEvent =>
      simp only [Bool.and_eq_true, Bool.not_eq_true'] at isEnabled
      exact .pushEvent isEnabled.1.1 isEnabled.1.2 isEnabled.2
  | notifyOne => exact .notifyOne isEnabled
  | prepareMonitor => exact .prepareMonitor isEnabled
  | testMonitorStop => exact .testMonitorStop isEnabled
  | poll => exact .poll isEnabled
  | createThread creator =>
      obtain ⟨mask, found⟩ := Option.isSome_iff_exists.mp isEnabled
      simp only [apply, spawn, found, Option.toList_some,
        List.singleton_append]
      exact .createThread found
  | signal signal =>
      simp only [apply]
      split
      · exact .blockedSignal ‹_›
      · exact .kill (Bool.not_eq_true _ ▸ ‹_›)
  | exit =>
      simp only [Bool.and_eq_true, decide_eq_true_eq, isReturning]
        at isEnabled
      obtain ⟨returning, destroyed⟩ := isEnabled
      split at returning
      · rename_i code stands
        simp only [apply, stands]
        exact .exit stands destroyed
      · cases returning

section Waiter

variable {waiter : WaiterState} {step : WaiterStep}

theorem waitsAt_iff {point : WaitPoint} :
    waiter.waitsAt point = true ↔
      ∃ thread, waiter.waiter.waitThread = some thread ∧
        thread.point = point := by
  simp [WaiterState.waitsAt, Option.any_eq_true]

/-- The waiting thread is at one point. -/
theorem waitsAt_unique {first second : WaitPoint}
    (here : waiter.waitsAt first = true)
    (there : waiter.waitsAt second = true) : first = second := by
  obtain ⟨thread, found, rfl⟩ := waitsAt_iff.mp here
  obtain ⟨other, otherFound, rfl⟩ := waitsAt_iff.mp there
  cases found.symm.trans otherFound
  rfl

variable (waiter) in
theorem start_mask (thread : Option Int) :
    (waiter.start thread).mask = waiter.mask ∧
      (waiter.start thread).waiter.isMasked = waiter.waiter.isMasked ∧
      (waiter.start thread).invocations = waiter.invocations := by
  simp only [WaiterState.start]
  split
  · exact ⟨rfl, rfl, rfl⟩
  · exact ⟨rfl, rfl, rfl⟩

/-- The mask is changed by the end of the destructor only. -/
theorem apply_mask (masked : (waiter.apply step).waiter.isMasked = true) :
    waiter.waiter.isMasked = true ∧
      (waiter.apply step).mask = waiter.mask := by
  cases step with
  | start thread =>
      obtain ⟨mask, same, _⟩ := start_mask waiter thread
      exact ⟨same.symm.trans masked, mask⟩
  | stop destroying =>
      simp only [WaiterState.apply, WaiterState.stop] at masked ⊢
      split at masked
      · exact ⟨masked, rfl⟩
      · exact ⟨masked, rfl⟩
  | restoreMask error =>
      by_cases failed : error ≠ 0
      · simp only [WaiterState.apply, if_pos failed] at masked ⊢
        exact ⟨masked, rfl⟩
      · simp only [WaiterState.apply, if_neg failed] at masked
        cases masked
  | _ => exact ⟨masked, rfl⟩

/-- As long as the mask is in place nothing is delivered. -/
theorem delivers_of_masked {state : Process}
    (masked : (state.waiter.apply step).waiter.isMasked = true) :
    state.delivers step = false := by
  cases step with
  | restoreMask error =>
      by_cases failed : error ≠ 0
      · simp [Process.delivers, failed]
      · simp only [WaiterState.apply, if_neg failed] at masked
        cases masked
  | _ => rfl

/-- A thread which is about to invoke the handler takes no other step. -/
theorem invoking_apply {state : Process}
    (invoking : state.waiter.waitsAt .invoking = true)
    (runs : state.runsWaiter step = true)
    (isEnabled : state.waiter.enabled step = true) :
    (state.waiter.apply step).waitsAt .invoking = true := by
  obtain ⟨thread, found, point⟩ := waitsAt_iff.mp invoking
  rw [waitsAt_iff]
  cases step with
  | testStop => cases waitsAt_unique invoking isEnabled
  | sigtimedwait result =>
      simp only [WaiterState.enabled, Bool.and_eq_true] at isEnabled
      cases waitsAt_unique invoking isEnabled.1
  | stop destroying =>
      refine ⟨{ thread with stopRequested := true }, ?_, point⟩
      simp [WaiterState.apply, WaiterState.stop, found,
        WaiterState.setThread, WaiterState.goto]
  | join destroying =>
      simp only [WaiterState.enabled, Bool.and_eq_true] at isEnabled
      cases waitsAt_unique invoking isEnabled.2
  | drain result => exact ⟨thread, found, point⟩
  | restoreMask error =>
      refine ⟨thread, ?_, point⟩
      simp only [WaiterState.apply]
      split
      · exact found
      · exact found
  | _ => cases runs

end Waiter

namespace Process

variable {state target : Process} {label : ProcessStep}

/-- While the mask of the waiter is in place every thread blocks the
termination signals, and none has ended the process. -/
structure Masked (state : Process) : Prop where
  main : state.waiter.mask = .full
  threads : ∀ mask ∈ state.threads, mask = .full
  alive : state.killed = false

theorem full_has (signal : TerminationSignal) :
    SignalSet.full.has signal = true := by
  cases signal <;> rfl

theorem Masked.blocks (masked : state.Masked) (signal : TerminationSignal) :
    state.blocks signal = true := by
  simp only [Process.blocks, masked.main, full_has, Bool.true_and,
    List.all_eq_true]
  intro mask member
  rw [masked.threads mask member]
  exact full_has signal

theorem Masked.mask (masked : state.Masked) {creator : Option Nat}
    {mask : SignalSet} (found : state.maskOf creator = some mask) :
    mask = .full := by
  cases creator with
  | none => exact (Option.some.inj found).symm.trans masked.main
  | some thread =>
      exact masked.threads mask (List.mem_of_getElem? found)

theorem Masked.spawn (masked : state.Masked) {mask : SignalSet}
    (full : mask = .full) :
    ∀ other ∈ mask :: state.threads, other = .full := by
  intro other member
  rcases List.mem_cons.mp member with rfl | old
  · exact full
  · exact masked.threads other old

theorem masked_of_moves
    (before : state.waiter.waiter.isMasked = true → state.Masked)
    (moves : state.Moves label target)
    (isMasked : target.waiter.waiter.isMasked = true) : target.Masked := by
  cases moves with
  | @startWaiter thread starting created =>
      obtain ⟨mask, same, _⟩ := start_mask state.waiter thread
      have masked := before (same.symm.trans isMasked)
      exact ⟨mask.trans masked.main,
        masked.spawn (mask.trans masked.main), masked.alive⟩
  | @startFails thread starting failed =>
      obtain ⟨mask, same, _⟩ := start_mask state.waiter thread
      have masked := before (same.symm.trans isMasked)
      exact ⟨mask.trans masked.main, masked.threads, masked.alive⟩
  | setUp =>
      have masked := before isMasked
      exact ⟨masked.main, masked.spawn masked.main, masked.alive⟩
  | waiter =>
      obtain ⟨wasMasked, mask⟩ := apply_mask isMasked
      have masked := before wasMasked
      exact ⟨mask.trans masked.main, masked.threads,
        delivers_of_masked isMasked⟩
  | notifyOne =>
      obtain ⟨wasMasked, mask⟩ := apply_mask isMasked
      have masked := before wasMasked
      exact ⟨mask.trans masked.main, masked.threads, masked.alive⟩
  | createThread found =>
      have masked := before isMasked
      exact ⟨masked.main, masked.spawn (masked.mask found), masked.alive⟩
  | blockedSignal =>
      obtain ⟨wasMasked, mask⟩ := apply_mask isMasked
      have masked := before wasMasked
      exact ⟨mask.trans masked.main, masked.threads, masked.alive⟩
  | @kill signal unblocked =>
      have masked := before isMasked
      rw [masked.blocks signal] at unblocked
      cases unblocked
  | _ =>
      have masked := before isMasked
      exact ⟨masked.main, masked.threads, masked.alive⟩

/-- The thread of the waiter is started once, and stands at its invocation of
the handler while that is under way. -/
structure Handled (state : Process) : Prop where
  once : state.waiter.Once
  unstarted : state.main = .starting →
    state.waiter.isIdle = true ∧ state.waiter.waiter.waitThread = none ∧
      state.waiter.invocations = 0
  notifying : state.notifying = true →
    state.waiter.waitsAt .invoking = true

theorem not_waitsAt_of_none {waiter : WaiterState} {point : WaitPoint}
    (absent : waiter.waiter.waitThread = none) :
    waiter.waitsAt point = false := by
  simp [WaiterState.waitsAt, absent]

theorem Handled.silent (handled : state.Handled)
    (starting : state.main = .starting) (point : WaitPoint) :
    state.waiter.waitsAt point = false :=
  not_waitsAt_of_none (handled.unstarted starting).2.1

theorem Handled.quiet (handled : state.Handled)
    (starting : state.main = .starting) : state.notifying = false := by
  cases pushed : state.notifying with
  | false => rfl
  | true =>
      have invoking := handled.notifying pushed
      rw [handled.silent starting] at invoking
      cases invoking

theorem starts_of_runs {step : WaiterStep}
    (runs : state.runsWaiter step = true) :
    state.waiter.startsBeforeHandler step = true := by
  cases step with
  | start thread => cases runs
  | _ => rfl

theorem Handled.start (handled : state.Handled)
    (starting : state.main = .starting) (thread : Option Int) :
    (state.waiter.start thread).Once := by
  obtain ⟨idle, _, none⟩ := handled.unstarted starting
  have isEnabled : state.waiter.enabled (.start thread) = true := idle
  refine WaiterState.once_step handled.once ?_ isEnabled
  simp [WaiterState.startsBeforeHandler, none]

/-- A notification moves a blocked `main` only. -/
theorem eq_of_notified {point other : MainPoint}
    (stands : point.notified = other) (asleep : other ≠ .woken) :
    point = other := by
  cases point with
  | blocked => exact absurd stands.symm asleep
  | _ => exact stands

theorem handled_of_moves (handled : state.Handled)
    (moves : state.Moves label target) : target.Handled := by
  cases moves with
  | @startWaiter thread starting _ =>
      refine ⟨handled.start starting thread, by simp, ?_⟩
      simp [handled.quiet starting]
  | @startFails thread starting _ =>
      refine ⟨handled.start starting thread, by simp, ?_⟩
      simp [handled.quiet starting]
  | testLoop =>
      refine ⟨handled.once, ?_, handled.notifying⟩
      dsimp only
      split
      · simp
      · simp
  | @waiter step runs isEnabled =>
      refine ⟨WaiterState.once_step handled.once (starts_of_runs runs)
        isEnabled, ?_, ?_⟩
      · intro starting
        have silent := handled.silent starting
        cases step with
        | testStop => simp [WaiterState.enabled, silent] at isEnabled
        | sigtimedwait result =>
            simp [WaiterState.enabled, silent] at isEnabled
        | _ => simp_all [runsWaiter, isReturning]
      · intro pushed
        exact invoking_apply (handled.notifying pushed) runs isEnabled
  | pushEvent invoking =>
      refine ⟨handled.once, ?_, fun _ => invoking⟩
      intro starting
      exact handled.unstarted starting
  | notifyOne pushed =>
      have invoking := handled.notifying pushed
      have isEnabled : state.waiter.enabled .invokeHandler = true := invoking
      refine ⟨WaiterState.once_step handled.once rfl isEnabled, ?_, by simp⟩
      intro starting
      rw [handled.silent (eq_of_notified starting (by simp))] at invoking
      cases invoking
  | @blockedSignal signal blocked =>
      have isEnabled : state.waiter.enabled (.generate signal) = true := by
        simp only [blocks, Bool.and_eq_true] at blocked
        exact blocked.1
      exact ⟨WaiterState.once_step handled.once rfl isEnabled,
        handled.unstarted, handled.notifying⟩
  | prepareMonitor => exact ⟨handled.once, handled.unstarted, handled.notifying⟩
  | testMonitorStop =>
      exact ⟨handled.once, handled.unstarted, handled.notifying⟩
  | poll => exact ⟨handled.once, handled.unstarted, handled.notifying⟩
  | createThread =>
      exact ⟨handled.once, handled.unstarted, handled.notifying⟩
  | kill => exact ⟨handled.once, handled.unstarted, handled.notifying⟩
  | _ => exact ⟨handled.once, by simp, handled.notifying⟩

def pastJoin : OwnerPoint → Bool
  | .idle _ => false
  | .joining _ => false
  | _ => true

/-- The destructor of the waiter joins its thread, so the handler refers to
nothing which `main` has left. -/
structure Joined (state : Process) : Prop where
  joined : pastJoin state.waiter.owner = true →
    state.waiter.waiter.waitThread = none
  exited : state.hasExited = true → state.waiter.owner = .destroyed

theorem joined_of_waiter {waiter : WaiterState} {step : WaiterStep}
    (joined : pastJoin waiter.owner = true → waiter.waiter.waitThread = none)
    (isEnabled : waiter.enabled step = true)
    (past : pastJoin (waiter.apply step).owner = true) :
    (waiter.apply step).waiter.waitThread = none := by
  cases step with
  | start thread => cases past
  | stop destroying =>
      simp only [WaiterState.apply, WaiterState.stop] at past ⊢
      split at past
      · assumption
      · cases past
  | join destroying => rfl
  | drain result =>
      simp only [WaiterState.enabled, Bool.and_eq_true, decide_eq_true_eq]
        at isEnabled
      exact joined (by rw [isEnabled.1]; rfl)
  | restoreMask error =>
      have restoring : waiter.owner = .restoringMask :=
        of_decide_eq_true isEnabled
      have absent := joined (by rw [restoring]; rfl)
      simp only [WaiterState.apply]
      split
      · exact absent
      · exact absent
  | generate signal => exact joined past
  | _ => exact Option.map_eq_none_iff.mpr (joined past)

theorem joined_of_moves (handled : state.Handled) (joined : state.Joined)
    (present : state.hasExited = false) (moves : state.Moves label target) :
    target.Joined := by
  obtain ⟨joined, exited⟩ := joined
  cases moves with
  | startWaiter =>
      exact ⟨fun past => Bool.noConfusion past, by simp [hasExited]⟩
  | startFails =>
      exact ⟨fun past => Bool.noConfusion past, by simp [hasExited]⟩
  | testLoop =>
      refine ⟨joined, ?_⟩
      simp only [hasExited]
      cases state.isRunning <;> simp
  | waiter _ isEnabled =>
      refine ⟨joined_of_waiter joined isEnabled, fun exiting => ?_⟩
      cases present.symm.trans exiting
  | notifyOne pushed =>
      have isEnabled : state.waiter.enabled .invokeHandler = true :=
        handled.notifying pushed
      refine ⟨joined_of_waiter joined isEnabled, fun exiting => exited ?_⟩
      rw [← exiting]
      simp only [hasExited]
      cases state.main <;> rfl
  | exit _ destroyed => exact ⟨joined, fun _ => destroyed⟩
  | pushEvent => exact ⟨joined, exited⟩
  | prepareMonitor => exact ⟨joined, exited⟩
  | testMonitorStop => exact ⟨joined, exited⟩
  | poll => exact ⟨joined, exited⟩
  | createThread => exact ⟨joined, exited⟩
  | blockedSignal => exact ⟨joined, exited⟩
  | kill => exact ⟨joined, exited⟩
  | _ => exact ⟨joined, by simp [hasExited]⟩

/-- The handler has appended its event. -/
def Pushed (state : Process) : Prop :=
  state.notifying = true ∨ state.waiter.invocations = 1

/-- The events which `main` has taken and not yet processed. -/
def pendings : MainPoint → List EventType
  | .processing pendings => pendings
  | _ => []

def outstanding (state : Process) : List EventType :=
  state.events ++ pendings state.main

/-- `main` has left its loop, or returned from there. -/
def leftLoop : MainPoint → Bool
  | .stoppingMonitor => true
  | .joiningMonitor => true
  | .returning code => code = 0
  | .exited code => code = 0
  | _ => false

/-- `main` has a thread which polls the ring buffer. -/
def polls : MainPoint → Bool
  | .starting => false
  | .settingUp => false
  | .returning _ => false
  | .exited _ => false
  | _ => true

structure Loop (state : Process) : Prop where
  /-- What was pushed is outstanding or has stopped the loop. -/
  delivered : state.Pushed ↔
    state.isRunning = false ∨ state.outstanding ≠ []
  falsified : state.main = .falsified →
    state.isRunning = true ∧ state.events = []
  blocked : state.main = .blocked →
    state.isRunning = true ∧ (state.events ≠ [] → state.notifying = true)
  taken : ∀ events, state.main = .processing events →
    state.isRunning = false ∨ events ≠ []
  left : leftLoop state.main = true → state.isRunning = false
  polled : state.monitorThread.isSome = polls state.main

theorem contains_stop (events : List EventType) :
    events.contains .stop = !events.isEmpty := by
  cases events with
  | nil => rfl
  | cons event events => cases event; simp

theorem notified_same (point : MainPoint) :
    pendings point.notified = pendings point ∧
      leftLoop point.notified = leftLoop point ∧
      polls point.notified = polls point := by
  cases point <;> exact ⟨rfl, rfl, rfl⟩

/-- The points at which nothing is known of the events. -/
def isOpen : MainPoint → Bool
  | .falsified => false
  | .blocked => false
  | .processing _ => false
  | _ => true

/-- `main` goes on to another point, and the events stay as they are. -/
theorem Loop.main_moves (loop : state.Loop)
    (invocations : target.waiter.invocations = state.waiter.invocations)
    (notifying : target.notifying = state.notifying)
    (isRunning : target.isRunning = state.isRunning)
    (outstanding : target.outstanding = state.outstanding)
    (opens : isOpen target.main = true)
    (left : leftLoop target.main = true → state.isRunning = false)
    (polled : target.monitorThread.isSome = polls target.main) :
    target.Loop where
  delivered := by
    rw [Pushed, invocations, notifying, isRunning, outstanding]
    exact loop.delivered
  falsified stands := by
    rw [stands] at opens
    cases opens
  blocked stands := by
    rw [stands] at opens
    cases opens
  taken events stands := by
    rw [stands] at opens
    cases opens
  left leaves := isRunning.trans (left leaves)
  polled := polled

theorem loop_of_testLoop (loop : state.Loop)
    (stands : state.main = .loopHead) :
    ({ state with
      main := if state.isRunning then .evaluating
        else .stoppingMonitor } : Process).Loop := by
  have polled := loop.polled
  rw [stands] at polled
  cases running : state.isRunning with
  | true =>
      refine loop.main_moves rfl rfl running.symm ?_ rfl ?_ polled
      · simp [outstanding, stands, pendings]
      · simp [leftLoop]
  | false =>
      refine loop.main_moves rfl rfl running.symm ?_ rfl (fun _ => running)
        polled
      simp [outstanding, stands, pendings]

theorem loop_of_evaluate (loop : state.Loop)
    (stands : state.main = .evaluating) (found : state.hasEvents = true) :
    ({ state with
      main := .processing state.events, events := [] } : Process).Loop := by
  obtain ⟨delivered, _, _, _, _, polled⟩ := loop
  rw [stands] at polled
  refine ⟨?_, by simp, by simp, ?_, by simp [leftLoop], polled⟩
  · simpa [Pushed, outstanding, stands, pendings] using delivered
  · rintro events ⟨⟩
    simpa [hasEvents] using found

theorem loop_of_falsify (loop : state.Loop)
    (stands : state.main = .evaluating) (empty : state.hasEvents = false) :
    ({ state with main := .falsified } : Process).Loop := by
  obtain ⟨delivered, _, _, _, _, polled⟩ := loop
  rw [stands] at polled
  simp only [hasEvents, Bool.or_eq_false_iff, Bool.not_eq_false',
    List.isEmpty_iff] at empty
  refine ⟨?_, fun _ => empty, by simp, by simp, by simp [leftLoop], polled⟩
  simpa [Pushed, outstanding, stands, pendings] using delivered

/-- Nothing was there when the predicate was evaluated, and nothing has come
since, as the mutex was held. -/
theorem loop_of_block (loop : state.Loop)
    (stands : state.main = .falsified) :
    ({ state with main := .blocked } : Process).Loop := by
  obtain ⟨delivered, falsified, _, _, _, polled⟩ := loop
  obtain ⟨running, empty⟩ := falsified stands
  rw [stands] at polled
  refine ⟨?_, by simp, fun _ => ⟨running, fun some => absurd empty some⟩,
    by simp, by simp [leftLoop], polled⟩
  simpa [Pushed, outstanding, stands, pendings] using delivered

theorem loop_of_processEvents (loop : state.Loop) {events : List EventType}
    (stands : state.main = .processing events) :
    ({ state with
      main := .loopHead
      isRunning := state.isRunning && !events.contains .stop } :
        Process).Loop := by
  obtain ⟨delivered, _, _, _, _, polled⟩ := loop
  rw [stands] at polled
  refine ⟨?_, by simp, by simp, by simp, by simp [leftLoop], polled⟩
  simp only [Pushed, outstanding, stands, pendings] at delivered
  simp only [Pushed, outstanding, pendings, contains_stop, Bool.not_not,
    List.append_nil, delivered, Bool.and_eq_false_iff]
  cases events <;> simp

theorem loop_of_waiter (loop : state.Loop) {step : WaiterStep}
    (runs : state.runsWaiter step = true) :
    ({ state with
      waiter := state.waiter.apply step
      killed := state.delivers step } : Process).Loop := by
  obtain ⟨delivered, falsified, blocked, taken, left, polled⟩ := loop
  refine ⟨?_, falsified, blocked, taken, left, polled⟩
  have same : (state.waiter.apply step).invocations =
      state.waiter.invocations := by
    apply WaiterState.invocations_apply
    rintro rfl
    cases runs
  simpa [Pushed, outstanding, same] using delivered

/-- The event is appended under the mutex, so not where `main` has found the
list empty and is about to block. -/
theorem loop_of_pushEvent (loop : state.Loop)
    (free : state.main.holdsMutex = false) :
    ({ state with
      events := state.events ++ [.stop]
      notifying := true } : Process).Loop := by
  obtain ⟨_, _, blocked, taken, left, polled⟩ := loop
  refine ⟨by simp [Pushed, outstanding], ?_, ?_, taken, left, polled⟩
  · intro stands
    change state.main = .falsified at stands
    rw [stands] at free
    cases free
  · intro stands
    exact ⟨(blocked stands).1, fun _ => rfl⟩

theorem loop_of_notifyOne (handled : state.Handled) (loop : state.Loop)
    (pushed : state.notifying = true) :
    ({ state with
      main := state.main.notified
      waiter := state.waiter.apply .invokeHandler
      notifying := false } : Process).Loop := by
  obtain ⟨delivered, falsified, blocked, taken, left, polled⟩ := loop
  have first : state.waiter.invocations = 0 :=
    handled.once.waiting (WaiterState.waits_of_waitsAt
      (handled.notifying pushed) (by decide))
  have counted : (state.waiter.apply .invokeHandler).invocations = 1 :=
    congrArg (· + 1) first
  obtain ⟨samePendings, sameLeft, samePolls⟩ := notified_same state.main
  refine ⟨?_, ?_, ?_, ?_, ?_, ?_⟩
  · simpa [Pushed, outstanding, samePendings, counted, pushed]
      using delivered
  · intro stands
    exact falsified (eq_of_notified stands (by simp))
  · intro stands
    have before := eq_of_notified stands (by simp)
    simp [before, MainPoint.notified] at stands
  · intro events stands
    exact taken events (eq_of_notified stands (by simp))
  · rw [sameLeft]
    exact left
  · rw [samePolls]
    exact polled

theorem loop_of_moves (handled : state.Handled) (loop : state.Loop)
    (moves : state.Moves label target) : target.Loop := by
  have polled := loop.polled
  cases moves with
  | @startWaiter thread starting _ =>
      rw [starting] at polled
      refine loop.main_moves (start_mask _ thread).2.2 rfl rfl ?_ rfl ?_
        polled
      · simp [outstanding, starting, pendings]
      · simp [leftLoop]
  | @startFails thread starting failed =>
      rw [starting] at polled
      refine loop.main_moves (start_mask _ thread).2.2 rfl rfl ?_ rfl ?_
        polled
      · simp [outstanding, starting, pendings]
      · simp [leftLoop, failed]
  | setUp stands =>
      refine loop.main_moves rfl rfl rfl ?_ rfl ?_ rfl
      · simp [outstanding, stands, pendings]
      · simp [leftLoop]
  | @setUpFails failure stands =>
      rw [stands] at polled
      refine loop.main_moves rfl rfl rfl ?_ rfl ?_ polled
      · simp [outstanding, stands, pendings]
      · cases failure <;> simp [leftLoop, SetUpFailure.code]
  | testLoop stands => exact loop_of_testLoop loop stands
  | takeEvents stands found => exact loop_of_evaluate loop stands found
  | falsify stands empty => exact loop_of_falsify loop stands empty
  | block stands => exact loop_of_block loop stands
  | wakeSpuriously stands =>
      rw [stands] at polled
      refine loop.main_moves rfl rfl rfl ?_ rfl ?_ polled
      · simp [outstanding, stands, pendings]
      · simp [leftLoop]
  | resume stands =>
      rw [stands] at polled
      refine loop.main_moves rfl rfl rfl ?_ rfl ?_ polled
      · simp [outstanding, stands, pendings]
      · simp [leftLoop]
  | processEvents stands => exact loop_of_processEvents loop stands
  | requestStop stands =>
      rw [stands] at polled
      refine loop.main_moves rfl rfl rfl ?_ rfl ?_ ?_
      · simp [outstanding, stands, pendings]
      · exact fun _ => loop.left (by rw [stands]; rfl)
      · simpa [polls] using polled
  | joinMonitor stands =>
      refine loop.main_moves rfl rfl rfl ?_ rfl ?_ rfl
      · simp [outstanding, stands, pendings]
      · exact fun _ => loop.left (by rw [stands]; rfl)
  | waiter runs => exact loop_of_waiter loop runs
  | pushEvent _ _ free => exact loop_of_pushEvent loop free
  | notifyOne pushed => exact loop_of_notifyOne handled loop pushed
  | exit stands =>
      rw [stands] at polled
      refine loop.main_moves rfl rfl rfl ?_ rfl ?_ polled
      · simp [outstanding, stands, pendings]
      · exact fun leaves => loop.left (by rw [stands]; exact leaves)
  | _ =>
      -- the thread which polls, new threads and signals are not part of it
      obtain ⟨delivered, falsified, blocked, taken, left, _⟩ := loop
      exact ⟨delivered, falsified, blocked, taken, left,
        by simpa [moveMonitor] using polled⟩

theorem handled_of_initial (initial : state.Initial) : state.Handled := by
  obtain ⟨mask, pending, error, waiter⟩ := initial.waiter
  have unstarted : state.waiter.waiter.waitThread = none := by
    rw [waiter]
    simp only [WaiterState.constructed]
    split
    · rfl
    · rfl
  have zero : state.waiter.invocations = 0 := by
    rw [waiter]
    rfl
  refine ⟨⟨Nat.le_trans (Nat.le_of_eq zero) (Nat.zero_le 1),
    fun _ => zero⟩, ?_, ?_⟩
  · intro _
    refine ⟨?_, unstarted, zero⟩
    rw [waiter]
    rfl
  · simp [initial.notifying]

theorem loop_of_initial (initial : state.Initial) : state.Loop := by
  have zero : state.waiter.invocations = 0 :=
    ((handled_of_initial initial).unstarted initial.main).2.2
  refine ⟨?_, ?_, ?_, ?_, ?_, ?_⟩
  · simp [Pushed, outstanding, initial.notifying, zero, initial.isRunning,
      initial.events, initial.main, pendings]
  · simp [initial.main]
  · simp [initial.main]
  · simp [initial.main]
  · simp [initial.main, leftLoop]
  · simp [initial.main, initial.monitorThread, polls]

theorem masked_of_initial (initial : state.Initial)
    (isMasked : state.waiter.waiter.isMasked = true) : state.Masked := by
  refine ⟨?_, by simp [initial.threads], initial.killed⟩
  obtain ⟨mask, pending, error, waiter⟩ := initial.waiter
  rw [waiter] at isMasked ⊢
  simp only [WaiterState.constructed] at isMasked ⊢
  by_cases failed : error ≠ 0
  · rw [if_pos failed] at isMasked
    cases isMasked
  · rw [if_neg failed]

theorem joined_of_initial (initial : state.Initial) : state.Joined := by
  refine ⟨fun _ => ?_, by simp [hasExited, initial.main]⟩
  exact ((handled_of_initial initial).unstarted initial.main).2.1

theorem handled_reachable (reached : processMachine.Reachable state) :
    state.Handled :=
  reached.invariant (fun _ => handled_of_initial)
    fun _ _ _ handled stepped =>
      handled_of_moves handled (moves_of_step stepped).2.2

theorem joined_reachable (reached : processMachine.Reachable state) :
    state.Joined :=
  reached.invariant_with (fun _ => handled_reachable)
    (fun _ => joined_of_initial)
    fun _ _ _ handled joined stepped =>
      joined_of_moves handled joined (moves_of_step stepped).2.1
        (moves_of_step stepped).2.2

theorem loop_reachable (reached : processMachine.Reachable state) :
    state.Loop :=
  reached.invariant_with (fun _ => handled_reachable)
    (fun _ => loop_of_initial)
    fun _ _ _ handled loop stepped =>
      loop_of_moves handled loop (moves_of_step stepped).2.2

theorem masked_reachable (reached : processMachine.Reachable state) :
    state.waiter.waiter.isMasked = true → state.Masked := by
  induction reached with
  | initial initially => exact masked_of_initial initially
  | next _ _ stepped induction =>
      exact masked_of_moves induction (moves_of_step stepped).2.2

end Process

/-- For every interleaving of `main`, the waiting thread, the other threads
and termination signals: no signal ends the process while the mask is in
place; when `main` is blocked with an event in its list, the notification is
still to come; when `main` returns, nobody polls the ring buffer any more, and
it returns 0 only after the handler has pushed its event, which it does at
most once; and when it has returned, the thread of the handler is gone as
well. -/
theorem process_safe {state : Process}
    (reached : processMachine.Reachable state) :
    (state.waiter.waiter.isMasked = true → state.killed = false) ∧
      (state.main = .blocked → state.events ≠ [] →
        state.notifying = true) ∧
      state.waiter.invocations ≤ 1 ∧
      (∀ code, state.main = .returning code ∨ state.main = .exited code →
        state.monitorThread = none ∧ (code = 0 → state.Pushed)) ∧
      (state.hasExited = true → state.waiter.waiter.waitThread = none) := by
  have handled := Process.handled_reachable reached
  have loop := Process.loop_reachable reached
  have joined := Process.joined_reachable reached
  refine ⟨fun isMasked => (Process.masked_reachable reached isMasked).alive,
    fun blocked => (loop.blocked blocked).2, handled.once.atMost, ?_, ?_⟩
  · intro code stands
    have alone : Process.polls state.main = false := by
      rcases stands with returning | exited
      · rw [returning]
        rfl
      · rw [exited]
        rfl
    refine ⟨?_, fun zero => loop.delivered.mpr (.inl (loop.left ?_))⟩
    · have polled := loop.polled
      rw [alone] at polled
      exact Option.not_isSome_iff_eq_none.mp (by simp [polled])
    · subst zero
      rcases stands with returning | exited
      · rw [returning]
        rfl
      · rw [exited]
        rfl
  · intro exited
    apply joined.joined
    rw [joined.exited exited]
    rfl

/-- A process whose only thread has constructed the waiter. -/
def initialProcess : Process where
  waiter := .constructed true .empty .empty 0
  notifying := false
  main := .starting
  isRunning := true
  events := []
  monitorThread := none
  threads := []
  killed := false

theorem initialProcess_initial : initialProcess.Initial :=
  ⟨⟨_, _, _, rfl⟩, rfl, rfl, rfl, rfl, rfl, rfl, rfl⟩

/-- `main` sets everything up and blocks before the signal arrives. -/
def untilSignalled : List ProcessStep :=
  [.startWaiter none, .createThread none, .setUp none, .testLoop, .evaluate,
    .block, .prepareMonitor, .signal .sigterm]

theorem untilSignalled_enabled :
    (processMachine.runWhere (fun _ _ => True) initialProcess
      untilSignalled).isSome = true := by
  decide

def signalledProcess : Process :=
  processMachine.finish initialProcess untilSignalled untilSignalled_enabled

def untilPushed : List ProcessStep :=
  untilSignalled ++ ([.waiter .testStop,
    .waiter (.sigtimedwait (.received .sigterm)), .pushEvent] :
    List ProcessStep)

theorem untilPushed_enabled :
    (processMachine.runWhere (fun _ _ => True) initialProcess
      untilPushed).isSome = true := by
  decide

def pushedProcess : Process :=
  processMachine.finish initialProcess untilPushed untilPushed_enabled

/-- The event is there, `main` is still blocked, and it will be notified. -/
theorem process_safe_pushed :
    pushedProcess.main = .blocked ∧ pushedProcess.events = [.stop] ∧
      pushedProcess.notifying = true ∧ pushedProcess.killed = false := by
  obtain ⟨alive, notified, _⟩ := process_safe (Machine.reachable_finish
    initialProcess_initial untilPushed_enabled)
  exact ⟨rfl, rfl, notified rfl (by decide), alive rfl⟩

end LibbpfControl.Main
