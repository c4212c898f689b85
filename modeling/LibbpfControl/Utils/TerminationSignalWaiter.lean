import LibbpfControl.Machine

/-!
# The termination signal waiter

One thread owns the waiter: it constructs it, calls `start()` and `stop()` in
any order and destroys it.  A started waiter has a thread which waits for
SIGINT and SIGTERM with a timeout and invokes the handler when one arrives or
the wait fails.  Every test of the stop flag, every system call and every
invocation of the handler is a step of its own.

A waiting thread invokes the handler at most once and then ends, but it stays
joinable, and after `stop()` has joined it nothing keeps `start()` from
creating another one.
-/

namespace LibbpfControl.Utils

inductive TerminationSignal where
  | sigint
  | sigterm
  deriving DecidableEq, Repr

/-- A `sigset_t`, as far as these two signals are concerned. -/
structure SignalSet where
  sigint : Bool
  sigterm : Bool
  deriving DecidableEq, Repr

namespace SignalSet

def empty : SignalSet where
  sigint := false
  sigterm := false

/-- `termination_signals_`. -/
def full : SignalSet where
  sigint := true
  sigterm := true

def has (set : SignalSet) : TerminationSignal → Bool
  | .sigint => set.sigint
  | .sigterm => set.sigterm

def add (set : SignalSet) : TerminationSignal → SignalSet
  | .sigint => { set with sigint := true }
  | .sigterm => { set with sigterm := true }

def remove (set : SignalSet) : TerminationSignal → SignalSet
  | .sigint => { set with sigint := false }
  | .sigterm => { set with sigterm := false }

end SignalSet

def eINTR : Int := 4
def eAGAIN : Int := 11
def eINVAL : Int := 22
def eALREADY : Int := 114

/-- What `sigtimedwait` returns, or the `errno` it sets. -/
inductive WaitResult where
  | received (signal : TerminationSignal)
  | failed (error : Int)
  deriving DecidableEq, Repr

/-- A signal is received only if it is pending, and then is no more. -/
def WaitResult.possible (pending : SignalSet) : WaitResult → Bool
  | .received signal => pending.has signal
  | .failed _ => true

def WaitResult.pending (pending : SignalSet) : WaitResult → SignalSet
  | .received signal => pending.remove signal
  | .failed _ => pending

inductive WaitPoint where
  /-- At the condition of the loop. -/
  | testingStop
  /-- In `sigtimedwait`. -/
  | waiting
  /-- About to invoke the handler. -/
  | invoking
  | finished
  deriving DecidableEq, Repr

structure WaitThread where
  point : WaitPoint
  stopRequested : Bool
  deriving DecidableEq, Repr

def WaitThread.start : WaitThread where
  point := .testingStop
  stopRequested := false

/-- Where the loop goes on after `sigtimedwait`. -/
def WaitResult.next : WaitResult → WaitPoint
  | .received _ => .invoking
  | .failed error =>
      if error = eAGAIN ∨ error = eINTR then .testingStop else .invoking

structure TerminationSignalWaiter where
  hasHandler : Bool
  previousMask : SignalSet
  isMasked : Bool
  maskError : Int
  /-- `wait_thread_`, which is joinable until it is joined. -/
  waitThread : Option WaitThread
  deriving DecidableEq, Repr

/-- Where the thread which owns the waiter stands. -/
inductive OwnerPoint where
  /-- Between two calls, with the result of the last one if it was a
  `start()`. -/
  | idle (result : Option Int)
  /-- In the `join` of `stop()`, which the destructor may have called. -/
  | joining (destroying : Bool)
  /-- In `restore_signal_mask()`, emptying the pending signals. -/
  | draining
  | restoringMask
  | destroyed
  deriving DecidableEq, Repr

structure WaiterState where
  waiter : TerminationSignalWaiter
  /-- The mask of the owner, which the waiting thread inherits. -/
  mask : SignalSet
  pending : SignalSet
  owner : OwnerPoint
  /-- How often the handler has been invoked. -/
  invocations : Nat
  deriving DecidableEq, Repr

namespace WaiterState

/-- The constructor; `error` is the result of `pthread_sigmask`. -/
def constructed (hasHandler : Bool) (mask pending : SignalSet)
    (error : Int) : WaiterState where
  waiter :=
    if error ≠ 0 then
      { hasHandler := hasHandler
        previousMask := .empty
        isMasked := false
        maskError := error
        waitThread := none }
    else
      { hasHandler := hasHandler
        previousMask := mask
        isMasked := true
        maskError := 0
        waitThread := none }
  mask := if error ≠ 0 then mask else .full
  pending := pending
  owner := .idle none
  invocations := 0

/-- The result of `start()`, where `thread` is the code of the exception if
the thread cannot be created. -/
def startResult (state : WaiterState) (thread : Option Int) : Int :=
  if state.waiter.maskError ≠ 0 then state.waiter.maskError
  else if !state.waiter.hasHandler then eINVAL
  else if state.waiter.waitThread.isSome then eALREADY
  else
    match thread with
    | none => 0
    | some code => if code = 0 then eAGAIN else code

def setThread (state : WaiterState) (thread : Option WaitThread) :
    WaiterState :=
  { state with waiter := { state.waiter with waitThread := thread } }

def goto (state : WaiterState) (owner : OwnerPoint) : WaiterState :=
  { state with owner := owner }

def start (state : WaiterState) (thread : Option Int) : WaiterState :=
  let result := state.startResult thread
  (if result = 0 then state.setThread (some .start) else state).goto
    (.idle (some result))

/-- Where the owner goes on when `stop()` has returned. -/
def afterStop (state : WaiterState) (destroying : Bool) : OwnerPoint :=
  if destroying then
    if state.waiter.isMasked then .draining else .destroyed
  else .idle none

/-- `stop()` up to its `join`. -/
def stop (state : WaiterState) (destroying : Bool) : WaiterState :=
  match state.waiter.waitThread with
  | none => state.goto (state.afterStop destroying)
  | some thread =>
      (state.setThread (some { thread with stopRequested := true })).goto
        (.joining destroying)

end WaiterState

inductive WaiterStep where
  | start (thread : Option Int)
  | stop (destroying : Bool)
  | join (destroying : Bool)
  | drain (result : WaitResult)
  /-- The mask is restored; `error` is the result of `pthread_sigmask`. -/
  | restoreMask (error : Int)
  /-- A signal is sent to the process. -/
  | generate (signal : TerminationSignal)
  | testStop
  | sigtimedwait (result : WaitResult)
  | invokeHandler
  deriving DecidableEq, Repr

namespace WaiterState

def waitsAt (state : WaiterState) (point : WaitPoint) : Bool :=
  state.waiter.waitThread.any fun thread => thread.point = point

def isIdle (state : WaiterState) : Bool :=
  match state.owner with
  | .idle _ => true
  | _ => false

/-- A signal which is not blocked ends the process, and the run with it. -/
def enabled (state : WaiterState) : WaiterStep → Bool
  | .start _ => state.isIdle
  | .stop _ => state.isIdle
  | .join destroying =>
      state.owner = .joining destroying && state.waitsAt .finished
  | .drain result =>
      state.owner = .draining && result.possible state.pending
  | .restoreMask _ => state.owner = .restoringMask
  | .generate signal => state.mask.has signal
  | .testStop => state.waitsAt .testingStop
  | .sigtimedwait result =>
      state.waitsAt .waiting && result.possible state.pending
  | .invokeHandler => state.waitsAt .invoking

def moveThread (state : WaiterState) (point : WaitThread → WaitPoint) :
    WaiterState :=
  state.setThread (state.waiter.waitThread.map fun thread =>
    { thread with point := point thread })

def apply (state : WaiterState) : WaiterStep → WaiterState
  | .start thread => state.start thread
  | .stop destroying => state.stop destroying
  | .join destroying =>
      (state.setThread none).goto (state.afterStop destroying)
  | .drain result =>
      { state with
        pending := result.pending state.pending
        owner :=
          match result with
          | .received _ => .draining
          | .failed error =>
              if error = eINTR then .draining else .restoringMask }
  | .restoreMask error =>
      if error ≠ 0 then state.goto .destroyed
      else
        { state with
          waiter := { state.waiter with isMasked := false }
          mask := state.waiter.previousMask
          owner := .destroyed }
  | .generate signal => { state with pending := state.pending.add signal }
  | .testStop =>
      state.moveThread fun thread =>
        if thread.stopRequested then .finished else .waiting
  | .sigtimedwait result =>
      { state.moveThread fun _ => result.next with
        pending := result.pending state.pending }
  | .invokeHandler =>
      { state.moveThread fun _ => .finished with
        invocations := state.invocations + 1 }

end WaiterState

/-- Runs begin with the construction of the waiter. -/
def waiterMachine : Machine WaiterState WaiterStep :=
  .guarded
    (fun state => ∃ hasHandler mask pending error,
      state = .constructed hasHandler mask pending error)
    WaiterState.enabled WaiterState.apply

namespace WaiterState

variable {state target : WaiterState} {label : WaiterStep}

/-- A waiting thread which has not ended. -/
def Waits (state : WaiterState) : Prop :=
  ∃ thread, state.waiter.waitThread = some thread ∧ thread.point ≠ .finished

theorem waits_of_waitsAt {point : WaitPoint}
    (stands : state.waitsAt point = true) (unfinished : point ≠ .finished) :
    state.Waits := by
  obtain ⟨thread, found, here⟩ := (Option.any_eq_true _ _).mp stands
  have same : thread.point = point := of_decide_eq_true here
  exact ⟨thread, found, same ▸ unfinished⟩

/-- `stop()` leaves the thread where it is. -/
theorem waits_stop {destroying : Bool} (waits : (state.stop destroying).Waits) :
    state.Waits := by
  obtain ⟨thread, found, unfinished⟩ := waits
  unfold stop at found
  split at found
  · exact ⟨thread, found, unfinished⟩
  · rename_i origin present
    cases found
    exact ⟨origin, present, unfinished⟩

/-- A thread waits because it did so before, or because it was started. -/
theorem waits_origin (isEnabled : state.enabled label = true)
    (waits : (state.apply label).Waits) :
    state.Waits ∨ ∃ thread, label = .start thread ∧
      state.startResult thread = 0 := by
  cases label with
  | start thread =>
      by_cases creates : state.startResult thread = 0
      · exact .inr ⟨thread, rfl, creates⟩
      · simp only [apply, start, if_neg creates] at waits
        exact .inl waits
  | stop destroying => exact .inl (waits_stop waits)
  | join destroying =>
      obtain ⟨thread, found, _⟩ := waits
      cases found
  | drain result => exact .inl waits
  | restoreMask error =>
      simp only [apply] at waits
      split at waits
      · exact .inl waits
      · exact .inl waits
  | generate signal => exact .inl waits
  | testStop => exact .inl (waits_of_waitsAt isEnabled (by decide))
  | sigtimedwait result =>
      simp only [enabled, Bool.and_eq_true] at isEnabled
      exact .inl (waits_of_waitsAt isEnabled.1 (by decide))
  | invokeHandler => exact .inl (waits_of_waitsAt isEnabled (by decide))

/-- The thread which invokes the handler has ended. -/
theorem not_waits_invokeHandler : ¬(state.apply .invokeHandler).Waits := by
  rintro ⟨thread, found, unfinished⟩
  obtain ⟨origin, _, rfl⟩ := Option.map_eq_some_iff.mp found
  exact unfinished rfl

theorem invocations_apply (other : label ≠ .invokeHandler) :
    (state.apply label).invocations = state.invocations := by
  cases label with
  | invokeHandler => exact absurd rfl other
  | start thread =>
      simp only [apply, start]
      split
      · rfl
      · rfl
  | stop destroying =>
      simp only [apply, stop]
      split
      · rfl
      · rfl
  | restoreMask error =>
      simp only [apply]
      split
      · rfl
      · rfl
  | _ => rfl

/-- A thread which has not ended is ahead of the only invocation. -/
structure Once (state : WaiterState) : Prop where
  atMost : state.invocations ≤ 1
  waiting : state.Waits → state.invocations = 0

/-- `start()` creates a thread only before the handler is invoked. -/
def startsBeforeHandler (state : WaiterState) : WaiterStep → Bool
  | .start thread =>
      state.startResult thread != 0 || state.invocations == 0
  | _ => true

theorem once_step (once : state.Once)
    (allowed : state.startsBeforeHandler label = true)
    (isEnabled : state.enabled label = true) : (state.apply label).Once := by
  by_cases invokes : label = .invokeHandler
  · subst invokes
    have before : state.invocations = 0 :=
      once.waiting (waits_of_waitsAt isEnabled (by decide))
    constructor
    · exact Nat.le_of_eq (congrArg (· + 1) before)
    · intro waits
      exact absurd waits not_waits_invokeHandler
  · have same : (state.apply label).invocations = state.invocations :=
      invocations_apply invokes
    constructor
    · rw [same]
      exact once.atMost
    · intro waits
      rw [same]
      rcases waits_origin isEnabled waits with before | ⟨thread, rfl, creates⟩
      · exact once.waiting before
      · simpa [startsBeforeHandler, creates] using allowed

end WaiterState

/-- In every run in which `start()` creates a thread only before the handler
is invoked, the handler is invoked at most once. -/
theorem handler_at_most_once {state : WaiterState}
    (reached : waiterMachine.ReachableWhere
      (fun state label => state.startsBeforeHandler label = true) state) :
    state.invocations ≤ 1 := by
  have once : state.Once := by
    apply reached.invariant
    · rintro _ ⟨hasHandler, mask, pending, error, rfl⟩
      refine ⟨Nat.zero_le _, ?_⟩
      intro _
      rfl
    · intro before label after once allowed stepped
      obtain ⟨isEnabled, rfl⟩ := Machine.enabled_of_guarded stepped
      exact WaiterState.once_step once allowed isEnabled
  exact once.atMost

/-- A waiter with a handler, in a process with nothing blocked. -/
def sampleWaiter : WaiterState :=
  .constructed true .empty .empty 0

theorem sampleWaiter_initial : waiterMachine.initial sampleWaiter :=
  ⟨true, .empty, .empty, 0, rfl⟩

/-- The waiting thread receives the signal and invokes the handler. -/
def receiveSteps (signal : TerminationSignal) : List WaiterStep :=
  [.generate signal, .testStop, .sigtimedwait (.received signal),
    .invokeHandler]

/-- The waiter is restarted before a signal arrives, receives SIGTERM, refuses
a second start and drops SIGINT when it is destroyed. -/
def restartedBefore : List WaiterStep :=
  ([.start none, .testStop, .sigtimedwait (.failed eAGAIN), .stop false,
    .testStop, .join false, .start none] : List WaiterStep) ++
  receiveSteps .sigterm ++
  ([.start none, .generate .sigint, .stop true, .join true,
    .drain (.received .sigint), .drain (.failed eAGAIN),
    .restoreMask 0] : List WaiterStep)

theorem restartedBefore_enabled :
    (waiterMachine.runWhere
      (fun state label => state.startsBeforeHandler label = true)
      sampleWaiter restartedBefore).isSome = true := by
  decide

def destroyedWaiter : WaiterState :=
  waiterMachine.finishWhere _ sampleWaiter restartedBefore
    restartedBefore_enabled

theorem handler_at_most_once_destroyed :
    destroyedWaiter.owner = .destroyed ∧ destroyedWaiter.mask = .empty ∧
      0 < destroyedWaiter.invocations ∧ destroyedWaiter.invocations ≤ 1 :=
  ⟨by decide, by decide, by decide,
    handler_at_most_once (Machine.ReachableWhere.finishWhere
      (fun _ _ allowed => allowed) (.initial sampleWaiter_initial)
      restartedBefore_enabled)⟩

/-- The waiter is stopped and started again after SIGTERM, and receives
SIGINT. -/
def restartedAfter : List WaiterStep :=
  [WaiterStep.start none] ++ receiveSteps .sigterm ++
  ([.stop false, .join false, .start none] : List WaiterStep) ++
  receiveSteps .sigint

theorem restartedAfter_enabled :
    (waiterMachine.runWhere (fun _ _ => True) sampleWaiter
      restartedAfter).isSome = true := by
  decide

/-- The handler is invoked twice. -/
theorem handler_invoked_twice :
    ∃ state, waiterMachine.Reachable state ∧ state.invocations = 2 :=
  ⟨waiterMachine.finish sampleWaiter restartedAfter restartedAfter_enabled,
    Machine.reachable_finish sampleWaiter_initial restartedAfter_enabled,
    by decide⟩

end LibbpfControl.Utils
