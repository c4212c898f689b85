import LibbpfControl.Machine
import LibbpfControl.BpfTool.RequestQueue

/-!
# Shutting the worker down

The worker waits on a condition variable for requests; the thread which shuts
the manager down sets the stop flag, notifies all waiters and joins.  Neither
the flag nor the notification is protected by the mutex of the condition
variable, so both can fall between the evaluation of the predicate by the
worker and the moment it blocks.

Evaluating the predicate and blocking are therefore separate points here.
The critical sections of the threads which add work are single steps, which
are not enabled while the worker holds the mutex.
-/

namespace LibbpfControl.BpfTool

/-- The shutdown sequence stands in the destructor and in the branch of the
constructor which handles a monitor that did not start. -/
inductive ShutdownPath where
  | destructor
  | startFailure
  deriving DecidableEq, Repr

inductive WorkerPoint where
  | loopHead
  /-- Holding the mutex, about to evaluate the predicate. -/
  | evaluating
  /-- Holding the mutex, the predicate was false and the thread is about to
  release the mutex and block. -/
  | falsified
  | blocked
  /-- Notified in the untimed wait, the mutex has to be taken again. -/
  | woken
  /-- Holding the mutex, at the head of the inner loop. -/
  | iterating
  | timedWaiting (wakeAt : Int)
  | timedWoken
  /-- The mutex is released, the stop flag is tested next. -/
  | released
  | processing
  | exited
  deriving DecidableEq, Repr

def WorkerPoint.holdsMutex : WorkerPoint → Bool
  | .evaluating => true
  | .falsified => true
  | .iterating => true
  | _ => false

/-- A notification reaches the worker only while it is blocked. -/
def WorkerPoint.notified : WorkerPoint → WorkerPoint
  | .blocked => .woken
  | .timedWaiting _ => .timedWoken
  | point => point

/-- The thread which shuts the manager down. -/
inductive OwnerPoint where
  | idle
  | stopRequested
  | notified
  | joined
  deriving DecidableEq, Repr

structure ShutdownState where
  path : ShutdownPath
  schedule : Schedule
  stop : Bool
  worker : WorkerPoint
  owner : OwnerPoint
  /-- The threads which have added work and not yet notified. -/
  notifiers : Nat

/-- The predicate of the untimed wait. -/
def ShutdownState.hasWork (state : ShutdownState) : Bool :=
  state.stop || !state.schedule.applyRequests.items.isEmpty ||
    state.schedule.restartRequested

inductive ShutdownStep where
  | testLoop
  | evaluate
  | block
  | resume
  | wakeSpuriously
  /-- One iteration of the inner loop. -/
  | iterate (now : Int)
  | testStop
  /-- A failed pass or restart of the worker is queued again. -/
  | requeue (work : Work)
  | finishProcessing
  | produce (work : Work)
  | notify
  | requestStop
  | notifyAll
  | join
  deriving DecidableEq, Repr

namespace ShutdownState

/-- The body of the inner loop, or its end when a stop is requested. -/
def iterate (state : ShutdownState) (now : Int) : ShutdownState :=
  if state.stop then { state with worker := .released }
  else
    let collected := state.schedule.collect now
    { state with
      schedule := collected.schedule
      worker :=
        if !collected.ready.items.isEmpty || collected.restartLoader then
          .released
        else .timedWaiting collected.schedule.wakeAt }

def step (state : ShutdownState) : ShutdownStep → Option ShutdownState
  | .testLoop =>
      if state.worker = .loopHead then
        some { state with
          worker := if state.stop then .exited else .evaluating }
      else none
  | .evaluate =>
      if state.worker = .evaluating then
        some { state with
          worker := if state.hasWork then .iterating else .falsified }
      else none
  | .block =>
      if state.worker = .falsified then
        some { state with worker := .blocked }
      else none
  | .resume =>
      if state.worker = .woken then
        some { state with worker := .evaluating }
      else if state.worker = .timedWoken then
        some { state with worker := .iterating }
      else none
  | .wakeSpuriously => some { state with worker := state.worker.notified }
  | .iterate now =>
      if state.worker = .iterating then some (state.iterate now) else none
  | .testStop =>
      if state.worker = .released then
        some { state with
          worker := if state.stop then .exited else .processing }
      else none
  | .requeue work =>
      if state.worker = .processing then
        some { state with schedule := (state.schedule.add work).1 }
      else none
  | .finishProcessing =>
      if state.worker = .processing then
        some { state with worker := .loopHead }
      else none
  | .produce work =>
      -- a manager whose monitor did not start has no other threads
      if state.path = .destructor ∧ state.worker.holdsMutex = false then
        let added := state.schedule.add work
        some { state with
          schedule := added.1
          notifiers := if added.2 then state.notifiers + 1
            else state.notifiers }
      else none
  | .notify =>
      if 0 < state.notifiers then
        some { state with
          worker := state.worker.notified
          notifiers := state.notifiers - 1 }
      else none
  | .requestStop =>
      if state.owner = .idle then
        some { state with stop := true, owner := .stopRequested }
      else none
  | .notifyAll =>
      if state.owner = .stopRequested then
        some { state with
          worker := state.worker.notified
          owner := .notified }
      else none
  | .join =>
      if state.owner = .notified ∧ state.worker = .exited then
        some { state with owner := .joined }
      else none

end ShutdownState

/-- The worker starts with an empty queue; the path is fixed from the
start. -/
structure ShutdownState.Initial (state : ShutdownState) : Prop where
  applyRequests : state.schedule.applyRequests.items = []
  restart : state.schedule.restartRequested = false
  stop : state.stop = false
  worker : state.worker = .loopHead
  owner : state.owner = .idle
  notifiers : state.notifiers = 0

def shutdownMachine : Machine ShutdownState ShutdownStep where
  initial := ShutdownState.Initial
  step := ShutdownState.step

/-- The stop was requested and notified, the worker is blocked without a
timeout, and nobody is about to notify. -/
def ShutdownState.Hung (state : ShutdownState) : Prop :=
  state.stop = true ∧ state.owner = .notified ∧ state.worker = .blocked ∧
    state.notifiers = 0

instance (state : ShutdownState) : Decidable state.Hung := by
  unfold ShutdownState.Hung
  infer_instance

/-- `notify_all` is not executed while the worker is between a false
predicate and blocking. -/
def NotifiesOutsideWindow (state : ShutdownState) (label : ShutdownStep) :
    Prop :=
  label = .notifyAll → state.worker ≠ .falsified

instance (state : ShutdownState) (label : ShutdownStep) :
    Decidable (NotifiesOutsideWindow state label) := by
  unfold NotifiesOutsideWindow
  infer_instance

/-- Once all waiters are notified, the worker neither blocks nor is about to,
because it sees the stop flag at every later evaluation. -/
structure ShutdownState.Responsive (state : ShutdownState) : Prop where
  stopped : state.owner ≠ .idle → state.stop = true
  notBlocked : state.owner = .notified ∨ state.owner = .joined →
    state.worker ≠ .blocked ∧ state.worker ≠ .falsified

theorem notified_ne_blocked (point : WorkerPoint) :
    point.notified ≠ .blocked := by
  cases point <;> simp [WorkerPoint.notified]

theorem notified_eq_falsified {point : WorkerPoint}
    (same : point.notified = .falsified) : point = .falsified := by
  cases point <;> simp_all [WorkerPoint.notified]

theorem notified_responsive {point : WorkerPoint}
    (notFalsified : point ≠ .falsified) :
    point.notified ≠ .blocked ∧ point.notified ≠ .falsified :=
  ⟨notified_ne_blocked point,
    fun same => notFalsified (notified_eq_falsified same)⟩

theorem iterate_worker (state : ShutdownState) (now : Int) :
    (state.iterate now).stop = state.stop ∧
      (state.iterate now).owner = state.owner ∧
      (state.iterate now).worker ≠ .blocked ∧
      (state.iterate now).worker ≠ .falsified := by
  unfold ShutdownState.iterate
  split
  · simp
  · dsimp only
    split <;> simp

theorem taken_of_guard {condition : Prop} [Decidable condition]
    {result target : ShutdownState}
    (stepped : (if condition then some result else none) = some target) :
    condition ∧ result = target := by
  rw [Option.ite_none_right_eq_some] at stepped
  exact ⟨stepped.1, Option.some.inj stepped.2⟩

theorem ShutdownState.Responsive.stop_of_notified {state : ShutdownState}
    (responsive : state.Responsive)
    (after : state.owner = .notified ∨ state.owner = .joined) :
    state.stop = true := by
  apply responsive.stopped
  rcases after with notified | joined
  · rw [notified]
    simp
  · rw [joined]
    simp

theorem responsive_step {state target : ShutdownState}
    {label : ShutdownStep} (responsive : state.Responsive)
    (outside : NotifiesOutsideWindow state label)
    (stepped : state.step label = some target) : target.Responsive := by
  have stopped := responsive.stopped
  have notBlocked := responsive.notBlocked
  cases label with
  | testLoop =>
      obtain ⟨_, rfl⟩ := taken_of_guard stepped
      refine ⟨stopped, fun _ => ?_⟩
      dsimp only
      split <;> simp
  | evaluate =>
      obtain ⟨_, rfl⟩ := taken_of_guard stepped
      refine ⟨stopped, fun after => ?_⟩
      -- the predicate is true because the stop flag is set
      have stop : state.stop = true := responsive.stop_of_notified after
      simp [ShutdownState.hasWork, stop]
  | block =>
      obtain ⟨falsified, rfl⟩ := taken_of_guard stepped
      exact ⟨stopped, fun after => ((notBlocked after).2 falsified).elim⟩
  | resume =>
      simp only [ShutdownState.step] at stepped
      split at stepped
      · cases stepped
        exact ⟨stopped, fun _ => by simp⟩
      · obtain ⟨_, rfl⟩ := taken_of_guard stepped
        exact ⟨stopped, fun _ => by simp⟩
  | wakeSpuriously =>
      cases stepped
      exact ⟨stopped, fun after =>
        notified_responsive (notBlocked after).2⟩
  | iterate now =>
      obtain ⟨_, rfl⟩ := taken_of_guard stepped
      obtain ⟨sameStop, sameOwner, blocked, falsified⟩ :=
        iterate_worker state now
      refine ⟨?_, fun _ => ⟨blocked, falsified⟩⟩
      rw [sameStop, sameOwner]
      exact stopped
  | testStop =>
      obtain ⟨_, rfl⟩ := taken_of_guard stepped
      refine ⟨stopped, fun _ => ?_⟩
      dsimp only
      split <;> simp
  | requeue work =>
      obtain ⟨_, rfl⟩ := taken_of_guard stepped
      exact ⟨stopped, notBlocked⟩
  | finishProcessing =>
      obtain ⟨_, rfl⟩ := taken_of_guard stepped
      exact ⟨stopped, fun _ => by simp⟩
  | produce work =>
      obtain ⟨_, rfl⟩ := taken_of_guard stepped
      exact ⟨stopped, notBlocked⟩
  | notify =>
      obtain ⟨_, rfl⟩ := taken_of_guard stepped
      exact ⟨stopped, fun after =>
        notified_responsive (notBlocked after).2⟩
  | requestStop =>
      obtain ⟨_, rfl⟩ := taken_of_guard stepped
      exact ⟨fun _ => rfl, fun after => by simp at after⟩
  | notifyAll =>
      obtain ⟨requested, rfl⟩ := taken_of_guard stepped
      refine ⟨fun _ => stopped (by simp [requested]), fun _ => ?_⟩
      exact notified_responsive (outside rfl)
  | join =>
      obtain ⟨finished, rfl⟩ := taken_of_guard stepped
      refine ⟨fun _ => stopped (by simp [finished.1]), fun _ => ?_⟩
      exact notBlocked (Or.inl finished.1)

/-- Shutdown never hangs on a lost wake-up, in any run in which `notify_all`
is not executed in the window between predicate and blocking. -/
theorem shutdown_not_hung {state : ShutdownState}
    (reached : shutdownMachine.ReachableWhere NotifiesOutsideWindow state) :
    ¬state.Hung := by
  have responsive : state.Responsive := by
    apply reached.invariant
    · intro start begins
      refine ⟨fun notIdle => (notIdle begins.owner).elim, fun after => ?_⟩
      rw [begins.owner] at after
      simp at after
    · intro state label target responsive outside stepped
      exact responsive_step responsive outside stepped
  intro hung
  exact (responsive.notBlocked (Or.inl hung.2.1)).1 hung.2.2.1

def idleWorker (path : ShutdownPath) : ShutdownState where
  path := path
  schedule :=
    { applyRequests := Keyed.empty
      restartRequested := false
      restartTime := 0 }
  stop := false
  worker := .loopHead
  owner := .idle
  notifiers := 0

theorem idleWorker_initial (path : ShutdownPath) :
    shutdownMachine.initial (idleWorker path) :=
  ⟨rfl, rfl, rfl, rfl, rfl, rfl⟩

/-- The worker is blocked when it is notified. -/
def timelyShutdown : List ShutdownStep :=
  [.testLoop, .evaluate, .block, .requestStop, .notifyAll]

theorem timelyShutdown_enabled :
    (shutdownMachine.runWhere NotifiesOutsideWindow (idleWorker .destructor)
      timelyShutdown).isSome = true := by
  decide

theorem shutdown_not_hung_timely :
    ¬(shutdownMachine.finishWhere NotifiesOutsideWindow
      (idleWorker .destructor) timelyShutdown timelyShutdown_enabled).Hung :=
  shutdown_not_hung
    (Machine.ReachableWhere.finishWhere (fun _ _ allowed => allowed)
      (.initial (idleWorker_initial .destructor)) timelyShutdown_enabled)

/-- The whole shutdown sequence runs after the predicate was found false and
before the worker blocks. -/
def lostWakeup : List ShutdownStep :=
  [.testLoop, .evaluate, .requestStop, .notifyAll, .block]

theorem lostWakeup_enabled (path : ShutdownPath) :
    (shutdownMachine.runWhere (fun _ _ => True) (idleWorker path)
      lostWakeup).isSome = true := by
  cases path <;> decide

theorem lostWakeup_hung (path : ShutdownPath) :
    ∃ state, shutdownMachine.Reachable state ∧ state.path = path ∧
      state.Hung := by
  refine ⟨shutdownMachine.finish (idleWorker path) lostWakeup
    (lostWakeup_enabled path),
    Machine.reachable_finish (idleWorker_initial path) _, ?_, ?_⟩
  · cases path <;> rfl
  · cases path <;> decide

/-- Nothing but a spurious wake-up ends the hang when there are no other
threads. -/
theorem hung_stuck {state : ShutdownState} (hung : state.Hung)
    (path : state.path = .startFailure) {label : ShutdownStep}
    (notSpurious : label ≠ .wakeSpuriously) : state.step label = none := by
  obtain ⟨_, owner, worker, notifiers⟩ := hung
  cases label with
  | wakeSpuriously => exact (notSpurious rfl).elim
  | _ => simp [ShutdownState.step, owner, worker, notifiers, path]

/-- Both places which shut the worker down can hang, and in the constructor
there is no other thread left to end it. -/
theorem shutdown_hangs :
    (∃ state, shutdownMachine.Reachable state ∧
      state.path = .destructor ∧ state.Hung) ∧
    (∃ state, shutdownMachine.Reachable state ∧
      state.path = .startFailure ∧ state.Hung ∧
      ∀ label, label ≠ .wakeSpuriously → state.step label = none) := by
  refine ⟨lostWakeup_hung .destructor, ?_⟩
  obtain ⟨state, reached, path, hung⟩ := lostWakeup_hung .startFailure
  exact ⟨state, reached, path, hung, fun _ => hung_stuck hung path⟩

end LibbpfControl.BpfTool
