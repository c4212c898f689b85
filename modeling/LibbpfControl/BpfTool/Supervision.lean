import LibbpfControl.BpfTool.RequestQueue
import LibbpfControl.NicCheck.Lifecycle

/-!
# Supervision of the interface monitor

The manager restarts a monitor which has failed.  The failure handler of the
monitor and a restart which did not succeed set `loader_restart_requested_`
under the mutex of the manager; the worker clears it and calls
`start_monitor`.  The status of the monitor belongs to another component and
is an atomic, so what keeps the two in step is the order of the assignments.

The machine of the monitor is used as it is.  From the first start to the
shutdown the worker is the only thread which calls `start_monitor` and nobody
calls `stop_monitor`.
-/

namespace LibbpfControl.BpfTool

open NicCheck

/-- The handlers passed by `start_interface_monitor`. -/
def managerHandlers : Handlers where
  onChange := some 0
  onFailure := some 1

/-- The worker as far as restarts are concerned. -/
inductive RestartPoint where
  /-- Waiting for work, or busy with requests. -/
  | waiting
  /-- The request for a restart is taken, the start not yet called. -/
  | collected
  /-- In `start_interface_monitor`. -/
  | restarting
  /-- The start has failed, the restart is to be requested again. -/
  | failed
  deriving DecidableEq, Repr

structure Supervised where
  monitor : Monitor
  schedule : Schedule
  worker : RestartPoint
  /-- Whether the failure handler which is being called has requested the
  restart. -/
  handlerDone : Bool

inductive SupervisedStep where
  | monitor (label : MonitorStep)
  | append (request : ApplyRequest)
  /-- `request_interface_monitor_restart` by the failure handler. -/
  | requestRestart (now : Int)
  /-- One iteration of the worker's inner loop. -/
  | collect (now : Int)
  | callStart
  | returnStart (success : Bool)
  /-- `request_interface_monitor_restart` by the worker. -/
  | requestAgain (now : Int)

namespace Supervised

/-- The thread of the monitor calls the failure handler. -/
def callsHandler (state : Supervised) : Bool :=
  state.monitor.thread.any fun thread =>
    thread.point matches .calling _ _

/-- Calls are made by the worker only, and a failure handler returns after
its request. -/
def allows (state : Supervised) : MonitorStep → Bool
  | .callStart _ => false
  | .callStop => false
  | .loop (.callFailureHandler _ _) => state.handlerDone
  | _ => true

def enabled (state : Supervised) : SupervisedStep → Bool
  | .monitor label => state.allows label && state.monitor.enabled label
  | .append _ => true
  | .requestRestart _ => state.callsHandler && !state.handlerDone
  | .collect _ => state.worker = .waiting
  | .callStart => state.worker = .collected
  | .returnStart success =>
      state.worker = .restarting &&
        state.monitor.controller = .idle (some (.started success))
  | .requestAgain _ => state.worker = .failed

/-- The state after a step of the monitor. -/
def afterMonitor (state : Supervised) (label : MonitorStep)
    (monitor : Monitor) : Supervised :=
  { state with
    monitor := monitor
    handlerDone :=
      match label with
      | .loop (.callFailureHandler _ _) => false
      | _ => state.handlerDone }

def apply (state : Supervised) : SupervisedStep → Supervised
  | .monitor label => state.afterMonitor label (state.monitor.apply label)
  | .append request =>
      { state with schedule := (state.schedule.add (.append request)).1 }
  | .requestRestart now =>
      { state with
        schedule := (state.schedule.add (.restart now)).1
        handlerDone := true }
  | .collect now =>
      { state with
        schedule := (state.schedule.collect now).schedule
        worker :=
          if (state.schedule.collect now).restartLoader then .collected
          else .waiting }
  | .callStart =>
      { state with
        monitor := state.monitor.apply (.callStart managerHandlers)
        worker := .restarting }
  | .returnStart success =>
      { state with worker := if success then .waiting else .failed }
  | .requestAgain now =>
      { state with
        schedule := (state.schedule.add (.restart now)).1
        worker := .waiting }

/-- The first start of the manager has succeeded and returned. -/
structure Initial (state : Supervised) : Prop where
  reached : monitorMachine.Reachable state.monitor
  returned : state.monitor.controller = .idle (some (.started true))
  running : state.monitor.signals.status = .running
  thread : state.monitor.thread = some (.start managerHandlers.onFailure)
  unrequested : state.schedule.restartRequested = false
  worker : state.worker = .waiting
  handler : state.handlerDone = false

end Supervised

def supervisedMachine : Machine Supervised SupervisedStep :=
  .guarded Supervised.Initial Supervised.enabled Supervised.apply

structure Watch where
  status : MonitorStatus
  threaded : Bool
  /-- `loader_restart_requested_`. -/
  requested : Bool
  /-- The thread has exchanged the status for `kFailed` and its failure
  handler has not yet requested the restart. -/
  reporting : Bool

/-- The failure handler is in progress. -/
def Supervised.reporting (state : Supervised) : Bool :=
  state.monitor.thread.any (fun thread => thread.point.reporting) &&
    !state.handlerDone

def Supervised.watch (state : Supervised) : Watch where
  status := state.monitor.signals.status
  threaded := state.monitor.thread.isSome
  requested := state.schedule.restartRequested
  reporting := state.reporting

namespace Watch

/-- No failure is outstanding. -/
structure Quiet (watch : Watch) : Prop where
  unrequested : watch.requested = false
  silent : watch.reporting = false

/-- Between two restarts the monitor runs, or its failure is being reported,
or the restart is requested. -/
inductive Watching (watch : Watch) : Prop where
  | healthy (running : watch.status = .running) (quiet : watch.Quiet)
  | reporting (down : watch.status ≠ .running)
      (unrequested : watch.requested = false)
      (pending : watch.reporting = true)
  | requested (down : watch.status ≠ .running)
      (isRequested : watch.requested = true)
      (silent : watch.reporting = false)

/-- A restart whose call has returned. -/
def Returned (watch : Watch) : Option CallResult → Prop
  | some (.started true) => watch.Watching
  | some (.started false) => watch.Quiet ∧ watch.status = .stopped
  | _ => False

/-- What holds during the call of a restart. -/
def Calling (watch : Watch) : Controller → Prop
  | .idle last => watch.Returned last
  | .start _ .checkFailed => watch.Quiet ∧ watch.status ≠ .running
  | .start _ (.testStopped _) => watch.Quiet ∧ watch.status = .stopped
  | .start _ _ => watch.Quiet
  | .stop _ _ =>
      watch.Quiet ∧ (watch.threaded = true → watch.status ≠ .running)

/-- What holds where the worker stands. -/
def Stage (watch : Watch) (controller : Controller) : RestartPoint → Prop
  | .waiting => controller.isIdle = true ∧ watch.Watching
  | .collected =>
      controller.isIdle = true ∧ watch.Quiet ∧ watch.status ≠ .running
  | .restarting => watch.Calling controller
  | .failed =>
      controller.isIdle = true ∧ watch.Quiet ∧ watch.status = .stopped

end Watch

/-- The calls in progress are those of a restart. -/
def ByManager : Controller → Prop
  | .idle _ => True
  | .start handlers _ => handlers = managerHandlers
  | .stop caller _ => caller = .restart managerHandlers ∨ caller = .unwind

structure Supervised.Watched (state : Supervised) : Prop where
  reached : monitorMachine.Reachable state.monitor
  passed : ∀ thread, state.monitor.thread = some thread →
    thread.session.passed = managerHandlers.onFailure
  byManager : ByManager state.monitor.controller
  /-- A handler which has made its request has not returned. -/
  handler : state.handlerDone = true → state.callsHandler = true
  stage : state.watch.Stage state.monitor.controller state.worker

variable {state target : Supervised}

/-- What is asked of the point of a thread depends on its course only. -/
theorem any_course {before after : Option LoopThread}
    (same : after.map LoopThread.course = before.map LoopThread.course)
    (test : LoopPoint → Bool) :
    after.any (fun thread => test thread.point) =
      before.any (fun thread => test thread.point) := by
  have tested := congrArg (Option.any fun course => test course.2) same
  simp only [Option.any_map] at tested
  exact tested

theorem watch_congr
    (status : target.monitor.signals.status = state.monitor.signals.status)
    (course : target.monitor.thread.map LoopThread.course =
      state.monitor.thread.map LoopThread.course)
    (requested : target.schedule.restartRequested =
      state.schedule.restartRequested)
    (handler : target.handlerDone = state.handlerDone) :
    target.watch = state.watch := by
  have threaded := congrArg Option.isSome course
  simp only [Option.isSome_map] at threaded
  have reporting := any_course course LoopPoint.reporting
  simp only [Supervised.watch, Supervised.reporting, status, threaded,
    requested, reporting, handler]

/-- The state after a step of the controlling thread. -/
def Supervised.withMonitor (state : Supervised) (monitor : Monitor) :
    Supervised :=
  { state with monitor := monitor }

theorem calling_start {handlers : Handlers} {point : StartPoint}
    (sound : state.monitor.Sound)
    (stands : state.monitor.controller = .start handlers point)
    (calling : state.watch.Calling (.start handlers point))
    (succeeds : Bool) :
    (state.withMonitor
        (state.monitor.applyStart handlers succeeds point)).watch.Calling
      (state.monitor.applyStart handlers succeeds point).controller := by
  have stage : state.monitor.footing.StartStage handlers point :=
    sound.stage_at stands
  cases point with
  | checkFailed =>
      obtain ⟨quiet, down⟩ := calling
      have settled : state.monitor.footing.Settled := stage
      simp only [Monitor.applyStart, Monitor.goto]
      split
      · exact ⟨⟨quiet.unrequested, quiet.silent⟩, fun _ => down⟩
      · rename_i notFailed
        refine ⟨⟨quiet.unrequested, quiet.silent⟩, ?_⟩
        rcases settled with stopped | live
        · exact stopped.status
        · rcases live.status with running | failed
          · exact absurd running down
          · exact absurd failed notFailed
  | testStopped seen =>
      obtain ⟨quiet, stopped⟩ := calling
      have status : state.monitor.signals.status = .stopped := stopped
      simp only [Monitor.applyStart, Monitor.goto, status, if_true]
      exact ⟨quiet.unrequested, quiet.silent⟩
  | openEventfd =>
      cases succeeds with
      | false => exact ⟨calling.unrequested, calling.silent⟩
      | true => exact ⟨calling.unrequested, calling.silent⟩
  | openSocket =>
      cases succeeds with
      | false => exact ⟨calling.unrequested, calling.silent⟩
      | true => exact ⟨calling.unrequested, calling.silent⟩
  | bindSocket =>
      cases succeeds with
      | false => exact ⟨calling.unrequested, calling.silent⟩
      | true => exact ⟨calling.unrequested, calling.silent⟩
  | storeStopped =>
      exact ⟨⟨calling.unrequested, calling.silent⟩, rfl⟩
  | createThread =>
      cases succeeds with
      | false =>
          refine ⟨⟨calling.unrequested, calling.silent⟩, ?_⟩
          intro threaded
          exact absurd (stage.unthreaded.symm.trans threaded) (by decide)
      | true =>
          exact .healthy stage.status ⟨calling.unrequested, rfl⟩
  | _ => exact ⟨calling.unrequested, calling.silent⟩

theorem calling_resume {watch : Watch} {caller : StopCaller}
    (byManager : caller = .restart managerHandlers ∨ caller = .unwind)
    (quiet : watch.Quiet) (stopped : watch.status = .stopped) :
    watch.Calling caller.resume := by
  rcases byManager with rfl | rfl
  · exact ⟨quiet, stopped⟩
  · exact ⟨quiet, stopped⟩

theorem calling_stop {caller : StopCaller} {point : StopPoint}
    (byManager : caller = .restart managerHandlers ∨ caller = .unwind)
    (calling : state.watch.Calling (.stop caller point)) :
    (state.withMonitor (state.monitor.applyStop caller point)).watch.Calling
      (state.monitor.applyStop caller point).controller := by
  obtain ⟨quiet, down⟩ := calling
  cases point with
  | check =>
      simp only [Monitor.applyStop, Monitor.goto]
      split
      · rename_i idle
        exact calling_resume byManager ⟨quiet.unrequested, quiet.silent⟩
          idle.1
      · exact ⟨⟨quiet.unrequested, quiet.silent⟩, down⟩
  | storeStopping =>
      exact ⟨⟨quiet.unrequested, quiet.silent⟩,
        fun _ => show MonitorStatus.stopping ≠ .running by decide⟩
  | requestStop =>
      have same : (state.withMonitor
          (state.monitor.applyStop caller .requestStop)).watch =
            state.watch := by
        apply watch_congr
        · rfl
        · simp only [Supervised.withMonitor, Monitor.applyStop,
            Option.map_map]
          rfl
        · rfl
        · rfl
      rw [same]
      exact ⟨quiet, down⟩
  | runCallback =>
      have same : (state.withMonitor
          (state.monitor.applyStop caller .runCallback)).watch =
            state.watch := by
        apply watch_congr
        · simp only [Supervised.withMonitor, Monitor.applyStop]
          split
          · exact Signals.wake_status _ _
          · rfl
        · rfl
        · rfl
        · rfl
      rw [same]
      exact ⟨quiet, down⟩
  | join =>
      exact ⟨⟨quiet.unrequested, rfl⟩, fun threaded => by cases threaded⟩
  | storeStopped =>
      exact calling_resume byManager ⟨quiet.unrequested, quiet.silent⟩ rfl
  | _ => exact ⟨⟨quiet.unrequested, quiet.silent⟩, down⟩

theorem byManager_start {monitor : Monitor} {handlers : Handlers}
    {point : StartPoint} (isManager : handlers = managerHandlers)
    (succeeds : Bool) :
    ByManager (monitor.applyStart handlers succeeds point).controller := by
  subst isManager
  cases point with
  | checkFailed =>
      simp only [Monitor.applyStart, Monitor.goto]
      split
      · exact .inl rfl
      · exact rfl
  | testStopped seen =>
      simp only [Monitor.applyStart, Monitor.goto]
      split
      · exact rfl
      · exact trivial
  | openEventfd =>
      cases succeeds with
      | false => exact rfl
      | true => exact rfl
  | openSocket =>
      cases succeeds with
      | false => exact rfl
      | true => exact rfl
  | createThread =>
      cases succeeds with
      | false => exact .inr rfl
      | true => exact trivial
  | storeStopped => exact trivial
  | _ => exact rfl

theorem byManager_stop {monitor : Monitor} {caller : StopCaller}
    {point : StopPoint}
    (byManager : caller = .restart managerHandlers ∨ caller = .unwind) :
    ByManager (monitor.applyStop caller point).controller := by
  have resumed : ByManager caller.resume := by
    rcases byManager with rfl | rfl
    · exact rfl
    · exact trivial
  cases point with
  | check =>
      simp only [Monitor.applyStop, Monitor.goto]
      split
      · exact resumed
      · exact byManager
  | storeStopped => exact resumed
  | _ => exact byManager

/-- The failure exit turns a healthy monitor into one whose failure is being
reported; nowhere else does it find the status `kRunning`. -/
theorem stage_failure {watch : Watch} {footing : Footing}
    {controller : Controller} {worker : RestartPoint}
    (stage : watch.Stage controller worker)
    (held : footing.Stage controller) (threaded : footing.threaded = true)
    (watched : watch.threaded = true) (running : watch.status = .running) :
    { watch with status := .failed, reporting := true }.Stage controller
      worker := by
  have failing : watch.Watching →
      { watch with status := .failed, reporting := true }.Watching := by
    intro watching
    cases watching with
    | healthy _ quiet =>
        exact .reporting (show MonitorStatus.failed ≠ .running by decide)
          quiet.unrequested rfl
    | reporting down _ _ => exact absurd running down
    | requested down _ _ => exact absurd running down
  have notStopped : watch.status ≠ .stopped := by
    rw [running]
    decide
  cases worker with
  | waiting => exact ⟨stage.1, failing stage.2⟩
  | collected => exact absurd running stage.2.2
  | failed => exact absurd stage.2.2 notStopped
  | restarting =>
      cases controller with
      | idle last =>
          rcases last with _ | (success | _)
          · exact absurd stage id
          · cases success with
            | true => exact failing stage
            | false => exact absurd stage.2 notStopped
          · exact absurd stage id
      | start handlers point =>
          cases point with
          | checkFailed => exact absurd running stage.2
          | testStopped seen => exact absurd stage.2 notStopped
          | _ => exact absurd (threaded.symm.trans held.unthreaded) (by decide)
      | stop caller point => exact absurd running (stage.2 watched)

/-- A step of the loop with the same report leaves the watch alone. -/
theorem watch_loop {thread next : LoopThread}
    (found : state.monitor.thread = some thread)
    (moved : target.monitor.thread = some next)
    (status : target.monitor.signals.status = state.monitor.signals.status)
    (requested : target.schedule.restartRequested =
      state.schedule.restartRequested)
    (reporting : (next.point.reporting && !target.handlerDone) =
      (thread.point.reporting && !state.handlerDone)) :
    target.watch = state.watch := by
  simp only [Supervised.watch, Supervised.reporting, found, moved, status,
    requested, Option.any_some, Option.isSome_some, reporting]

/-- Only a thread which calls its handler has a handler which is done. -/
theorem handlerDone_eq_false {thread : LoopThread}
    (handler : state.handlerDone = true → state.callsHandler = true)
    (found : state.monitor.thread = some thread)
    (elsewhere : (thread.point matches .calling _ _) = false) :
    state.handlerDone = false := by
  apply eq_false_of_ne_true
  intro done
  have calls := handler done
  simp only [Supervised.callsHandler, found, Option.any_some] at calls
  exact absurd (elsewhere.symm.trans calls) (by decide)

/-- What a step of the loop keeps, apart from the reachability of the
monitor. -/
structure Supervised.LoopKept (state target : Supervised) : Prop where
  handler : target.handlerDone = true → target.callsHandler = true
  stage : target.watch.Stage state.monitor.controller state.worker

/-- The state after a step of the loop. -/
def Supervised.afterLoop (state : Supervised) (action : LoopAction)
    (thread : LoopThread) (done : Bool) : Supervised :=
  { state with
    monitor := state.monitor.applyLoop action thread
    handlerDone := done }

theorem kept_quiet {thread : LoopThread} {action : LoopAction}
    (watched : state.Watched)
    (found : state.monitor.thread = some thread)
    (isEnabled : action.enabled state.monitor.signals thread = true)
    (quiet : action.reports = false) :
    state.LoopKept (state.afterLoop action thread state.handlerDone) := by
  obtain ⟨silent, _⟩ := quiet_enabled quiet isEnabled
  have undone := handlerDone_eq_false watched.handler found (by
    cases stands : thread.point with
    | calling handler error =>
        rw [stands] at silent
        cases silent
    | _ => rfl)
  have same : (state.afterLoop action thread state.handlerDone).watch =
      state.watch := by
    apply watch_loop found rfl
    · exact quiet_status quiet
    · rfl
    · rw [(quiet_move quiet).2, silent]
      rfl
  constructor
  · intro done
    exact absurd (undone.symm.trans done) (by decide)
  · rw [same]
    exact watched.stage

theorem kept_compareExchange {thread : LoopThread} {error : InterfaceError}
    (watched : state.Watched)
    (found : state.monitor.thread = some thread)
    (stands : thread.point = .failing error) :
    state.LoopKept (state.afterLoop (.compareExchange error) thread
      state.handlerDone) := by
  have undone := handlerDone_eq_false watched.handler found (by
    rw [stands])
  have sound := sound_reachable watched.reached
  constructor
  · intro done
    exact absurd (undone.symm.trans done) (by decide)
  · by_cases running : state.monitor.signals.status = .running
    · have failed : (state.afterLoop (.compareExchange error) thread
          state.handlerDone).watch =
            { state.watch with status := .failed, reporting := true } := by
        simp [Supervised.watch, Supervised.reporting, Supervised.afterLoop,
          Monitor.applyLoop, LoopAction.apply, LoopAction.move, running,
          found, undone, LoopPoint.reporting]
      rw [failed]
      exact stage_failure watched.stage sound.stage
        (by simp [Monitor.footing, found])
        (by simp [Supervised.watch, found]) running
    · have same : (state.afterLoop (.compareExchange error) thread
          state.handlerDone).watch = state.watch := by
        apply watch_loop found rfl
        · simp [Supervised.afterLoop, Monitor.applyLoop, LoopAction.apply,
            running]
        · rfl
        · simp [LoopAction.move, running, stands, LoopThread.finish,
            LoopPoint.reporting]
      rw [same]
      exact watched.stage

/-- The handler was passed by the manager, so the copy is not empty. -/
theorem kept_copyFailureHandler {thread : LoopThread}
    {error : InterfaceError} (watched : state.Watched)
    (found : state.monitor.thread = some thread)
    (stands : thread.point = .notifying error) :
    state.LoopKept (state.afterLoop (.copyFailureHandler error) thread
      state.handlerDone) := by
  have undone := handlerDone_eq_false watched.handler found (by
    rw [stands])
  have copied : state.monitor.resources.handlers.onFailure =
      managerHandlers.onFailure :=
    ((sound_reachable watched.reached).passed thread found).trans
      (watched.passed thread found)
  constructor
  · intro done
    exact absurd (undone.symm.trans done) (by decide)
  · have same : (state.afterLoop (.copyFailureHandler error) thread
        state.handlerDone).watch = state.watch := by
      refine watch_loop found rfl rfl rfl ?_
      simp [LoopAction.move, copied, managerHandlers, stands,
        LoopPoint.reporting, Supervised.afterLoop]
    rw [same]
    exact watched.stage

theorem kept_callFailureHandler {thread : LoopThread} {handler : Nat}
    {error : InterfaceError} (watched : state.Watched)
    (found : state.monitor.thread = some thread)
    (done : state.handlerDone = true) :
    state.LoopKept (state.afterLoop (.callFailureHandler handler error)
      thread false) := by
  constructor
  · intro isDone
    cases isDone
  · have same : (state.afterLoop (.callFailureHandler handler error) thread
        false).watch = state.watch := by
      refine watch_loop found rfl rfl rfl ?_
      simp [LoopAction.move, LoopThread.finish, done, LoopPoint.reporting]
    rw [same]
    exact watched.stage

theorem kept_loop {thread : LoopThread} {action : LoopAction}
    (watched : state.Watched)
    (found : state.monitor.thread = some thread)
    (isEnabled : action.enabled state.monitor.signals thread = true)
    (allowed : state.allows (.loop action) = true) :
    state.LoopKept (state.afterMonitor (.loop action)
      (state.monitor.applyLoop action thread)) := by
  cases reports : action.reports with
  | false =>
      have kept := kept_quiet watched found isEnabled reports
      cases action with
      | callFailureHandler handler error => cases reports
      | _ => exact kept
  | true =>
      cases action with
      | compareExchange error =>
          exact kept_compareExchange watched found
            (of_decide_eq_true isEnabled)
      | copyFailureHandler error =>
          exact kept_copyFailureHandler watched found
            (of_decide_eq_true isEnabled)
      | callFailureHandler handler error =>
          exact kept_callFailureHandler watched found allowed
      | _ => cases reports

theorem Supervised.Watched.loop {thread : LoopThread} {action : LoopAction}
    (watched : state.Watched)
    (found : state.monitor.thread = some thread)
    (isEnabled : action.enabled state.monitor.signals thread = true)
    (allowed : state.allows (.loop action) = true)
    (reached : monitorMachine.Reachable
      (state.monitor.applyLoop action thread)) :
    (state.afterMonitor (.loop action)
      (state.monitor.applyLoop action thread)).Watched := by
  have kept := kept_loop watched found isEnabled allowed
  refine ⟨reached, ?_, watched.byManager, kept.handler, kept.stage⟩
  intro next moved
  cases moved
  rw [move_passed]
  exact watched.passed thread found

/-- Steps of the callers and of the kernel. -/
theorem Supervised.Watched.frame {monitor : Monitor}
    (watched : state.Watched) (reached : monitorMachine.Reachable monitor)
    (controller : monitor.controller = state.monitor.controller)
    (status : monitor.signals.status = state.monitor.signals.status)
    (course : monitor.thread.map LoopThread.course =
      state.monitor.thread.map LoopThread.course) :
    (state.withMonitor monitor).Watched where
  reached := reached
  passed := by
    intro thread found
    obtain ⟨origin, present, session, _⟩ := course_origin course found
    rw [← session]
    exact watched.passed origin present
  byManager := by
    rw [show (state.withMonitor monitor).monitor.controller =
      state.monitor.controller from controller]
    exact watched.byManager
  handler := by
    intro done
    have calls := watched.handler done
    rw [← calls]
    exact any_course course fun point => point matches .calling _ _
  stage := by
    have same : (state.withMonitor monitor).watch = state.watch :=
      watch_congr status course rfl rfl
    rw [same, show (state.withMonitor monitor).monitor.controller =
      state.monitor.controller from controller]
    exact watched.stage

/-- A call in progress is the worker's restart. -/
theorem Supervised.Watched.calling (watched : state.Watched)
    (busy : state.monitor.controller.isIdle = false) :
    state.worker = .restarting ∧
      state.watch.Calling state.monitor.controller := by
  have stage := watched.stage
  cases stands : state.worker with
  | restarting =>
      rw [stands] at stage
      exact ⟨rfl, stage⟩
  | _ =>
      rw [stands] at stage
      exact absurd (busy.symm.trans stage.1) (by decide)

theorem Supervised.Watched.start {handlers : Handlers} {point : StartPoint}
    {succeeds : Bool} (watched : state.Watched)
    (stands : state.monitor.controller = .start handlers point)
    (reached : monitorMachine.Reachable
      (state.monitor.applyStart handlers succeeds point)) :
    (state.withMonitor
      (state.monitor.applyStart handlers succeeds point)).Watched := by
  have sound := sound_reachable watched.reached
  have isManager : handlers = managerHandlers := by
    have known := watched.byManager
    rw [stands] at known
    exact known
  obtain ⟨restarting, calling⟩ := watched.calling (by rw [stands]; rfl)
  rw [stands] at calling
  have kept := calling_start sound stands calling succeeds
  have stage : (state.withMonitor
      (state.monitor.applyStart handlers succeeds point)).watch.Stage
        (state.monitor.applyStart handlers succeeds point).controller
        state.worker := by
    rw [restarting]
    exact kept
  refine ⟨reached, ?_, byManager_start isManager succeeds, ?_, stage⟩
  · intro thread found
    cases start_effect state.monitor handlers point succeeds with
    | none sameThread _ _ =>
        exact watched.passed thread (sameThread.symm.trans found)
    | handlers _ sameThread _ =>
        exact watched.passed thread (sameThread.symm.trans found)
    | thread _ created _ _ =>
        cases created.symm.trans found
        exact congrArg Handlers.onFailure isManager
  · intro done
    have calls := watched.handler done
    simp only [Supervised.callsHandler] at calls ⊢
    cases start_effect state.monitor handlers point succeeds with
    | none sameThread _ _ =>
        simp only [Supervised.withMonitor, sameThread]
        exact calls
    | handlers _ sameThread _ =>
        simp only [Supervised.withMonitor, sameThread]
        exact calls
    | thread atCreation created _ _ =>
        subst atCreation
        have unthreaded : state.monitor.thread = none :=
          Monitor.thread_eq_none (sound.stage_at stands).unthreaded
        simp [unthreaded] at calls

theorem stop_course (monitor : Monitor) (caller : StopCaller)
    (point : StopPoint) :
    point = .join ∨ (monitor.applyStop caller point).thread.map
      LoopThread.course = monitor.thread.map LoopThread.course := by
  cases point with
  | join => exact .inl rfl
  | requestStop =>
      refine .inr ?_
      simp only [Monitor.applyStop, Option.map_map]
      rfl
  | _ => exact .inr rfl

theorem Supervised.Watched.stop {caller : StopCaller} {point : StopPoint}
    (watched : state.Watched)
    (stands : state.monitor.controller = .stop caller point)
    (joinable : point = .join → ∃ thread,
      state.monitor.thread = some thread ∧ thread.point = .finished)
    (reached : monitorMachine.Reachable
      (state.monitor.applyStop caller point)) :
    (state.withMonitor (state.monitor.applyStop caller point)).Watched := by
  have byManager : caller = .restart managerHandlers ∨ caller = .unwind := by
    have known := watched.byManager
    rw [stands] at known
    exact known
  obtain ⟨restarting, calling⟩ := watched.calling (by rw [stands]; rfl)
  rw [stands] at calling
  have kept := calling_stop byManager calling
  have stage : (state.withMonitor
      (state.monitor.applyStop caller point)).watch.Stage
        (state.monitor.applyStop caller point).controller state.worker := by
    rw [restarting]
    exact kept
  rcases stop_course state.monitor caller point with rfl | course
  · refine ⟨reached, ?_, byManager_stop byManager, ?_, stage⟩
    · intro thread found
      cases found
    · obtain ⟨thread, present, finished⟩ := joinable rfl
      have undone := handlerDone_eq_false watched.handler present (by
        rw [finished])
      intro done
      exact absurd (undone.symm.trans done) (by decide)
  · refine ⟨reached, ?_, byManager_stop byManager, ?_, stage⟩
    · intro thread found
      obtain ⟨origin, present, session, _⟩ := course_origin course found
      rw [← session]
      exact watched.passed origin present
    · intro done
      have calls := watched.handler done
      rw [← calls]
      exact any_course course fun point => point matches .calling _ _

theorem watched_monitor {label : MonitorStep} {monitor : Monitor}
    (watched : state.Watched) (moves : state.monitor.Moves label monitor)
    (allowed : state.allows label = true)
    (reached : monitorMachine.Reachable monitor) :
    (state.afterMonitor label monitor).Watched := by
  cases moves with
  | callStart idle => cases allowed
  | callStop idle => cases allowed
  | start stands => exact watched.start stands reached
  | stop stands joinable => exact watched.stop stands joinable reached
  | loop found isEnabled =>
      exact watched.loop found isEnabled allowed reached
  | requestRefresh stands => exact watched.frame reached rfl rfl rfl
  | storeDirty stands => exact watched.frame reached rfl rfl rfl
  | wakeMonitor stands =>
      exact watched.frame reached rfl (Signals.wake_status _ _) rfl
  | refresh stands isEnabled =>
      exact watched.frame reached rfl (refresh_status _ _) rfl
  | deliver isOpen => exact watched.frame reached rfl rfl rfl
  | overrun isOpen =>
      have course : (state.monitor.apply .overrun).thread.map
          LoopThread.course =
            state.monitor.thread.map LoopThread.course := by
        simp only [Monitor.apply, Option.map_map]
        rfl
      exact watched.frame reached rfl rfl course
  | breakSocket isOpen => exact watched.frame reached rfl rfl rfl

/-- An outstanding failure is only found between two restarts. -/
theorem stage_loud {watch : Watch} {controller : Controller}
    {worker : RestartPoint} (stage : watch.Stage controller worker)
    (loud : ¬ watch.Quiet) :
    watch.Watching ∧
      ∀ later : Watch, later.Watching → later.Stage controller worker := by
  cases worker with
  | waiting => exact ⟨stage.2, fun _ kept => ⟨stage.1, kept⟩⟩
  | collected => exact absurd stage.2.1 loud
  | failed => exact absurd stage.2.1 loud
  | restarting =>
      cases controller with
      | idle last =>
          rcases last with _ | (success | _)
          · exact absurd stage id
          · cases success with
            | true => exact ⟨stage, fun _ kept => kept⟩
            | false => exact absurd stage.1 loud
          · exact absurd stage id
      | start handlers point =>
          cases point with
          | checkFailed => exact absurd stage.1 loud
          | testStopped seen => exact absurd stage.1 loud
          | _ => exact absurd stage loud
      | stop caller point => exact absurd stage.1 loud

/-- The request of the failure handler. -/
theorem watched_requestRestart {now : Int} (watched : state.Watched)
    (calls : state.callsHandler = true) (undone : state.handlerDone = false) :
    (state.apply (.requestRestart now)).Watched := by
  have reporting : state.watch.reporting = true := by
    simp only [Supervised.callsHandler, Option.any_eq_true] at calls
    obtain ⟨thread, found, isCalling⟩ := calls
    cases stands : thread.point with
    | calling handler error =>
        simp [Supervised.watch, Supervised.reporting, found, stands,
          LoopPoint.reporting, undone]
    | _ =>
        rw [stands] at isCalling
        cases isCalling
  have loud : ¬ state.watch.Quiet := by
    intro quiet
    exact absurd (quiet.silent.symm.trans reporting) (by decide)
  obtain ⟨watching, kept⟩ := stage_loud watched.stage loud
  refine ⟨watched.reached, watched.passed, watched.byManager,
    fun _ => calls, kept _ ?_⟩
  cases watching with
  | healthy _ quiet => exact absurd quiet loud
  | reporting down _ _ =>
      exact .requested down rfl (by
        simp [Supervised.watch, Supervised.reporting, Supervised.apply])
  | requested _ _ silent =>
      exact absurd (silent.symm.trans reporting) (by decide)

/-- The worker takes a request which is due. -/
theorem watched_collect {now : Int} (watched : state.Watched)
    (waiting : state.worker = .waiting) :
    (state.apply (.collect now)).Watched := by
  have stage := watched.stage
  rw [waiting] at stage
  obtain ⟨idle, watching⟩ := stage
  refine ⟨watched.reached, watched.passed, watched.byManager,
    watched.handler, ?_⟩
  cases taken : (state.schedule.collect now).restartLoader with
  | false =>
      have same : (state.apply (.collect now)).watch = state.watch :=
        watch_congr rfl rfl (collect_no_restart taken) rfl
      rw [same]
      simp only [Supervised.apply, taken]
      exact ⟨idle, watching⟩
  | true =>
      obtain ⟨requested, cleared⟩ := collect_restart taken
      simp only [Supervised.apply, taken, if_true]
      cases watching with
      | healthy _ quiet =>
          exact absurd (quiet.unrequested.symm.trans requested) (by decide)
      | reporting _ unrequested _ =>
          exact absurd (unrequested.symm.trans requested) (by decide)
      | requested down _ silent => exact ⟨idle, ⟨cleared, silent⟩, down⟩

theorem monitor_next {monitor : Monitor} {label : MonitorStep}
    (reached : monitorMachine.Reachable monitor)
    (isEnabled : monitor.enabled label = true) :
    monitorMachine.Reachable (monitor.apply label) ∧
      monitor.Moves label (monitor.apply label) := by
  have stepped : monitorMachine.step monitor label =
      some (monitor.apply label) := by
    simp [monitorMachine, Machine.guarded, isEnabled]
  exact ⟨.next reached trivial stepped, Monitor.moves_of_step stepped⟩

/-- The worker calls `start_monitor` with no other call in progress. -/
theorem watched_callStart (watched : state.Watched)
    (collected : state.worker = .collected) :
    (state.apply .callStart).Watched := by
  have stage := watched.stage
  rw [collected] at stage
  obtain ⟨idle, quiet, down⟩ := stage
  have reached := (monitor_next watched.reached
    (show state.monitor.enabled (.callStart managerHandlers) = true from
      idle)).1
  exact ⟨reached, watched.passed, rfl, watched.handler,
    ⟨quiet.unrequested, quiet.silent⟩, down⟩

theorem watched_returnStart {success : Bool} (watched : state.Watched)
    (restarting : state.worker = .restarting)
    (returned : state.monitor.controller = .idle (some (.started success))) :
    (state.apply (.returnStart success)).Watched := by
  have stage := watched.stage
  rw [restarting, returned] at stage
  have idle : state.monitor.controller.isIdle = true := by
    rw [returned]
    rfl
  refine ⟨watched.reached, watched.passed, watched.byManager,
    watched.handler, ?_⟩
  cases success with
  | true => exact ⟨idle, stage⟩
  | false => exact ⟨idle, stage⟩

theorem watched_requestAgain {now : Int} (watched : state.Watched)
    (failed : state.worker = .failed) :
    (state.apply (.requestAgain now)).Watched := by
  have stage := watched.stage
  rw [failed] at stage
  obtain ⟨idle, quiet, stopped⟩ := stage
  refine ⟨watched.reached, watched.passed, watched.byManager,
    watched.handler, idle, .requested ?_ rfl quiet.silent⟩
  have status : state.monitor.signals.status = .stopped := stopped
  simp [Supervised.watch, Supervised.apply, status]

theorem watched_step {label : SupervisedStep} (watched : state.Watched)
    (stepped : supervisedMachine.step state label = some target) :
    target.Watched := by
  obtain ⟨isEnabled, rfl⟩ := Machine.enabled_of_guarded stepped
  cases label with
  | monitor label =>
      simp only [Supervised.enabled, Bool.and_eq_true] at isEnabled
      obtain ⟨reached, moves⟩ := monitor_next watched.reached isEnabled.2
      exact watched_monitor watched moves isEnabled.1 reached
  | append request =>
      exact ⟨watched.reached, watched.passed, watched.byManager,
        watched.handler, watched.stage⟩
  | requestRestart now =>
      simp only [Supervised.enabled, Bool.and_eq_true,
        Bool.not_eq_true'] at isEnabled
      exact watched_requestRestart watched isEnabled.1 isEnabled.2
  | collect now => exact watched_collect watched (of_decide_eq_true isEnabled)
  | callStart => exact watched_callStart watched (of_decide_eq_true isEnabled)
  | returnStart success =>
      simp only [Supervised.enabled, Bool.and_eq_true,
        decide_eq_true_eq] at isEnabled
      exact watched_returnStart watched isEnabled.1 isEnabled.2
  | requestAgain now =>
      exact watched_requestAgain watched (of_decide_eq_true isEnabled)

theorem watched_initial (initial : state.Initial) : state.Watched where
  reached := initial.reached
  passed := by
    intro thread found
    cases initial.thread.symm.trans found
    rfl
  byManager := by
    rw [initial.returned]
    trivial
  handler := by simp [initial.handler]
  stage := by
    rw [initial.worker, initial.returned]
    refine ⟨rfl, .healthy initial.running ⟨initial.unrequested, ?_⟩⟩
    simp [Supervised.watch, Supervised.reporting, initial.thread,
      LoopThread.start, LoopPoint.reporting]

theorem watched_reachable (reached : supervisedMachine.Reachable state) :
    state.Watched :=
  reached.invariant (fun _ initial => watched_initial initial)
    (fun _ _ _ watched stepped => watched_step watched stepped)

structure Supervised.Supervision (state : Supervised) : Prop where
  /-- A monitor which is down has its restart requested, or its failure
  handler or the worker's new request is in progress, or the worker is
  executing the restart. -/
  remembered : state.monitor.signals.status ≠ .running →
    state.schedule.restartRequested = true ∨ state.reporting = true ∨
      state.worker = .failed ∨ state.worker = .collected ∨
      state.worker = .restarting
  /-- A restart which is requested is needed. -/
  needed : state.schedule.restartRequested = true →
    state.monitor.signals.status ≠ .running
  /-- The worker does not call `start_monitor` on a running monitor. -/
  called : state.worker = .collected →
    state.monitor.signals.status ≠ .running
  /-- Nor is the monitor running when the call first looks at it. -/
  checked : ∀ handlers,
    state.monitor.controller = .start handlers .checkFailed →
    state.monitor.signals.status ≠ .running

theorem supervision_reachable
    (reached : supervisedMachine.Reachable state) : state.Supervision := by
  have watched := watched_reachable reached
  have stage := watched.stage
  constructor
  · intro down
    cases stands : state.worker with
    | waiting =>
        rw [stands] at stage
        cases stage.2 with
        | healthy running _ => exact absurd running down
        | reporting _ _ pending => exact .inr (.inl pending)
        | requested _ isRequested _ => exact .inl isRequested
    | failed => exact .inr (.inr (.inl rfl))
    | collected => exact .inr (.inr (.inr (.inl rfl)))
    | restarting => exact .inr (.inr (.inr (.inr rfl)))
  · intro isRequested
    have loud : ¬ state.watch.Quiet := by
      intro quiet
      exact absurd (quiet.unrequested.symm.trans isRequested) (by decide)
    cases (stage_loud stage loud).1 with
    | healthy _ quiet => exact absurd quiet loud
    | reporting down _ _ => exact down
    | requested down _ _ => exact down
  · intro collected
    rw [collected] at stage
    exact stage.2.2
  · intro handlers stands
    have calling := (watched.calling (by rw [stands]; rfl)).2
    rw [stands] at calling
    exact calling.2

def managerStart : List MonitorStep :=
  [.callStart managerHandlers, .start managerHandlers .checkFailed true] ++
    startSteps managerHandlers .stopped

theorem managerStart_enabled :
    (monitorMachine.runWhere (fun _ _ => True) (.constructed 150)
      managerStart).isSome = true := by
  decide +kernel

/-- The manager after its construction. -/
def supervisedStart : Supervised where
  monitor :=
    monitorMachine.finish (.constructed 150) managerStart
      managerStart_enabled
  schedule :=
    { applyRequests := Keyed.empty
      restartRequested := false
      restartTime := 0 }
  worker := .waiting
  handlerDone := false

theorem supervisedStart_initial : supervisedStart.Initial where
  reached := Machine.reachable_finish (constructed_initial 150)
    managerStart_enabled
  returned := by decide
  running := by decide
  thread := by decide
  unrequested := rfl
  worker := rfl
  handler := rfl

/-- `poll` fails, the restart is taken after its delay, and the eventfd
cannot be created. -/
def failedRestart : List SupervisedStep :=
  ([.registerCallback, .enterPoll 0, .pollFails (-1),
      .compareExchange .pollError,
      .copyFailureHandler .pollError] : List LoopAction).map
        (SupervisedStep.monitor ∘ MonitorStep.loop) ++
    [.requestRestart 0, .monitor (.loop (.callFailureHandler 1 .pollError)),
      .collect 5000000000, .callStart,
      .monitor (.start managerHandlers .checkFailed true)] ++
    ([.check, .storeStopping, .requestStop, .runCallback, .join,
      .closeNetlink, .closeWake, .clearHandlers,
      .storeStopped] : List StopPoint).map
        (SupervisedStep.monitor ∘
          MonitorStep.stop (.restart managerHandlers)) ++
    ([.testStopped .failed, .storeStarting, .openEventfd,
      .storeStopped] : List StartPoint).map
        (fun point => .monitor (.start managerHandlers point false)) ++
    [.returnStart false, .requestAgain 6000000000]

theorem failedRestart_enabled :
    (supervisedMachine.runWhere (fun _ _ => True) supervisedStart
      failedRestart).isSome = true := by
  decide +kernel

def restartAgain : Supervised :=
  supervisedMachine.finish supervisedStart failedRestart
    failedRestart_enabled

theorem supervision_failedRestart :
    restartAgain.Supervision ∧
      restartAgain.monitor.signals.status = .stopped ∧
      restartAgain.schedule.restartRequested = true :=
  ⟨supervision_reachable (Machine.reachable_finish supervisedStart_initial
    failedRestart_enabled), by decide, by decide⟩

end LibbpfControl.BpfTool
