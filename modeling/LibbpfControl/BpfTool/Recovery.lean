import Mathlib.Data.Prod.Lex
import LibbpfControl.BpfTool.Supervision
import LibbpfControl.NicCheck.StopReturns

/-!
# Recovery of the interface monitor

A failure of the monitor is remembered until a restart has succeeded, but that
alone would allow a restart which hangs: `start_monitor` on a failed monitor
stops it first, and `stop_monitor` joins the thread which has failed, while
this thread is still in its failure handler.

The thread of a monitor which is no longer `kRunning` has left the loop, so the
join waits for the failure handler only, and that has made its request before
the worker could take it.  Counting the assignments which are left, every run
in which the system calls of the restart succeed comes to a running monitor.
-/

namespace LibbpfControl.NicCheck

/-- The loop is left, by the failure exit or by a stop request. -/
def LoopPoint.exited : LoopPoint → Bool
  | .notifying _ => true
  | .calling _ _ => true
  | .finished => true
  | _ => false

theorem LoopPoint.exited_cases {point : LoopPoint}
    (exited : point.exited = true) :
    point.reporting = true ∨ point = .finished := by
  cases point with
  | notifying error => exact .inl rfl
  | calling handler error => exact .inl rfl
  | finished => exact .inr rfl
  | _ => cases exited

/-- From the failure exit on no step leads back into the loop. -/
theorem reports_exited {debounce : Int} {resources : Resources}
    {signals : Signals} {thread : LoopThread} {action : LoopAction}
    (reports : action.reports = true) :
    (action.move debounce resources signals thread).point.exited = true := by
  cases action with
  | compareExchange error =>
      simp only [LoopAction.move]
      split
      · rfl
      · rfl
  | copyFailureHandler error =>
      simp only [LoopAction.move]
      split
      · rfl
      · rfl
  | callFailureHandler handler error => rfl
  | _ => cases reports

/-- A thread without the status `kRunning` has left the loop. -/
def Monitor.Exited (state : Monitor) : Prop :=
  ∀ thread, state.thread = some thread → state.signals.status ≠ .running →
    thread.point.exited = true

variable {state : Monitor}

theorem Monitor.Exited.frame {target : Monitor} (exited : state.Exited)
    (sameStatus : target.signals.status = state.signals.status)
    (sameCourse : target.thread.map LoopThread.course =
      state.thread.map LoopThread.course) : target.Exited := by
  intro thread found down
  obtain ⟨origin, present, _, samePoint⟩ := course_origin sameCourse found
  rw [← samePoint]
  exact exited origin present (sameStatus ▸ down)

theorem Monitor.Exited.start {handlers : Handlers} {point : StartPoint}
    (exited : state.Exited) (sound : state.Sound)
    (stands : state.controller = .start handlers point) (succeeds : Bool) :
    (state.applyStart handlers succeeds point).Exited := by
  intro thread found down
  cases start_view sound stands succeeds with
  | passed controller moved =>
      rw [moved] at found down
      exact exited thread found down
  | threadless _ sameThread _ _ => cases sameThread.symm.trans found
  | created atCreation _ moved =>
      subst atCreation
      rw [moved] at down
      have building : state.footing.Building .running true true handlers :=
        sound.stage_at stands
      exact absurd building.status down

theorem Monitor.Exited.loop {thread : LoopThread} {action : LoopAction}
    (exited : state.Exited) (found : state.thread = some thread)
    (isEnabled : action.enabled state.signals thread = true) :
    (state.applyLoop action thread).Exited := by
  intro next moved down
  cases moved
  cases reports : action.reports with
  | true => exact reports_exited reports
  | false =>
      have sameStatus : (action.apply state.resources state.signals
          thread).status = state.signals.status := quiet_status reports
      have left := exited thread found (by
        rw [← sameStatus]
        exact down)
      obtain ⟨silent, unfinished⟩ := quiet_enabled reports isEnabled
      rcases LoopPoint.exited_cases left with reporting | finished
      · exact absurd (silent.symm.trans reporting) (by decide)
      · exact absurd finished unfinished

/-- The points of a restart which are left until the thread is created.  The
points of the error paths come before the next restart. -/
def StartPoint.toGo : StartPoint → Nat
  | .closeNetlink => 28
  | .closeWake => 27
  | .storeStopped => 26
  | .checkFailed => 21
  | .testStopped _ => 10
  | .storeStarting => 9
  | .openEventfd => 8
  | .openSocket => 7
  | .bindSocket => 6
  | .storeHandlers => 5
  | .storeDirty => 4
  | .wake => 3
  | .storeRunning => 2
  | .createThread => 1

def Controller.toGo : Controller → Nat
  | .idle _ => 25
  | .start _ point => point.toGo
  | .stop .unwind point => 29 + point.toGo
  | .stop _ point => 11 + point.toGo

end LibbpfControl.NicCheck

namespace LibbpfControl.BpfTool

open NicCheck

variable {state target : Supervised}

theorem exited_stop {caller : StopCaller} {point : StopPoint}
    (watched : state.Watched) (exited : state.monitor.Exited)
    (stands : state.monitor.controller = .stop caller point) :
    (state.monitor.applyStop caller point).Exited := by
  have calling := (watched.calling (by rw [stands]; rfl)).2
  rw [stands] at calling
  intro thread found _
  -- The call began with a monitor which was not running, so nothing is to be
  -- known about the status the step leaves behind.
  rcases stop_course state.monitor caller point with rfl | course
  · cases found
  · obtain ⟨origin, present, _, samePoint⟩ := course_origin course found
    rw [← samePoint]
    exact exited origin present
      (calling.2 (by simp [Supervised.watch, present]))

theorem exited_monitor {label : MonitorStep} {monitor : Monitor}
    (watched : state.Watched) (exited : state.monitor.Exited)
    (moves : state.monitor.Moves label monitor)
    (allowed : state.allows label = true) : monitor.Exited := by
  cases moves with
  | callStart idle => cases allowed
  | callStop idle => cases allowed
  | start stands =>
      exact exited.start (sound_reachable watched.reached) stands _
  | stop stands _ => exact exited_stop watched exited stands
  | loop found isEnabled => exact exited.loop found isEnabled
  | requestRefresh stands => exact exited.frame rfl rfl
  | storeDirty stands => exact exited.frame rfl rfl
  | wakeMonitor stands => exact exited.frame (Signals.wake_status _ _) rfl
  | refresh stands isEnabled => exact exited.frame (refresh_status _ _) rfl
  | deliver isOpen => exact exited.frame rfl rfl
  | overrun isOpen =>
      refine exited.frame rfl ?_
      simp only [Monitor.apply, Option.map_map]
      rfl
  | breakSocket isOpen => exact exited.frame rfl rfl

theorem exited_step {label : SupervisedStep} (watched : state.Watched)
    (exited : state.monitor.Exited)
    (stepped : supervisedMachine.step state label = some target) :
    target.monitor.Exited := by
  obtain ⟨isEnabled, rfl⟩ := Machine.enabled_of_guarded stepped
  cases label with
  | monitor label =>
      simp only [Supervised.enabled, Bool.and_eq_true] at isEnabled
      have moves := (monitor_next watched.reached isEnabled.2).2
      exact exited_monitor watched exited moves isEnabled.1
  | _ => exact exited

theorem exited_reachable (reached : supervisedMachine.Reachable state) :
    state.monitor.Exited :=
  reached.invariant_with (fun _ known => watched_reachable known)
    (fun _ initial _ _ down => absurd initial.running down)
    (fun _ _ _ watched exited stepped =>
      exited_step watched exited stepped)

/-- The monitor works: its status says so and its thread exists. -/
def Supervised.Recovered (state : Supervised) : Prop :=
  state.monitor.signals.status = .running ∧
    state.monitor.thread.isSome = true

/-- The steps of a restart which nothing hinders: the system calls of
`start_monitor` succeed, and the worker wakes up when its delay is over. -/
def Supervised.unhindered (state : Supervised) : SupervisedStep → Prop
  | .monitor (.start _ _ succeeds) => succeeds = true
  | .monitor (.stop _ _) => True
  | .monitor (.loop _) => True
  | .monitor _ => False
  | .append _ => False
  | .requestRestart _ => True
  | .collect now =>
      state.schedule.restartRequested = true ∧
        state.schedule.restartTime ≤ now
  | .callStart => True
  | .returnStart _ => True
  | .requestAgain _ => True

/-- What is left of the restart, over the whole cycle of the worker. -/
def Supervised.toGo (state : Supervised) : Nat :=
  match state.worker with
  | .failed => 24
  | .waiting => 23
  | .collected => 22
  | .restarting => state.monitor.controller.toGo

/-- What is left of the report of a failure. -/
def Supervised.reportToGo (state : Supervised) : Nat :=
  match state.monitor.thread.map LoopThread.point with
  | some (.notifying _) => 3
  | some (.calling _ _) => if state.handlerDone then 1 else 2
  | _ => 0

def Supervised.rank (state : Supervised) : Nat ×ₗ Nat :=
  toLex (state.toGo, state.reportToGo)

theorem rank_of_toGo (less : target.toGo < state.toGo) :
    target.rank < state.rank := by
  rw [Supervised.rank, Supervised.rank, Prod.Lex.toLex_lt_toLex]
  exact .inl less

theorem rank_of_report (same : target.toGo = state.toGo)
    (less : target.reportToGo < state.reportToGo) :
    target.rank < state.rank := by
  rw [Supervised.rank, Supervised.rank, Prod.Lex.toLex_lt_toLex]
  exact .inr ⟨same, less⟩

/-- A step of `start_monitor` whose system call succeeds. -/
theorem start_advances {handlers : Handlers} {point : StartPoint}
    (watched : state.Watched)
    (stands : state.monitor.controller = .start handlers point) :
    (state.withMonitor
        (state.monitor.applyStart handlers true point)).Recovered ∨
      (state.monitor.applyStart handlers true point).controller.toGo <
        point.toGo := by
  have calling := (watched.calling (by rw [stands]; rfl)).2
  rw [stands] at calling
  cases point with
  | checkFailed =>
      refine .inr ?_
      simp only [Monitor.applyStart, Monitor.goto]
      split
      · exact show 20 < 21 by decide
      · exact show 10 < 21 by decide
  | testStopped seen =>
      have stopped : state.monitor.signals.status = .stopped := calling.2
      refine .inr ?_
      simp only [Monitor.applyStart, Monitor.goto, stopped, if_true]
      exact show 9 < 10 by decide
  | createThread =>
      have building : state.monitor.footing.Building .running true true
          handlers := (sound_reachable watched.reached).stage_at stands
      exact .inl ⟨building.status, rfl⟩
  | closeNetlink => exact .inr (show 27 < 28 by decide)
  | closeWake => exact .inr (show 26 < 27 by decide)
  | storeStopped => exact .inr (show 25 < 26 by decide)
  | storeStarting => exact .inr (show 8 < 9 by decide)
  | openEventfd => exact .inr (show 7 < 8 by decide)
  | openSocket => exact .inr (show 6 < 7 by decide)
  | bindSocket => exact .inr (show 5 < 6 by decide)
  | storeHandlers => exact .inr (show 4 < 5 by decide)
  | storeDirty => exact .inr (show 3 < 4 by decide)
  | wake => exact .inr (show 2 < 3 by decide)
  | storeRunning => exact .inr (show 1 < 2 by decide)

/-- A step of `stop_monitor` goes on inside it or back to the restart. -/
theorem stop_advances {monitor : Monitor} {caller : StopCaller}
    {point : StopPoint} (sound : monitor.Sound)
    (stands : monitor.controller = .stop caller point)
    (byManager : caller = .restart managerHandlers ∨ caller = .unwind) :
    (monitor.applyStop caller point).controller.toGo <
      (Controller.stop caller point).toGo := by
  rcases stop_goesOn sound stands with returned | ⟨next, goesOn, less⟩
  · rw [returned.resumed]
    rcases byManager with rfl | rfl
    · exact show 10 < 11 + point.toGo by omega
    · exact show 25 < 29 + point.toGo by omega
  · rw [goesOn]
    rcases byManager with rfl | rfl
    · exact Nat.add_lt_add_left less _
    · exact Nat.add_lt_add_left less _

/-- A step of a thread which has left the loop. -/
theorem report_advances {thread : LoopThread} {action : LoopAction}
    (found : state.monitor.thread = some thread)
    (exited : thread.point.exited = true)
    (isEnabled : action.enabled state.monitor.signals thread = true)
    (allowed : state.allows (.loop action) = true) :
    (state.afterMonitor (.loop action)
      (state.monitor.applyLoop action thread)).reportToGo <
        state.reportToGo := by
  cases reports : action.reports with
  | false =>
      obtain ⟨silent, unfinished⟩ := quiet_enabled reports isEnabled
      rcases LoopPoint.exited_cases exited with reporting | finished
      · exact absurd (silent.symm.trans reporting) (by decide)
      · exact absurd finished unfinished
  | true =>
      cases action with
      | compareExchange error =>
          have stands : thread.point = .failing error :=
            of_decide_eq_true isEnabled
          rw [stands] at exited
          cases exited
      | copyFailureHandler error =>
          have stands : thread.point = .notifying error :=
            of_decide_eq_true isEnabled
          cases copied : state.monitor.resources.handlers.onFailure with
          | none =>
              simp [Supervised.reportToGo, Supervised.afterMonitor,
                Monitor.applyLoop, LoopAction.move, LoopThread.finish, found,
                stands, copied]
          | some handler =>
              simp only [Supervised.reportToGo, Supervised.afterMonitor,
                Monitor.applyLoop, LoopAction.move, found, Option.map_some,
                stands, copied]
              split
              · exact show 1 < 3 by decide
              · exact show 2 < 3 by decide
      | callFailureHandler handler error =>
          have stands : thread.point = .calling handler error :=
            of_decide_eq_true isEnabled
          have done : state.handlerDone = true := allowed
          simp [Supervised.reportToGo, Supervised.afterMonitor,
            Monitor.applyLoop, LoopAction.move, LoopThread.finish, found,
            stands, done]
      | _ => cases reports

theorem advances_monitor {label : MonitorStep} {monitor : Monitor}
    (watched : state.Watched) (exited : state.monitor.Exited)
    (down : ¬state.Recovered)
    (moves : state.monitor.Moves label monitor)
    (allowed : state.allows label = true)
    (permitted : state.unhindered (.monitor label)) :
    (state.afterMonitor label monitor).Recovered ∨
      (state.afterMonitor label monitor).rank < state.rank := by
  cases moves with
  | callStart idle => cases allowed
  | callStop idle => cases allowed
  | @start handlers point succeeds stands =>
      obtain rfl : succeeds = true := permitted
      have restarting := (watched.calling (by rw [stands]; rfl)).1
      rcases start_advances watched stands with recovered | less
      · exact .inl recovered
      · refine .inr (rank_of_toGo ?_)
        simp only [Supervised.toGo, Supervised.afterMonitor, restarting,
          stands]
        exact less
  | stop stands _ =>
      have restarting := (watched.calling (by rw [stands]; rfl)).1
      have byManager := watched.byManager
      rw [stands] at byManager
      refine .inr (rank_of_toGo ?_)
      simp only [Supervised.toGo, Supervised.afterMonitor, restarting, stands]
      exact stop_advances (sound_reachable watched.reached) stands byManager
  | @loop action thread found isEnabled =>
      have left := exited thread found (by
        intro running
        exact down ⟨running, by simp [found]⟩)
      exact .inr (rank_of_report rfl
        (report_advances found left isEnabled allowed))
  | _ => exact absurd permitted id

theorem advances {label : SupervisedStep}
    (reached : supervisedMachine.Reachable state)
    (down : ¬state.Recovered) (permitted : state.unhindered label)
    (stepped : supervisedMachine.step state label = some target) :
    target.Recovered ∨ target.rank < state.rank := by
  have watched := watched_reachable reached
  obtain ⟨isEnabled, rfl⟩ := Machine.enabled_of_guarded stepped
  cases label with
  | monitor label =>
      simp only [Supervised.enabled, Bool.and_eq_true] at isEnabled
      have moves := (monitor_next watched.reached isEnabled.2).2
      exact advances_monitor watched (exited_reachable reached) down moves
        isEnabled.1 permitted
  | append request => exact absurd permitted id
  | requestRestart now =>
      simp only [Supervised.enabled, Supervised.callsHandler,
        Bool.and_eq_true, Option.any_eq_true, Bool.not_eq_true'] at isEnabled
      obtain ⟨⟨thread, found, calls⟩, undone⟩ := isEnabled
      refine .inr (rank_of_report rfl ?_)
      cases stands : thread.point with
      | calling handler error =>
          simp [Supervised.reportToGo, Supervised.apply, found, stands,
            undone]
      | _ =>
          rw [stands] at calls
          cases calls
  | collect now =>
      have waiting : state.worker = .waiting := of_decide_eq_true isEnabled
      have taken : (state.schedule.collect now).restartLoader = true := by
        simp [Schedule.collect, permitted.1, permitted.2]
      refine .inr (rank_of_toGo ?_)
      simp [Supervised.toGo, Supervised.apply, waiting, taken]
  | callStart =>
      have collected : state.worker = .collected := of_decide_eq_true isEnabled
      refine .inr (rank_of_toGo ?_)
      simp only [Supervised.toGo, Supervised.apply, collected]
      exact show 21 < 22 by decide
  | returnStart success =>
      simp only [Supervised.enabled, Bool.and_eq_true,
        decide_eq_true_eq] at isEnabled
      refine .inr (rank_of_toGo ?_)
      cases success with
      | true =>
          simp [Supervised.toGo, Supervised.apply, isEnabled,
            Controller.toGo]
      | false =>
          simp [Supervised.toGo, Supervised.apply, isEnabled,
            Controller.toGo]
  | requestAgain now =>
      have failed : state.worker = .failed := of_decide_eq_true isEnabled
      refine .inr (rank_of_toGo ?_)
      simp [Supervised.toGo, Supervised.apply, failed]

/-- Some unhindered step is possible. -/
def Supervised.Proceeds (state : Supervised) : Prop :=
  ∃ label target, state.unhindered label ∧
    supervisedMachine.step state label = some target

theorem Supervised.Proceeds.by_step (label : SupervisedStep)
    (permitted : state.unhindered label)
    (isEnabled : state.enabled label = true) : state.Proceeds :=
  ⟨label, state.apply label, permitted, by
    simp [supervisedMachine, Machine.guarded, isEnabled]⟩

/-- The failure handler makes its request and then returns. -/
theorem report_proceeds {thread : LoopThread}
    (found : state.monitor.thread = some thread)
    (reporting : thread.point.reporting = true) : state.Proceeds := by
  cases stands : thread.point with
  | notifying error =>
      apply Supervised.Proceeds.by_step
        (.monitor (.loop (.copyFailureHandler error))) trivial
      simp [Supervised.enabled, Supervised.allows, Monitor.enabled,
        LoopAction.enabled, found, stands]
  | calling handler error =>
      cases done : state.handlerDone with
      | false =>
          apply Supervised.Proceeds.by_step (.requestRestart 0) trivial
          simp [Supervised.enabled, Supervised.callsHandler, found, stands,
            done]
      | true =>
          apply Supervised.Proceeds.by_step
            (.monitor (.loop (.callFailureHandler handler error))) trivial
          simp [Supervised.enabled, Supervised.allows, Monitor.enabled,
            LoopAction.enabled, found, stands, done]
  | _ =>
      rw [stands] at reporting
      cases reporting

/-- `join` does not wait for a thread which waits for the restart. -/
theorem stop_proceeds {caller : StopCaller} {point : StopPoint}
    (watched : state.Watched) (exited : state.monitor.Exited)
    (stands : state.monitor.controller = .stop caller point) :
    state.Proceeds := by
  by_cases joins : point = .join
  · subst joins
    have stopping : state.monitor.signals.status = .stopping :=
      (sound_reachable watched.reached).stage_at stands
    have threaded := joins_reachable watched.reached caller .join stands
    simp only [StopPoint.Threaded, Option.any_eq_true] at threaded
    obtain ⟨thread, found, _⟩ := threaded
    have left := exited thread found (by
      rw [stopping]
      decide)
    rcases LoopPoint.exited_cases left with reporting | finished
    · exact report_proceeds found reporting
    · apply Supervised.Proceeds.by_step
        (.monitor (.stop caller .join)) trivial
      simp [Supervised.enabled, Supervised.allows, Monitor.enabled, stands,
        found, finished]
  · apply Supervised.Proceeds.by_step (.monitor (.stop caller point)) trivial
    simp [Supervised.enabled, Supervised.allows, Monitor.enabled, stands,
      joins]

theorem restart_proceeds (watched : state.Watched)
    (exited : state.monitor.Exited)
    (restarting : state.worker = .restarting) : state.Proceeds := by
  have calling := watched.stage
  rw [restarting] at calling
  cases stands : state.monitor.controller with
  | idle last =>
      rw [stands] at calling
      rcases last with _ | (success | _)
      · exact absurd calling id
      · apply Supervised.Proceeds.by_step (.returnStart success) trivial
        simp [Supervised.enabled, restarting, stands]
      · exact absurd calling id
  | start handlers point =>
      apply Supervised.Proceeds.by_step
        (.monitor (.start handlers point true)) rfl
      simp [Supervised.enabled, Supervised.allows, Monitor.enabled, stands]
  | stop caller point => exact stop_proceeds watched exited stands

/-- Between two restarts the failure is reported or its request is there. -/
theorem waiting_proceeds (watched : state.Watched)
    (waiting : state.worker = .waiting) (down : ¬state.Recovered) :
    state.Proceeds := by
  have stage := watched.stage
  rw [waiting] at stage
  obtain ⟨idle, watching⟩ := stage
  cases watching with
  | healthy running _ =>
      obtain ⟨last, stands⟩ := Controller.eq_idle idle
      have settled : state.monitor.footing.Settled :=
        (sound_reachable watched.reached).stage_at stands
      have live := settled.live (by
        rw [show state.monitor.footing.status = .running from running]
        decide)
      exact absurd ⟨running, live.threaded⟩ down
  | reporting _ _ pending =>
      have reports : state.reporting = true := pending
      simp only [Supervised.reporting, Bool.and_eq_true,
        Option.any_eq_true] at reports
      obtain ⟨⟨thread, found, reporting⟩, _⟩ := reports
      exact report_proceeds found reporting
  | requested _ isRequested _ =>
      apply Supervised.Proceeds.by_step (.collect state.schedule.restartTime)
        ⟨isRequested, Int.le_refl _⟩
      simp [Supervised.enabled, waiting]

theorem proceeds (reached : supervisedMachine.Reachable state)
    (down : ¬state.Recovered) : state.Proceeds := by
  have watched := watched_reachable reached
  cases stands : state.worker with
  | waiting => exact waiting_proceeds watched stands down
  | restarting =>
      exact restart_proceeds watched (exited_reachable reached) stands
  | collected =>
      apply Supervised.Proceeds.by_step .callStart trivial
      simp [Supervised.enabled, stands]
  | failed =>
      apply Supervised.Proceeds.by_step (.requestAgain 0) trivial
      simp [Supervised.enabled, stands]

/-- However the monitor came down, and at whatever point of a report, of a
restart or of the unwinding of one: every run in which the system calls
succeed from now on comes to a running monitor. -/
theorem monitor_recovers (reached : supervisedMachine.Reachable state) :
    supervisedMachine.Inevitable Supervised.unhindered Supervised.Recovered
      state := by
  refine Machine.Inevitable.of_steps supervisedMachine.Reachable
    Supervised.rank ?_ ?_ reached
  · intro state reached down
    exact proceeds reached down
  · intro state label target reached down permitted stepped
    rcases advances reached down permitted stepped with recovered | less
    · exact .inl recovered
    · exact .inr ⟨.next reached trivial stepped, less⟩

/-- A restart has failed and is requested again. -/
theorem monitor_recovers_again :
    restartAgain.monitor.signals.status = .stopped ∧
      supervisedMachine.Inevitable Supervised.unhindered
        Supervised.Recovered restartAgain :=
  ⟨by decide, monitor_recovers (Machine.reachable_finish
    supervisedStart_initial failedRestart_enabled)⟩

end LibbpfControl.BpfTool
