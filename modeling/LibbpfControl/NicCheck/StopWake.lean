import LibbpfControl.NicCheck.RefreshTriggers

/-!
# A stop request wakes the loop

`request_stop` sets the stop flag and then runs the callback which writes the
eventfd.  The eventfd is shared with `request_refresh`, so `drain_wake` may
consume the write of the stop.  This is harmless: the loop enters `poll` only
after it has found the flag unset, so a loop which polls with the flag set
entered before, and has not read the eventfd since.
-/

namespace LibbpfControl.NicCheck

/-- A stop request has set the flag and has yet to run the callback. -/
def Monitor.StopCallbackPending (state : Monitor) (thread : LoopThread) :
    Prop :=
  (∃ caller, state.controller = .stop caller .runCallback) ∧
    thread.registered = true

/-- Inside the thread function a callback is registered, unless the stop was
requested first. -/
def LoopThread.Registers (thread : LoopThread) : Prop :=
  thread.stop = false → thread.point ≠ .entering →
    thread.point ≠ .finished → thread.registered = true

structure Monitor.Wakes (state : Monitor) : Prop where
  registers : ∀ thread, state.thread = some thread → thread.Registers
  woken : ∀ thread, state.thread = some thread → thread.stop = true →
    ∀ timeoutMs, thread.point = .polling timeoutMs →
      0 < state.signals.counter ∨ state.StopCallbackPending thread

section LoopStep

variable {debounce : Int} {resources : Resources} {signals : Signals}
  {thread : LoopThread} {action : LoopAction}

theorem move_stop (debounce : Int) (resources : Resources)
    (signals : Signals) (thread : LoopThread) (action : LoopAction) :
    (action.move debounce resources signals thread).stop = thread.stop := by
  cases action with
  | finishReceiving changed now =>
      cases changed with
      | false => rfl
      | true => rfl
  | testDeadline now =>
      simp only [LoopAction.move]
      split
      · rfl
      · rfl
  | compareExchange error =>
      simp only [LoopAction.move]
      split
      · rfl
      · rfl
  | copyFailureHandler error =>
      simp only [LoopAction.move]
      split
      · rfl
      · rfl
  | _ => rfl

theorem enterPoll_of_polling {timeoutMs : Int32}
    (polling : (action.move debounce resources signals thread).point =
      .polling timeoutMs) : ∃ now, action = .enterPoll now := by
  cases isPlain : action.plain with
  | true =>
      have plain := plain_move debounce resources signals thread isPlain
      rw [polling] at plain
      cases plain
  | false =>
      cases action with
      | enterPoll now => exact ⟨now, rfl⟩
      | refresh point action =>
          simp only [LoopAction.move] at polling
          split at polling
          · cases polling
          · cases polling
      | _ => cases isPlain

/-- The loop polls only after it has found the flag unset. -/
theorem not_polling_of_stop (stop : thread.stop = true)
    (isEnabled : action.enabled signals thread = true)
    (timeoutMs : Int32) :
    (action.move debounce resources signals thread).point ≠
      .polling timeoutMs := by
  intro polling
  obtain ⟨now, rfl⟩ := enterPoll_of_polling polling
  simp [LoopAction.enabled, stop] at isEnabled

theorem registers_loop (registers : thread.Registers)
    (isEnabled : action.enabled signals thread = true) :
    (action.move debounce resources signals thread).Registers := by
  intro running entered unfinished
  rw [move_stop] at running
  cases action with
  | registerCallback => simp [LoopAction.move, running]
  | exit => exact absurd rfl unfinished
  | callFailureHandler handler error => exact absurd rfl unfinished
  | compareExchange error =>
      have stands : thread.point = .failing error :=
        of_decide_eq_true isEnabled
      have known := registers running (by simp [stands]) (by simp [stands])
      simp only [LoopAction.move] at unfinished ⊢
      split at unfinished
      · rename_i isRunning
        rw [if_pos isRunning]
        exact known
      · exact absurd rfl unfinished
  | copyFailureHandler error =>
      have stands : thread.point = .notifying error :=
        of_decide_eq_true isEnabled
      have known := registers running (by simp [stands]) (by simp [stands])
      simp only [LoopAction.move] at unfinished ⊢
      split at unfinished
      · exact known
      · exact absurd rfl unfinished
  | finishReceiving changed now =>
      have stands : thread.point = .received changed :=
        of_decide_eq_true isEnabled
      have known := registers running (by simp [stands]) (by simp [stands])
      cases changed with
      | false => exact known
      | true => exact known
  | testDeadline now =>
      have stands : thread.point = .testingDeadline :=
        of_decide_eq_true isEnabled
      have known := registers running (by simp [stands]) (by simp [stands])
      simp only [LoopAction.move]
      split
      · exact known
      · exact known
  | _ =>
      simp only [LoopAction.enabled, Bool.and_eq_true,
        decide_eq_true_eq] at isEnabled
      exact registers running (by simp [isEnabled]) (by simp [isEnabled])

end LoopStep

variable {state target : Monitor} {label : MonitorStep}

/-- Steps which leave the loop alone and read nothing from the eventfd. -/
theorem Monitor.Wakes.frame (wakes : state.Wakes)
    (sameController : target.controller = state.controller)
    (counter : 0 < state.signals.counter → 0 < target.signals.counter)
    (threads : ∀ thread, target.thread = some thread →
      ∃ origin, state.thread = some origin ∧ origin.point = thread.point ∧
        origin.stop = thread.stop ∧
        origin.registered = thread.registered) :
    target.Wakes where
  registers := by
    intro thread found
    obtain ⟨origin, present, samePoint, sameStop, sameRegistered⟩ :=
      threads thread found
    have known := wakes.registers origin present
    unfold LoopThread.Registers at known
    rw [samePoint, sameStop, sameRegistered] at known
    exact known
  woken := by
    intro thread found stop timeoutMs polling
    obtain ⟨origin, present, samePoint, sameStop, sameRegistered⟩ :=
      threads thread found
    rcases wakes.woken origin present (sameStop.trans stop) timeoutMs
        (samePoint.trans polling) with positive | ⟨running, registered⟩
    · exact .inl (counter positive)
    · rw [← sameController] at running
      exact .inr ⟨running, sameRegistered.symm.trans registered⟩

/-- A step of the controlling thread which is not part of a stop request. -/
theorem Monitor.Wakes.passing (wakes : state.Wakes)
    (elsewhere : ∀ caller, state.controller ≠ .stop caller .runCallback)
    (sameThread : target.thread = state.thread)
    (counter : target.signals.counter = state.signals.counter) :
    target.Wakes where
  registers := by
    rw [sameThread]
    exact wakes.registers
  woken := by
    intro thread found stop timeoutMs polling
    rw [sameThread] at found
    rcases wakes.woken thread found stop timeoutMs polling with
      positive | ⟨⟨caller, running⟩, _⟩
    · exact .inl (counter ▸ positive)
    · exact absurd running (elsewhere caller)

theorem Monitor.wakes_of_unthreaded (unthreaded : state.thread = none) :
    state.Wakes where
  registers := by simp [unthreaded]
  woken := by simp [unthreaded]

theorem wakes_start {handlers : Handlers} {point : StartPoint}
    (sound : state.Sound) (wakes : state.Wakes)
    (stands : state.controller = .start handlers point) (succeeds : Bool) :
    (state.applyStart handlers succeeds point).Wakes := by
  cases start_view sound stands succeeds with
  | passed controller moved =>
      rw [moved]
      exact wakes.passing (by simp [stands]) rfl rfl
  | threadless _ sameThread _ _ =>
      exact Monitor.wakes_of_unthreaded sameThread
  | created _ _ moved =>
      rw [moved]
      constructor
      · intro thread created _ entered
        cases created
        exact absurd rfl entered
      · intro thread created stop
        cases created
        cases stop

/-- Whoever polls when the flag is set has a callback, which then writes. -/
theorem wakes_requestStop {caller : StopCaller} (wakes : state.Wakes)
    (stands : state.controller = .stop caller .requestStop) :
    (state.applyStop caller .requestStop).Wakes where
  registers := by
    intro thread found running
    obtain ⟨origin, present, rfl⟩ := Option.map_eq_some_iff.mp found
    cases running
  woken := by
    intro thread found _ timeoutMs polling
    obtain ⟨origin, present, rfl⟩ := Option.map_eq_some_iff.mp found
    have isPolling : origin.point = .polling timeoutMs := polling
    cases requested : origin.stop with
    | false =>
        have registered := wakes.registers origin present requested
          (by simp [isPolling]) (by simp [isPolling])
        exact .inr ⟨⟨caller, rfl⟩, registered⟩
    | true =>
        rcases wakes.woken origin present requested timeoutMs isPolling with
          positive | ⟨⟨other, running⟩, _⟩
        · exact .inl positive
        · cases stands.symm.trans running

theorem wakes_runCallback {caller : StopCaller} (tracked : state.Tracked)
    (wakes : state.Wakes) :
    (state.applyStop caller .runCallback).Wakes where
  registers := wakes.registers
  woken := by
    intro thread found stop timeoutMs polling
    left
    have present : state.thread = some thread := found
    have isOpen := tracked.wakeable (by simp [present])
    rcases wakes.woken thread present stop timeoutMs polling with
      positive | ⟨_, registered⟩
    · simp only [Monitor.applyStop]
      split
      · exact wake_readable _ isOpen
      · exact positive
    · simp only [Monitor.applyStop, present, Option.any_some, registered,
        if_true]
      exact wake_readable _ isOpen

theorem wakes_stop {caller : StopCaller} {point : StopPoint}
    (sound : state.Sound) (tracked : state.Tracked) (wakes : state.Wakes)
    (stands : state.controller = .stop caller point) :
    (state.applyStop caller point).Wakes := by
  have stage : state.footing.StopStage caller point := sound.stage_at stands
  cases point with
  | check => exact wakes.passing (by simp [stands]) rfl rfl
  | storeStopping => exact wakes.passing (by simp [stands]) rfl rfl
  | requestStop => exact wakes_requestStop wakes stands
  | runCallback => exact wakes_runCallback tracked wakes
  | join => exact Monitor.wakes_of_unthreaded rfl
  | _ =>
      exact Monitor.wakes_of_unthreaded
        (Monitor.thread_eq_none stage.unthreaded)

theorem wakes_step (sound : state.Sound) (tracked : state.Tracked)
    (wakes : state.Wakes) (moves : state.Moves label target) :
    target.Wakes := by
  have kept : ∀ thread, state.thread = some thread →
      ∃ origin, state.thread = some origin ∧ origin.point = thread.point ∧
        origin.stop = thread.stop ∧
        origin.registered = thread.registered :=
    fun thread found => ⟨thread, found, rfl, rfl, rfl⟩
  cases moves with
  | callStart idle => exact wakes.passing (by simp [idle]) rfl rfl
  | callStop idle => exact wakes.passing (by simp [idle]) rfl rfl
  | start stands => exact wakes_start sound wakes stands _
  | stop stands joinable => exact wakes_stop sound tracked wakes stands
  | loop found isEnabled =>
      constructor
      · intro next same
        cases same
        exact registers_loop (wakes.registers _ found) isEnabled
      · intro next same stop timeoutMs polling
        cases same
        rw [move_stop] at stop
        exact absurd polling (not_polling_of_stop stop isEnabled timeoutMs)
  | requestRefresh stands => exact wakes.frame rfl id kept
  | storeDirty stands => exact wakes.frame rfl id kept
  | wakeMonitor stands => exact wakes.frame rfl (wake_counter _ _) kept
  | refresh stands isEnabled =>
      refine wakes.frame rfl (fun positive => ?_) kept
      have same := refresh_counter ‹RefreshAction› state.signals
      exact same ▸ positive
  | deliver isOpen => exact wakes.frame rfl id kept
  | overrun isOpen =>
      refine wakes.frame rfl id ?_
      intro thread found
      obtain ⟨origin, present, rfl⟩ := Option.map_eq_some_iff.mp found
      exact ⟨origin, present, rfl, rfl, rfl⟩
  | breakSocket isOpen => exact wakes.frame rfl id kept

theorem wakes_reachable (reached : monitorMachine.Reachable state) :
    state.Wakes := by
  apply reached.invariant_with (fun state before =>
    And.intro (sound_reachable before) (tracked_reachable before))
  · intro start initial
    obtain ⟨debounce, rfl⟩ := initial
    exact Monitor.wakes_of_unthreaded rfl
  · intro before step after known wakes stepped
    exact wakes_step known.1 known.2 wakes (Monitor.moves_of_step stepped)

/-- No reachable state has a requested stop, a finished callback and a loop
which polls with nothing to read from the eventfd, with or without a
timeout. -/
theorem stop_wakes_poll {thread : LoopThread}
    (reached : monitorMachine.Reachable state)
    (found : state.thread = some thread) (stop : thread.stop = true)
    (ran : ¬state.StopCallbackPending thread) {timeoutMs : Int32}
    (polling : thread.point = .polling timeoutMs) :
    0 < state.signals.counter := by
  have woken :=
    (wakes_reachable reached).woken thread found stop timeoutMs polling
  exact woken.resolve_right ran

/-- The stop is requested while the loop polls; the loop has drained the
eventfd before. -/
def stopWhilePolling : List MonitorStep :=
  firstStart ++
    List.map MonitorStep.loop
      [.registerCallback, .enterPoll 0,
        .pollReturns (-1) { noEvents with wake := true }, .testWake,
        .readWake, .testRunning, .readWake, .exchangeDirty, .scheduleDirty 0,
        .testNetlink, .testDeadline 150000000, .refresh .locking .lock,
        .refresh .reading .abort, .enterPoll 0] ++
    [MonitorStep.callStop] ++
    List.map (MonitorStep.stop .user)
      [.check, .storeStopping, .requestStop, .runCallback]

theorem stopWhilePolling_enabled :
    (monitorMachine.runWhere (fun _ _ => True) (.constructed 150)
      stopWhilePolling).isSome = true := by
  decide

def stoppingMonitor : Monitor :=
  monitorMachine.finish (.constructed 150) stopWhilePolling
    stopWhilePolling_enabled

theorem stop_wakes_poll_drained :
    ∃ thread, stoppingMonitor.thread = some thread ∧
      thread.point = .polling (-1) ∧ thread.stop = true ∧
      0 < stoppingMonitor.signals.counter := by
  refine ⟨stoppingMonitor.thread.get (by decide), by simp, by decide,
    by decide, ?_⟩
  have pending : ¬stoppingMonitor.StopCallbackPending
      (stoppingMonitor.thread.get (by decide)) := by
    rintro ⟨⟨caller, running⟩, _⟩
    cases running
  exact stop_wakes_poll (Machine.reachable_finish (constructed_initial 150)
    stopWhilePolling_enabled) (by simp) (by decide) pending
    (by decide : _ = LoopPoint.polling (-1))

end LibbpfControl.NicCheck
