import LibbpfControl.NicCheck.RefreshTriggers

/-!
# Change callbacks

Publications are serialised by `refresh_mutex_`, but a refresh notifies after
it has released the mutex, and it calls a copy of the handler.  Refreshes of
the loop follow each other, so what the loop delivers is in the order of
publication, and the loop is joined before `stop_monitor` returns.  A caller
of `request_refresh` which found no running monitor refreshes on its own
thread and is bound by neither: when a monitor has been started before it
notifies, it delivers an old snapshot after a newer one, or after the stop.
The results hold for runs in which no such caller finds the monitor running
when it is about to notify.
-/

namespace LibbpfControl.NicCheck

/-- The snapshot which a refresh has published and not yet delivered. -/
def RefreshPoint.snapshot : RefreshPoint → Option Nat
  | .notifying snapshot => some snapshot
  | .calling _ snapshot => some snapshot
  | _ => none

structure MonitorLog.InOrder (log : MonitorLog) : Prop where
  /-- The latest delivery stands first. -/
  decreasing : log.delivered.Pairwise fun later earlier => earlier.2 < later.2
  past : ∀ delivery ∈ log.delivered, delivery.2 < log.published

/-- This snapshot may be delivered next. -/
structure MonitorLog.Due (log : MonitorLog) (snapshot : Nat) : Prop where
  published : snapshot < log.published
  newer : ∀ delivery ∈ log.delivered, delivery.2 < snapshot

/-- Nothing is delivered from one log to the next. -/
structure Undelivered (log later : MonitorLog) : Prop where
  delivered : later.delivered = log.delivered
  published : log.published ≤ later.published

variable {log later : MonitorLog}

theorem Undelivered.rfl : Undelivered log log :=
  ⟨Eq.refl _, Nat.le_refl _⟩

theorem Undelivered.inOrder (quiet : Undelivered log later)
    (inOrder : log.InOrder) : later.InOrder := by
  constructor
  · rw [quiet.delivered]
    exact inOrder.decreasing
  · rw [quiet.delivered]
    intro delivery member
    exact Nat.lt_of_lt_of_le (inOrder.past delivery member) quiet.published

theorem Undelivered.due (quiet : Undelivered log later) {snapshot : Nat}
    (due : log.Due snapshot) : later.Due snapshot := by
  constructor
  · exact Nat.lt_of_lt_of_le due.published quiet.published
  · rw [quiet.delivered]
    exact due.newer

/-- A snapshot which is due is delivered. -/
theorem MonitorLog.Due.deliver {snapshot : Nat} (due : log.Due snapshot)
    (inOrder : log.InOrder) (handler : Nat) :
    { log with
      delivered := (handler, snapshot) :: log.delivered }.InOrder := by
  constructor
  · exact List.pairwise_cons.mpr ⟨due.newer, inOrder.decreasing⟩
  · intro delivery member
    rcases List.mem_cons.mp member with latest | earlier
    · rw [latest]
      exact due.published
    · exact inOrder.past delivery earlier

section Refresh

variable {resources : Resources} {signals : Signals} {action : RefreshAction}

theorem refresh_undelivered
    (quiet : ∀ handler snapshot, action ≠ .call handler snapshot) :
    Undelivered signals.log (action.apply signals).log := by
  cases action with
  | call handler snapshot => exact absurd rfl (quiet handler snapshot)
  | publish => exact ⟨rfl, Nat.le_succ _⟩
  | _ => exact .rfl

/-- A handler is called only after it was copied from a running monitor. -/
theorem copyHandler_of_calling {handler snapshot : Nat}
    (next : action.next resources signals =
      some (.calling handler snapshot)) :
    action = .copyHandler snapshot ∧ signals.status = .running ∧
      resources.handlers.onChange = some handler := by
  cases action with
  | copyHandler copied =>
      simp only [RefreshAction.next] at next
      split at next
      · rename_i running
        obtain ⟨found, installed, same⟩ := Option.map_eq_some_iff.mp next
        cases same
        exact ⟨rfl, running, installed⟩
      · cases next
  | _ => cases next

theorem next_snapshot {point : RefreshPoint} {snapshot : Nat}
    (next : action.next resources signals = some point)
    (carried : point.snapshot = some snapshot) :
    action = .publish ∧ snapshot = signals.log.published ∨
      action = .copyHandler snapshot := by
  cases action with
  | publish =>
      cases next
      cases carried
      exact .inl ⟨rfl, rfl⟩
  | copyHandler copied =>
      simp only [RefreshAction.next] at next
      split at next
      · obtain ⟨found, _, same⟩ := Option.map_eq_some_iff.mp next
        cases same
        cases carried
        exact .inr rfl
      · cases next
  | lock =>
      cases next
      cases carried
  | abort => cases next
  | call handler delivered => cases next

end Refresh

section LoopStep

variable {debounce : Int} {resources : Resources} {signals : Signals}
  {thread : LoopThread} {action : LoopAction}

theorem loop_undelivered
    (quiet : ∀ point handler snapshot,
      action ≠ .refresh point (.call handler snapshot)) :
    Undelivered signals.log (action.apply resources signals thread).log := by
  cases action with
  | refresh point action =>
      apply refresh_undelivered
      intro handler snapshot same
      subst same
      exact quiet point handler snapshot rfl
  | registerCallback =>
      simp only [LoopAction.apply]
      split
      · rw [Signals.wake_log]
        exact .rfl
      · exact .rfl
  | receive changed => exact ⟨rfl, Nat.le_refl _⟩
  | testDeadline now =>
      simp only [LoopAction.apply]
      split
      · exact ⟨rfl, Nat.le_refl _⟩
      · exact .rfl
  | compareExchange error =>
      simp only [LoopAction.apply]
      split
      · exact .rfl
      · exact .rfl
  | _ => exact .rfl

/-- Only a refresh gets hold of a snapshot. -/
theorem refresh_of_carried {next : RefreshPoint} {snapshot : Nat}
    (refreshing : (action.move debounce resources signals thread).point =
      .refreshing next)
    (carried : next.snapshot = some snapshot) :
    ∃ point inner, action = .refresh point inner ∧
      inner.next resources signals = some next := by
  cases isPlain : action.plain with
  | true =>
      have plain := plain_move debounce resources signals thread isPlain
      rw [refreshing] at plain
      cases next with
      | notifying snapshot => cases plain
      | calling handler snapshot => cases plain
      | _ => cases carried
  | false =>
      cases action with
      | refresh point inner =>
          refine ⟨point, inner, rfl, ?_⟩
          simp only [LoopAction.move] at refreshing
          split at refreshing
          · rename_i found reached
            cases refreshing
            exact reached
          · cases refreshing
      | enterPoll now => cases refreshing
      | _ => cases isPlain

/-- What the loop has to deliver is newer than all it has delivered. -/
theorem due_loop (inOrder : signals.log.InOrder)
    (due : ∀ point snapshot, thread.point = .refreshing point →
      point.snapshot = some snapshot → signals.log.Due snapshot)
    (isEnabled : action.enabled signals thread = true)
    {next : RefreshPoint} {snapshot : Nat}
    (refreshing : (action.move debounce resources signals thread).point =
      .refreshing next)
    (carried : next.snapshot = some snapshot) :
    (action.apply resources signals thread).log.Due snapshot := by
  obtain ⟨point, inner, rfl, reached⟩ :=
    refresh_of_carried refreshing carried
  rcases next_snapshot reached carried with ⟨rfl, rfl⟩ | rfl
  · exact ⟨Nat.lt_succ_self _, inOrder.past⟩
  · simp only [LoopAction.enabled, Bool.and_eq_true,
      decide_eq_true_eq] at isEnabled
    have notifying : point = .notifying snapshot :=
      of_decide_eq_true isEnabled.2
    exact due point snapshot isEnabled.1 (by rw [notifying]; rfl)

theorem inOrder_loop (inOrder : signals.log.InOrder)
    (due : ∀ point snapshot, thread.point = .refreshing point →
      point.snapshot = some snapshot → signals.log.Due snapshot)
    (isEnabled : action.enabled signals thread = true) :
    (action.apply resources signals thread).log.InOrder := by
  by_cases calls : ∃ point handler snapshot,
      action = .refresh point (.call handler snapshot)
  · obtain ⟨point, handler, snapshot, rfl⟩ := calls
    simp only [LoopAction.enabled, Bool.and_eq_true,
      decide_eq_true_eq] at isEnabled
    have calling : point = .calling handler snapshot :=
      of_decide_eq_true isEnabled.2
    have isDue := due point snapshot isEnabled.1 (by rw [calling]; rfl)
    exact isDue.deliver inOrder handler
  · refine (loop_undelivered ?_).inOrder inOrder
    intro point handler snapshot same
    exact calls ⟨point, handler, snapshot, same⟩

end LoopStep

/-- A caller of `request_refresh` which refreshes on its own thread does not
find the monitor running when it is about to copy the handler. -/
def Monitor.notifiesApart (state : Monitor) : MonitorStep → Bool
  | .refresh _ _ (.copyHandler _) => state.signals.status != .running
  | _ => true

structure Monitor.Delivers (state : Monitor) : Prop where
  inOrder : state.signals.log.InOrder
  due : ∀ thread, state.thread = some thread →
    ∀ point snapshot, thread.point = .refreshing point →
      point.snapshot = some snapshot → state.signals.log.Due snapshot
  handler : ∀ thread, state.thread = some thread →
    ∀ handler snapshot, thread.point = .refreshing (.calling handler snapshot) →
      state.resources.handlers.onChange = some handler
  callers : ∀ caller handler snapshot,
    state.callers caller ≠ .refreshing (.calling handler snapshot)

variable {state target : Monitor} {label : MonitorStep}

/-- Steps which deliver nothing and leave the loop where it is. -/
theorem Monitor.Delivers.frame (delivers : state.Delivers)
    (quiet : Undelivered state.signals.log target.signals.log)
    (threads : ∀ thread, target.thread = some thread →
      ∃ origin, state.thread = some origin ∧ origin.point = thread.point)
    (handlers : target.resources.handlers = state.resources.handlers)
    (callers : ∀ caller handler snapshot,
      target.callers caller ≠ .refreshing (.calling handler snapshot)) :
    target.Delivers where
  inOrder := quiet.inOrder delivers.inOrder
  due := by
    intro thread found point snapshot refreshing carried
    obtain ⟨origin, present, same⟩ := threads thread found
    exact quiet.due (delivers.due origin present point snapshot
      (same.trans refreshing) carried)
  handler := by
    intro thread found handler snapshot calling
    obtain ⟨origin, present, same⟩ := threads thread found
    rw [handlers]
    exact delivers.handler origin present handler snapshot
      (same.trans calling)
  callers := callers

/-- Without a thread, or with one which has just been created. -/
theorem Monitor.Delivers.renew (delivers : state.Delivers)
    (quiet : Undelivered state.signals.log target.signals.log)
    (threads : ∀ thread, target.thread = some thread →
      thread.point = .entering)
    (callers : target.callers = state.callers) : target.Delivers where
  inOrder := quiet.inOrder delivers.inOrder
  due := by
    intro thread found point snapshot refreshing
    cases (threads thread found).symm.trans refreshing
  handler := by
    intro thread found handler snapshot calling
    cases (threads thread found).symm.trans calling
  callers := by
    rw [callers]
    exact delivers.callers

theorem delivers_start {handlers : Handlers} {point : StartPoint}
    (sound : state.Sound) (delivers : state.Delivers)
    (stands : state.controller = .start handlers point) (succeeds : Bool) :
    (state.applyStart handlers succeeds point).Delivers := by
  cases start_view sound stands succeeds with
  | passed controller moved =>
      rw [moved]
      refine delivers.frame .rfl ?_ rfl delivers.callers
      exact fun thread found => ⟨thread, found, rfl⟩
  | threadless _ sameThread sameCallers sameLog =>
      refine delivers.renew ?_ ?_ sameCallers
      · rw [sameLog]
        exact .rfl
      · simp [sameThread]
  | created _ _ moved =>
      rw [moved]
      refine delivers.renew .rfl ?_ rfl
      intro thread created
      cases created
      rfl

theorem delivers_stop {caller : StopCaller} {point : StopPoint}
    (sound : state.Sound) (delivers : state.Delivers)
    (stands : state.controller = .stop caller point) :
    (state.applyStop caller point).Delivers := by
  have stage : state.footing.StopStage caller point := sound.stage_at stands
  have kept : ∀ thread, state.thread = some thread →
      ∃ origin, state.thread = some origin ∧ origin.point = thread.point :=
    fun thread found => ⟨thread, found, rfl⟩
  cases point with
  | check => exact delivers.frame .rfl kept rfl delivers.callers
  | storeStopping => exact delivers.frame .rfl kept rfl delivers.callers
  | requestStop =>
      refine delivers.frame .rfl ?_ rfl delivers.callers
      intro thread found
      obtain ⟨origin, present, rfl⟩ := Option.map_eq_some_iff.mp found
      exact ⟨origin, present, rfl⟩
  | runCallback =>
      refine delivers.frame ?_ kept rfl delivers.callers
      simp only [Monitor.applyStop]
      split
      · rw [Signals.wake_log]
        exact .rfl
      · exact .rfl
  | join =>
      refine delivers.renew .rfl ?_ rfl
      intro thread found
      cases found
  | _ =>
      refine delivers.renew .rfl ?_ rfl
      intro thread found
      cases (Monitor.thread_eq_none stage.unthreaded).symm.trans found

/-- A caller moves on, but not to the call of a handler. -/
theorem callers_update {callers : Nat → RefreshCaller} {now : RefreshCaller}
    (known : ∀ caller handler snapshot,
      callers caller ≠ .refreshing (.calling handler snapshot))
    (silent : ∀ handler snapshot,
      now ≠ .refreshing (.calling handler snapshot))
    (caller other handler snapshot : Nat) :
    Function.update callers caller now other ≠
      .refreshing (.calling handler snapshot) := by
  by_cases same : other = caller
  · subst same
    rw [Function.update_self]
    exact silent handler snapshot
  · rw [Function.update_of_ne same]
    exact known other handler snapshot

theorem delivers_refresh {caller : Nat} {point : RefreshPoint}
    {action : RefreshAction} (delivers : state.Delivers)
    (apart : state.notifiesApart (.refresh caller point action) = true)
    (stands : state.callers caller = .refreshing point)
    (isEnabled : action.enabled state.signals point = true) :
    (state.apply (.refresh caller point action)).Delivers := by
  refine delivers.frame (refresh_undelivered ?_)
    (fun thread found => ⟨thread, found, rfl⟩) rfl
    (callers_update delivers.callers ?_ caller)
  · intro handler snapshot isCall
    subst isCall
    have calling : point = .calling handler snapshot :=
      of_decide_eq_true isEnabled
    rw [calling] at stands
    exact delivers.callers caller handler snapshot stands
  · intro handler snapshot calling
    split at calling
    · rename_i next reached
      cases calling
      obtain ⟨rfl, running, _⟩ := copyHandler_of_calling reached
      simp [Monitor.notifiesApart, running] at apart
    · cases calling

theorem delivers_loop {thread : LoopThread} {action : LoopAction}
    (delivers : state.Delivers) (found : state.thread = some thread)
    (isEnabled : action.enabled state.signals thread = true) :
    (state.applyLoop action thread).Delivers where
  inOrder :=
    inOrder_loop delivers.inOrder (delivers.due thread found) isEnabled
  due := by
    intro next same point snapshot refreshing carried
    cases same
    exact due_loop delivers.inOrder (delivers.due thread found) isEnabled
      refreshing carried
  handler := by
    intro next same handler snapshot calling
    cases same
    obtain ⟨point, inner, _, reached⟩ := refresh_of_carried calling rfl
    exact (copyHandler_of_calling reached).2.2
  callers := delivers.callers

theorem delivers_step (sound : state.Sound) (delivers : state.Delivers)
    (apart : state.notifiesApart label = true)
    (moves : state.Moves label target) : target.Delivers := by
  have kept : ∀ thread, state.thread = some thread →
      ∃ origin, state.thread = some origin ∧ origin.point = thread.point :=
    fun thread found => ⟨thread, found, rfl⟩
  cases moves with
  | callStart idle => exact delivers.frame .rfl kept rfl delivers.callers
  | callStop idle => exact delivers.frame .rfl kept rfl delivers.callers
  | start stands => exact delivers_start sound delivers stands _
  | stop stands joinable => exact delivers_stop sound delivers stands
  | loop found isEnabled => exact delivers_loop delivers found isEnabled
  | requestRefresh stands =>
      refine delivers.frame .rfl kept rfl
        (callers_update delivers.callers ?_ _)
      intro handler snapshot
      split
      · simp
      · simp
  | storeDirty stands =>
      exact delivers.frame .rfl kept rfl
        (callers_update delivers.callers (by simp) _)
  | wakeMonitor stands =>
      refine delivers.frame ?_ kept rfl
        (callers_update delivers.callers (by simp) _)
      simp only [Monitor.apply, Signals.wake_log]
      exact ⟨rfl, Nat.le_refl _⟩
  | refresh stands isEnabled =>
      exact delivers_refresh delivers apart stands isEnabled
  | deliver isOpen => exact delivers.frame .rfl kept rfl delivers.callers
  | overrun isOpen =>
      refine delivers.frame .rfl ?_ rfl delivers.callers
      intro thread found
      obtain ⟨origin, present, rfl⟩ := Option.map_eq_some_iff.mp found
      exact ⟨origin, present, rfl⟩
  | breakSocket isOpen => exact delivers.frame .rfl kept rfl delivers.callers

theorem delivers_reachable
    (reached : monitorMachine.ReachableWhere
      (fun state label => state.notifiesApart label = true) state) :
    state.Delivers := by
  refine reached.invariant_with
    (fun _ before => sound_reachable before.reachable) ?_ ?_
  · intro start initial
    obtain ⟨debounce, rfl⟩ := initial
    exact ⟨⟨.nil, by simp [Monitor.constructed]⟩,
      by simp [Monitor.constructed], by simp [Monitor.constructed],
      by simp [Monitor.constructed]⟩
  · intro before step after sound delivers apart stepped
    exact delivers_step sound delivers apart (Monitor.moves_of_step stepped)

/-- The steps in which the call of a change handler begins. -/
def MonitorStep.invokes : MonitorStep → Option (Nat × Nat)
  | .loop (.refresh _ (.call handler snapshot)) => some (handler, snapshot)
  | .refresh _ _ (.call handler snapshot) => some (handler, snapshot)
  | _ => none

/-- When no caller which refreshes on its own thread finds the monitor
running as it is about to notify, snapshots are delivered in the order of
their publication, and every call which begins is one of the handler of the
session on its thread, which `stop_monitor` has yet to join. -/
theorem change_callbacks
    (reached : monitorMachine.ReachableWhere
      (fun state label => state.notifiesApart label = true) state) :
    (state.signals.log.delivered.Pairwise
        fun later earlier => earlier.2 < later.2) ∧
      ∀ label target handler snapshot,
        monitorMachine.step state label = some target →
        label.invokes = some (handler, snapshot) →
        ∃ thread, state.thread = some thread ∧
          thread.point = .refreshing (.calling handler snapshot) ∧
          state.resources.handlers.onChange = some handler := by
  have delivers := delivers_reachable reached
  refine ⟨delivers.inOrder.decreasing, ?_⟩
  intro label target handler snapshot stepped invokes
  cases Monitor.moves_of_step stepped with
  | @loop action thread found isEnabled =>
      cases action with
      | refresh point inner =>
          cases inner with
          | call called delivered =>
              cases invokes
              simp only [LoopAction.enabled, Bool.and_eq_true,
                decide_eq_true_eq] at isEnabled
              have calling : point = .calling handler snapshot :=
                of_decide_eq_true isEnabled.2
              have stands : thread.point =
                  .refreshing (.calling handler snapshot) :=
                calling ▸ isEnabled.1
              exact ⟨thread, found, stands,
                delivers.handler thread found handler snapshot stands⟩
          | _ => cases invokes
      | _ => cases invokes
  | @refresh caller point action stands isEnabled =>
      cases action with
      | call called delivered =>
          cases invokes
          have calling : point = .calling handler snapshot :=
            of_decide_eq_true isEnabled
          rw [calling] at stands
          exact absurd stands (delivers.callers caller handler snapshot)
      | _ => cases invokes
  | _ => cases invokes

/-- An iteration of the loop which takes the flag and refreshes, up to the
publication of the snapshot of this number. -/
def publishingIteration (snapshot : Nat) : List MonitorStep :=
  [.enterPoll 0, .pollReturns (-1) { noEvents with wake := true }, .testWake,
    .readWake, .testRunning, .readWake, .exchangeDirty, .scheduleDirty 0,
    .testNetlink, .testDeadline 150000000, .refresh .locking .lock,
    .refresh .reading .publish,
    .refresh (.notifying snapshot) (.copyHandler snapshot)].map .loop

/-- A caller has refreshed before the start, another asks for a refresh after
the loop has delivered its first snapshot. -/
def refreshApart : List MonitorStep :=
  ([.requestRefresh 0, .refresh 0 .locking .lock,
    .refresh 0 .reading .publish,
    .refresh 0 (.notifying 0) (.copyHandler 0)] : List MonitorStep) ++
  firstStart ++ [MonitorStep.loop .registerCallback] ++
  publishingIteration 1 ++
  ([.loop (.refresh (.calling 1 1) (.call 1 1)), .requestRefresh 0,
    .storeDirty 0, .wakeMonitor 0 1] : List MonitorStep) ++
  publishingIteration 2

theorem refreshApart_enabled :
    (monitorMachine.runWhere
      (fun state label => state.notifiesApart label = true)
      (.constructed 150) refreshApart).isSome = true := by
  decide +kernel

def deliveringMonitor : Monitor :=
  monitorMachine.finishWhere _ (.constructed 150) refreshApart
    refreshApart_enabled

theorem change_callbacks_second :
    deliveringMonitor.signals.log.delivered = [(1, 1)] ∧
      (deliveringMonitor.signals.log.delivered.Pairwise
        fun later earlier => earlier.2 < later.2) ∧
      ∃ thread, deliveringMonitor.thread = some thread ∧
        thread.point = .refreshing (.calling 1 2) ∧
        deliveringMonitor.resources.handlers.onChange = some 1 := by
  have callbacks := change_callbacks (Machine.ReachableWhere.finishWhere
    (fun _ _ allowed => allowed) (.initial (constructed_initial 150))
    refreshApart_enabled)
  exact ⟨by decide, callbacks.1,
    callbacks.2 (.loop (.refresh (.calling 1 2) (.call 1 2)))
      (deliveringMonitor.apply
        (.loop (.refresh (.calling 1 2) (.call 1 2)))) 1 2 rfl rfl⟩

/-- A caller publishes before the start and notifies while the monitor runs,
after the loop has delivered a newer snapshot; its call begins after the
stop. -/
def refreshAcrossSession : List MonitorStep :=
  ([.requestRefresh 0, .refresh 0 .locking .lock,
    .refresh 0 .reading .publish] : List MonitorStep) ++
  firstStart ++ [MonitorStep.loop .registerCallback] ++
  publishingIteration 1 ++
  ([.loop (.refresh (.calling 1 1) (.call 1 1)),
    .refresh 0 (.notifying 0) (.copyHandler 0),
    .callStop] : List MonitorStep) ++
  List.map (MonitorStep.stop .user)
    [.check, .storeStopping, .requestStop, .runCallback] ++
  [MonitorStep.loop .exit] ++
  List.map (MonitorStep.stop .user)
    [.join, .closeNetlink, .closeWake, .clearHandlers, .storeStopped]

theorem refreshAcrossSession_enabled :
    (monitorMachine.runWhere (fun _ _ => True) (.constructed 150)
      refreshAcrossSession).isSome = true := by
  decide +kernel

def stoppedMonitor : Monitor :=
  monitorMachine.finish (.constructed 150) refreshAcrossSession
    refreshAcrossSession_enabled

/-- After `stop_monitor` has returned, the handler of the session is called
with a snapshot older than the one it already has. -/
theorem late_callback :
    ∃ state target, monitorMachine.Reachable state ∧
      state.controller = .idle (some .stopped) ∧ state.thread = none ∧
      state.resources.handlers.onChange = none ∧
      monitorMachine.step state (.refresh 0 (.calling 1 0) (.call 1 0)) =
        some target ∧
      target.signals.log.delivered = [(1, 0), (1, 1)] :=
  ⟨stoppedMonitor,
    stoppedMonitor.apply (.refresh 0 (.calling 1 0) (.call 1 0)),
    Machine.reachable_finish (constructed_initial 150)
      refreshAcrossSession_enabled, by decide, by decide, by decide, rfl,
    by decide⟩

end LibbpfControl.NicCheck
