import Mathlib.Algebra.Order.BigOperators.Group.Finset
import LibbpfControl.Liveness
import LibbpfControl.NicCheck.StopWake

/-!
# `stop_monitor` returns

`stop_monitor` joins the monitor thread, wherever this is when the stop is
requested: in `poll`, in one of the two drains, in a refresh behind the mutex
which another thread holds, or in a handler.  With the status `kStopping` both
drains are left after one more read, a loop which polls is woken by the stop
callback, and the mutex is held by a thread which is reading the interfaces.
So every run in which what has begun goes on comes to the end of the join.
-/

namespace LibbpfControl.NicCheck

/-- What `stop_monitor` has done about the thread. -/
def StopPoint.Threaded (thread : Option LoopThread) : StopPoint → Prop
  | .requestStop => thread.isSome = true
  | .runCallback => thread.any LoopThread.stop = true
  | .join => thread.any LoopThread.stop = true
  | _ => True

/-- Where a thread is joined there is one, and its stop is requested. -/
def Monitor.Joins (state : Monitor) : Prop :=
  ∀ caller point, state.controller = .stop caller point →
    point.Threaded state.thread

variable {state target : Monitor} {label : MonitorStep}

/-- `start_monitor` only ever begins a call of `stop_monitor`. -/
theorem start_checks {handlers : Handlers} {point : StartPoint}
    {succeeds : Bool} {caller : StopCaller} {next : StopPoint}
    (calls : (state.applyStart handlers succeeds point).controller =
      .stop caller next) : next = .check := by
  cases point with
  | checkFailed =>
      simp only [Monitor.applyStart, Monitor.goto] at calls
      split at calls
      · cases calls
        rfl
      · cases calls
  | testStopped seen =>
      simp only [Monitor.applyStart, Monitor.goto] at calls
      split at calls
      · cases calls
      · cases calls
  | openEventfd =>
      cases succeeds with
      | false => cases calls
      | true => cases calls
  | openSocket =>
      cases succeeds with
      | false => cases calls
      | true => cases calls
  | createThread =>
      cases succeeds with
      | false =>
          cases calls
          rfl
      | true => cases calls
  | _ => cases calls

theorem resume_ne_stop (caller later : StopCaller) (point : StopPoint) :
    caller.resume ≠ .stop later point := by
  cases caller with
  | user => exact Controller.noConfusion
  | restart handlers => exact Controller.noConfusion
  | unwind => exact Controller.noConfusion

theorem joins_stop {caller : StopCaller} {point : StopPoint}
    (joins : state.Joins) (stands : state.controller = .stop caller point) :
    (state.applyStop caller point).Joins := by
  intro later next goesOn
  have threaded := joins caller point stands
  cases point with
  | check =>
      simp only [Monitor.applyStop, Monitor.goto] at goesOn
      split at goesOn
      · exact absurd goesOn (resume_ne_stop _ _ _)
      · cases goesOn
        trivial
  | storeStopping =>
      simp only [Monitor.applyStop, Monitor.goto] at goesOn
      split at goesOn
      · cases goesOn
        assumption
      · cases goesOn
        trivial
  | requestStop =>
      cases goesOn
      obtain ⟨thread, found⟩ := Option.isSome_iff_exists.mp threaded
      simp [StopPoint.Threaded, Monitor.applyStop, found]
  | runCallback =>
      cases goesOn
      exact threaded
  | storeStopped => exact absurd goesOn (resume_ne_stop _ _ _)
  | _ =>
      cases goesOn
      trivial

theorem Monitor.Joins.frame (joins : state.Joins)
    (sameController : target.controller = state.controller)
    (sameStop : target.thread.map LoopThread.stop =
      state.thread.map LoopThread.stop) : target.Joins := by
  intro caller point stands
  have threaded := joins caller point (sameController ▸ stands)
  have sameSome := congrArg Option.isSome sameStop
  have sameAny := congrArg (Option.any id) sameStop
  simp only [Option.isSome_map] at sameSome
  simp only [Option.any_map] at sameAny
  cases point with
  | requestStop => exact sameSome.trans threaded
  | runCallback => exact sameAny.trans threaded
  | join => exact sameAny.trans threaded
  | _ => trivial

theorem joins_step (joins : state.Joins) (moves : state.Moves label target) :
    target.Joins := by
  cases moves with
  | callStart idle =>
      intro caller point stands
      cases stands
  | callStop idle =>
      intro caller point stands
      cases stands
      trivial
  | start stands =>
      intro caller point calls
      rw [start_checks calls]
      trivial
  | stop stands _ => exact joins_stop joins stands
  | loop found isEnabled =>
      refine joins.frame rfl ?_
      simp [Monitor.applyLoop, found, move_stop]
  | overrun isOpen =>
      refine joins.frame rfl ?_
      simp only [Monitor.apply, Option.map_map]
      rfl
  | _ => exact joins.frame rfl rfl

theorem joins_reachable (reached : monitorMachine.Reachable state) :
    state.Joins := by
  refine reached.invariant ?_ ?_
  · intro start initial caller point stands
    obtain ⟨debounce, rfl⟩ := initial
    cases stands
  · intro before step after joins stepped
    exact joins_step joins (Monitor.moves_of_step stepped)

/-- Whoever holds `refresh_mutex_` is reading the interfaces. -/
def Monitor.Held (state : Monitor) : Prop :=
  state.signals.refreshLocked = true →
    (∃ thread, state.thread = some thread ∧
      thread.point = .refreshing .reading) ∨
    ∃ caller, state.callers caller = .refreshing .reading

theorem Monitor.Held.frame (held : state.Held)
    (locked : target.signals.refreshLocked = state.signals.refreshLocked)
    (thread : ∀ thread, state.thread = some thread →
      thread.point = .refreshing .reading →
      ∃ later, target.thread = some later ∧
        later.point = .refreshing .reading)
    (callers : ∀ caller, state.callers caller = .refreshing .reading →
      target.callers caller = .refreshing .reading) : target.Held := by
  intro isLocked
  rcases held (locked ▸ isLocked) with ⟨holder, found, reading⟩ |
    ⟨caller, reading⟩
  · exact .inl (thread holder found reading)
  · exact .inr ⟨caller, callers caller reading⟩

@[simp] theorem Signals.wake_refreshLocked (signals : Signals)
    (resources : Resources) :
    (signals.wake resources).refreshLocked = signals.refreshLocked := by
  unfold Signals.wake
  split
  · rfl
  · rfl

theorem start_locked (state : Monitor) (handlers : Handlers)
    (succeeds : Bool) (point : StartPoint) :
    (state.applyStart handlers succeeds point).signals.refreshLocked =
        state.signals.refreshLocked ∧
      (state.applyStart handlers succeeds point).callers =
        state.callers := by
  cases point with
  | openEventfd =>
      cases succeeds with
      | false => exact ⟨rfl, rfl⟩
      | true => exact ⟨rfl, rfl⟩
  | openSocket =>
      cases succeeds with
      | false => exact ⟨rfl, rfl⟩
      | true => exact ⟨rfl, rfl⟩
  | createThread =>
      cases succeeds with
      | false => exact ⟨rfl, rfl⟩
      | true => exact ⟨rfl, rfl⟩
  | wake => exact ⟨Signals.wake_refreshLocked _ _, rfl⟩
  | _ => exact ⟨rfl, rfl⟩

theorem held_start {handlers : Handlers} {point : StartPoint}
    (sound : state.Sound) (held : state.Held)
    (stands : state.controller = .start handlers point) (succeeds : Bool) :
    (state.applyStart handlers succeeds point).Held := by
  obtain ⟨locked, sameCallers⟩ :=
    start_locked state handlers succeeds point
  refine held.frame locked ?_ (fun caller reading => by
    rw [sameCallers]
    exact reading)
  intro thread found reading
  cases start_view sound stands succeeds with
  | passed controller moved =>
      rw [moved]
      exact ⟨thread, found, reading⟩
  | threadless before _ _ _ => cases before.symm.trans found
  | created _ before _ => cases before.symm.trans found

theorem stop_locked (state : Monitor) (caller : StopCaller)
    (point : StopPoint) :
    (state.applyStop caller point).signals.refreshLocked =
      state.signals.refreshLocked := by
  cases point with
  | runCallback =>
      simp only [Monitor.applyStop]
      split
      · exact Signals.wake_refreshLocked _ _
      · rfl
  | _ => rfl

theorem held_stop {caller : StopCaller} {point : StopPoint}
    (held : state.Held)
    (joinable : point = .join → ∃ thread,
      state.thread = some thread ∧ thread.point = .finished) :
    (state.applyStop caller point).Held := by
  refine held.frame (stop_locked state caller point) ?_ ?_
  · intro thread found reading
    cases point with
    | join =>
        obtain ⟨joined, present, finished⟩ := joinable rfl
        cases present.symm.trans found
        cases finished.symm.trans reading
    | requestStop =>
        refine ⟨{ thread with stop := true }, ?_, reading⟩
        simp [Monitor.applyStop, found]
    | _ => exact ⟨thread, found, reading⟩
  · intro other reading
    cases point with
    | _ => exact reading

/-- A mutex which is held after an action of a refresh was taken by it, or
was held before by somebody else. -/
theorem refresh_locked {signals : Signals} {point : RefreshPoint}
    {action : RefreshAction} (isEnabled : action.enabled signals point = true)
    (locked : (action.apply signals).refreshLocked = true) :
    action = .lock ∨ point ≠ .reading ∧ signals.refreshLocked = true := by
  cases action with
  | lock => exact .inl rfl
  | publish => cases locked
  | abort => cases locked
  | copyHandler snapshot =>
      have stands : point = .notifying snapshot := of_decide_eq_true isEnabled
      exact .inr ⟨by simp [stands], locked⟩
  | call handler snapshot =>
      have stands : point = .calling handler snapshot :=
        of_decide_eq_true isEnabled
      exact .inr ⟨by simp [stands], locked⟩

/-- Only a refresh touches the mutex. -/
theorem loop_locked {resources : Resources} {signals : Signals}
    {thread : LoopThread} {action : LoopAction}
    (isEnabled : action.enabled signals thread = true)
    (locked : (action.apply resources signals thread).refreshLocked = true) :
    action = .refresh .locking .lock ∨
      thread.point ≠ .refreshing .reading ∧
        signals.refreshLocked = true := by
  cases action with
  | refresh point action =>
      simp only [LoopAction.enabled, Bool.and_eq_true,
        decide_eq_true_eq] at isEnabled
      rcases refresh_locked isEnabled.2 locked with rfl | ⟨elsewhere, held⟩
      · simp only [RefreshAction.enabled, Bool.and_eq_true,
          decide_eq_true_eq] at isEnabled
        exact .inl (by rw [isEnabled.2.1])
      · exact .inr ⟨by simp [isEnabled.1, elsewhere], held⟩
  | registerCallback =>
      have stands : thread.point = .entering := of_decide_eq_true isEnabled
      simp only [LoopAction.apply] at locked
      split at locked
      · exact .inr ⟨by simp [stands], by simpa using locked⟩
      · exact .inr ⟨by simp [stands], locked⟩
  | testDeadline now =>
      have stands : thread.point = .testingDeadline :=
        of_decide_eq_true isEnabled
      simp only [LoopAction.apply] at locked
      split at locked
      · exact .inr ⟨by simp [stands], locked⟩
      · exact .inr ⟨by simp [stands], locked⟩
  | compareExchange error =>
      have stands : thread.point = .failing error :=
        of_decide_eq_true isEnabled
      simp only [LoopAction.apply] at locked
      split at locked
      · exact .inr ⟨by simp [stands], locked⟩
      · exact .inr ⟨by simp [stands], locked⟩
  | exit =>
      simp only [LoopAction.enabled, Bool.and_eq_true, Bool.or_eq_true,
        decide_eq_true_eq] at isEnabled
      rcases isEnabled.1 with stands | stands
      · exact .inr ⟨by simp [stands], locked⟩
      · exact .inr ⟨by simp [stands], locked⟩
  | _ =>
      simp only [LoopAction.enabled, Bool.and_eq_true,
        decide_eq_true_eq] at isEnabled
      exact .inr ⟨by simp [isEnabled], locked⟩

theorem held_loop {thread : LoopThread} {action : LoopAction}
    (held : state.Held) (found : state.thread = some thread)
    (isEnabled : action.enabled state.signals thread = true) :
    (state.applyLoop action thread).Held := by
  intro locked
  rcases loop_locked isEnabled locked with rfl | ⟨elsewhere, before⟩
  · exact .inl ⟨_, rfl, rfl⟩
  · rcases held before with ⟨holder, present, reading⟩ | holder
    · cases present.symm.trans found
      exact absurd reading elsewhere
    · exact .inr holder

/-- A caller which did not hold the mutex moves. -/
theorem Monitor.Held.setCaller {caller : Nat} {now : RefreshCaller}
    (held : state.Held) (notReading : state.callers caller ≠
      .refreshing .reading)
    (locked : target.signals.refreshLocked = state.signals.refreshLocked)
    (sameThread : target.thread = state.thread)
    (moved : target.callers = Function.update state.callers caller now) :
    target.Held := by
  refine held.frame locked ?_ ?_
  · intro thread found reading
    exact ⟨thread, sameThread.trans found, reading⟩
  · intro other reading
    have apart : other ≠ caller := by
      rintro rfl
      exact notReading reading
    rw [moved, Function.update_of_ne apart]
    exact reading

theorem held_refresh {caller : Nat} {point : RefreshPoint}
    {action : RefreshAction} (held : state.Held)
    (stands : state.callers caller = .refreshing point)
    (isEnabled : action.enabled state.signals point = true) :
    (state.apply (.refresh caller point action)).Held := by
  intro locked
  rcases refresh_locked isEnabled locked with rfl | ⟨elsewhere, before⟩
  · refine .inr ⟨caller, ?_⟩
    simp [Monitor.apply, Monitor.setCaller, RefreshAction.next]
  · rcases held before with ⟨thread, found, reading⟩ | ⟨holder, reading⟩
    · exact .inl ⟨thread, found, reading⟩
    · have apart : holder ≠ caller := by
        rintro rfl
        cases reading.symm.trans stands
        exact elsewhere rfl
      refine .inr ⟨holder, ?_⟩
      simp only [Monitor.apply, Monitor.setCaller]
      rw [Function.update_of_ne apart]
      exact reading

theorem held_step (sound : state.Sound) (held : state.Held)
    (moves : state.Moves label target) : target.Held := by
  cases moves with
  | start stands => exact held_start sound held stands _
  | stop stands joinable => exact held_stop held joinable
  | loop found isEnabled => exact held_loop held found isEnabled
  | requestRefresh stands =>
      exact held.setCaller (by simp [stands]) rfl rfl rfl
  | storeDirty stands => exact held.setCaller (by simp [stands]) rfl rfl rfl
  | wakeMonitor stands =>
      exact held.setCaller (by simp [stands])
        (Signals.wake_refreshLocked _ _) rfl rfl
  | refresh stands isEnabled => exact held_refresh held stands isEnabled
  | overrun isOpen =>
      refine held.frame rfl ?_ (fun _ reading => reading)
      intro thread found reading
      refine ⟨{ thread with unscheduled := true }, ?_, reading⟩
      simp [Monitor.apply, found]
  | _ => exact held

theorem held_reachable (reached : monitorMachine.Reachable state) :
    state.Held := by
  refine reached.invariant_with (fun _ before => sound_reachable before)
    ?_ ?_
  · intro start initial locked
    obtain ⟨debounce, rfl⟩ := initial
    cases locked
  · intro before step after sound held stepped
    exact held_step sound held (Monitor.moves_of_step stepped)

def Monitor.CallersBelow (bound : Nat) (state : Monitor) : Prop :=
  ∀ caller, bound ≤ caller → state.callers caller = .idle

theorem Monitor.CallersBelow.setCaller {bound caller : Nat}
    (below : state.CallersBelow bound) (now : RefreshCaller) :
    (state.setCaller caller now).CallersBelow (max bound (caller + 1)) := by
  intro other beyond
  simp only [Monitor.setCaller]
  rw [Function.update_of_ne (by omega)]
  exact below other (by omega)

theorem exists_callersBelow (reached : monitorMachine.Reachable state) :
    ∃ bound, state.CallersBelow bound := by
  induction reached with
  | initial begins =>
      obtain ⟨debounce, rfl⟩ := begins
      exact ⟨0, fun _ _ => rfl⟩
  | @next before step after _ _ stepped induction =>
      obtain ⟨bound, below⟩ := induction
      cases Monitor.moves_of_step stepped with
      | start stands =>
          refine ⟨bound, fun caller beyond => ?_⟩
          rw [(start_locked before _ _ _).2]
          exact below caller beyond
      | @stop _ point stands _ =>
          refine ⟨bound, fun caller beyond => ?_⟩
          cases point with
          | _ => exact below caller beyond
      | requestRefresh stands => exact ⟨_, below.setCaller _⟩
      | storeDirty stands => exact ⟨_, below.setCaller _⟩
      | wakeMonitor stands => exact ⟨_, below.setCaller _⟩
      | refresh stands isEnabled => exact ⟨_, below.setCaller _⟩
      | _ => exact ⟨bound, below⟩

/-- The points of `stop_monitor` which are left. -/
def StopPoint.toGo : StopPoint → Nat
  | .check => 9
  | .storeStopping => 8
  | .requestStop => 7
  | .runCallback => 6
  | .join => 5
  | .closeNetlink => 4
  | .closeWake => 3
  | .clearHandlers => 2
  | .storeStopped => 1

def RefreshPoint.toGo : RefreshPoint → Nat
  | .locking => 4
  | .reading => 3
  | .notifying _ => 2
  | .calling _ _ => 1

/-- The points of the loop which are left when a stop is requested and the
status is not `kRunning`. -/
def LoopPoint.toGo : LoopPoint → Nat
  | .draining => 14
  | .drained => 13
  | .exchanging => 12
  | .taken => 11
  | .testingNetlink => 10
  | .receiving _ => 9
  | .checkingStatus _ => 8
  | .received _ => 7
  | .testingDeadline => 6
  | .refreshing point => point.toGo + 1
  | .polling _ => 6
  | .polled => 5
  | .failing _ => 4
  | .notifying _ => 3
  | .calling _ _ => 2
  | .entering => 2
  | .head => 1
  | .finished => 0

def RefreshCaller.toGo : RefreshCaller → Nat
  | .idle => 0
  | .stored _ => 1
  | .monitoring => 2
  | .refreshing point => point.toGo

def callersToGo (bound : Nat) (callers : Nat → RefreshCaller) : Nat :=
  ∑ caller ∈ Finset.range bound, (callers caller).toGo

def Controller.stopToGo : Controller → Nat
  | .stop _ point => point.toGo
  | _ => 0

def Monitor.threadToGo (state : Monitor) : Nat :=
  state.thread.elim 0 fun thread => thread.point.toGo

def Monitor.toGo (bound : Nat) (state : Monitor) : Nat :=
  state.controller.stopToGo + state.threadToGo +
    callersToGo bound state.callers

/-- One caller goes on, the others stay where they are. -/
theorem callersToGo_update {bound caller : Nat}
    {callers : Nat → RefreshCaller} {now : RefreshCaller}
    (inside : caller < bound) (less : now.toGo < (callers caller).toGo) :
    callersToGo bound (Function.update callers caller now) <
      callersToGo bound callers := by
  apply Finset.sum_lt_sum
  · intro other _
    by_cases same : other = caller
    · subst same
      rw [Function.update_self]
      exact Nat.le_of_lt less
    · rw [Function.update_of_ne same]
  · refine ⟨caller, Finset.mem_range.mpr inside, ?_⟩
    rw [Function.update_self]
    exact less

theorem refresh_toGo {resources : Resources} {signals : Signals}
    {point : RefreshPoint} {action : RefreshAction}
    (isEnabled : action.enabled signals point = true) :
    (action.next resources signals).elim 0 RefreshPoint.toGo <
      point.toGo := by
  cases action with
  | lock =>
      simp only [RefreshAction.enabled, Bool.and_eq_true,
        decide_eq_true_eq] at isEnabled
      rw [isEnabled.1]
      exact show 3 < 4 by decide
  | publish =>
      rw [show point = .reading from of_decide_eq_true isEnabled]
      exact show 2 < 3 by decide
  | abort =>
      rw [show point = .reading from of_decide_eq_true isEnabled]
      exact show 0 < 3 by decide
  | copyHandler snapshot =>
      rw [show point = .notifying snapshot from of_decide_eq_true isEnabled]
      simp only [RefreshAction.next]
      split
      · cases resources.handlers.onChange with
        | none => exact show 0 < 2 by decide
        | some handler => exact show 1 < 2 by decide
      · exact show 0 < 2 by decide
  | call handler snapshot =>
      rw [show point = .calling handler snapshot from
        of_decide_eq_true isEnabled]
      exact show 0 < 1 by decide

section Loop

variable {debounce : Int} {resources : Resources} {signals : Signals}
  {thread : LoopThread} {action : LoopAction}

theorem netlinkPoint_toGo (thread : LoopThread) :
    thread.netlinkPoint.toGo < 10 := by
  unfold LoopThread.netlinkPoint
  split
  · exact show 4 < 10 by decide
  · split
    · exact show 8 < 10 by decide
    · exact show 6 < 10 by decide

theorem receivePoint_toGo (changed : Bool) (outcome : ReceiveOutcome) :
    (receivePoint changed outcome).toGo < 9 := by
  unfold receivePoint
  split
  · exact show 8 < 9 by decide
  · exact show 7 < 9 by decide

theorem toGo_lt {point later : LoopPoint}
    (stands : decide (thread.point = point) = true)
    (less : later.toGo < point.toGo) : later.toGo < thread.point.toGo := by
  rw [of_decide_eq_true stands]
  exact less

/-- Without the status `kRunning` no drain goes round, and with the stop
requested no round begins. -/
theorem loop_toGo (stop : thread.stop = true)
    (down : signals.status ≠ .running)
    (isEnabled : action.enabled signals thread = true) :
    (action.move debounce resources signals thread).point.toGo <
      thread.point.toGo := by
  cases action with
  | registerCallback => exact toGo_lt isEnabled (show 1 < 2 by decide)
  | exit =>
      simp only [LoopAction.enabled, Bool.and_eq_true,
        Bool.or_eq_true] at isEnabled
      rcases isEnabled.1 with stands | stands
      · exact toGo_lt stands (show 0 < 1 by decide)
      · exact toGo_lt stands (show 0 < 5 by decide)
  | enterPoll now => simp [LoopAction.enabled, stop] at isEnabled
  | pollReturns timeoutMs ready =>
      simp only [LoopAction.enabled, Bool.and_eq_true] at isEnabled
      exact toGo_lt isEnabled.1.1 (show 5 < 6 by decide)
  | pollInterrupted timeoutMs =>
      exact toGo_lt isEnabled (show 1 < 6 by decide)
  | pollFails timeoutMs => exact toGo_lt isEnabled (show 4 < 6 by decide)
  | testWake => simp [LoopAction.enabled, stop] at isEnabled
  | readWake =>
      apply toGo_lt isEnabled
      simp only [LoopAction.move]
      split
      · exact show 13 < 14 by decide
      · exact show 12 < 14 by decide
  | testRunning =>
      apply toGo_lt isEnabled
      simp only [LoopAction.move, if_neg down]
      exact show 12 < 13 by decide
  | exchangeDirty =>
      apply toGo_lt isEnabled
      simp only [LoopAction.move]
      split
      · exact show 11 < 12 by decide
      · exact show 10 < 12 by decide
  | scheduleDirty now => exact toGo_lt isEnabled (show 10 < 11 by decide)
  | testNetlink => exact toGo_lt isEnabled (netlinkPoint_toGo thread)
  | checkStatus changed =>
      apply toGo_lt isEnabled
      simp only [LoopAction.move, if_neg down]
      exact show 7 < 8 by decide
  | receive changed => exact toGo_lt isEnabled (receivePoint_toGo _ _)
  | receiveInterrupted changed =>
      exact toGo_lt isEnabled (receivePoint_toGo changed .interrupted)
  | receiveFails changed =>
      exact toGo_lt isEnabled (receivePoint_toGo changed .failed)
  | finishReceiving changed now =>
      exact toGo_lt isEnabled (show 6 < 7 by decide)
  | testDeadline now =>
      apply toGo_lt isEnabled
      simp only [LoopAction.move]
      split
      · exact show 5 < 6 by decide
      · exact show 1 < 6 by decide
  | refresh point action =>
      simp only [LoopAction.enabled, Bool.and_eq_true] at isEnabled
      apply toGo_lt isEnabled.1
      have less : (action.next resources signals).elim 0 RefreshPoint.toGo <
          point.toGo := refresh_toGo isEnabled.2
      simp only [LoopAction.move]
      split
      · rename_i next reached
        rw [reached] at less
        exact Nat.succ_lt_succ less
      · rename_i ended
        rw [ended] at less
        exact Nat.succ_lt_succ less
  | compareExchange error =>
      apply toGo_lt isEnabled
      simp only [LoopAction.move, if_neg down]
      exact show 0 < 4 by decide
  | copyFailureHandler error =>
      apply toGo_lt isEnabled
      simp only [LoopAction.move]
      split
      · exact show 2 < 3 by decide
      · exact show 0 < 3 by decide
  | callFailureHandler handler error =>
      exact toGo_lt isEnabled (show 0 < 2 by decide)

end Loop

/-- The stop of the thread is requested and not yet joined. -/
def Controller.stopRequested : Controller → Bool
  | .stop _ .runCallback => true
  | .stop _ .join => true
  | _ => false

/-- `poll` is ended by what it waits for. -/
def LoopAction.undisturbed : LoopAction → Bool
  | .pollInterrupted _ => false
  | .pollFails _ => false
  | _ => true

/-- The steps of `stop_monitor`, those of the loop from the request on, and
those of the calls of `request_refresh` in progress.  No signal ends `poll`,
and nothing else begins. -/
def Monitor.windsDown (state : Monitor) : MonitorStep → Prop
  | .stop _ _ => True
  | .loop action =>
      state.controller.stopRequested = true ∧ action.undisturbed = true
  | .storeDirty _ => True
  | .wakeMonitor _ _ => True
  | .refresh _ _ _ => True
  | _ => False

/-- The call of `stop_monitor` has returned to its caller, with nothing left
of the monitor. -/
structure Monitor.StopReturned (caller : StopCaller) (state : Monitor) :
    Prop where
  resumed : state.controller = caller.resume
  stopped : state.footing.Stopped

/-- What the requested stop is known to have found. -/
theorem stopRequested_thread (sound : state.Sound) (joins : state.Joins)
    (requested : state.controller.stopRequested = true) :
    state.signals.status = .stopping ∧
      state.thread.any LoopThread.stop = true := by
  cases stands : state.controller with
  | stop caller point =>
      have stage := sound.stage_at stands
      have threaded := joins caller point stands
      cases point with
      | runCallback => exact ⟨stage, threaded⟩
      | join => exact ⟨stage, threaded⟩
      | _ =>
          rw [stands] at requested
          cases requested
  | _ =>
      rw [stands] at requested
      cases requested

theorem stop_threadToGo (state : Monitor) (caller : StopCaller)
    (point : StopPoint) :
    (state.applyStop caller point).threadToGo ≤ state.threadToGo := by
  cases point with
  | join => exact Nat.zero_le _
  | requestStop =>
      cases found : state.thread with
      | none => simp [Monitor.threadToGo, Monitor.applyStop, found]
      | some thread => simp [Monitor.threadToGo, Monitor.applyStop, found]
  | _ => exact Nat.le_refl _

theorem stop_callers (caller : StopCaller) (point : StopPoint) :
    (state.applyStop caller point).callers = state.callers := by
  cases point with
  | _ => rfl

/-- A step of `stop_monitor` returns or goes on to a later point. -/
theorem stop_goesOn {caller : StopCaller} {point : StopPoint}
    (sound : state.Sound) (stands : state.controller = .stop caller point) :
    (state.applyStop caller point).StopReturned caller ∨
      ∃ next, (state.applyStop caller point).controller =
        .stop caller next ∧ next.toGo < point.toGo := by
  have stage : state.footing.StopStage caller point := sound.stage_at stands
  cases point with
  | check =>
      simp only [Monitor.applyStop]
      split
      · rename_i idle
        refine .inl ⟨rfl, ?_⟩
        cases caller with
        | unwind => exact absurd (idle.1.symm.trans stage.1) (by decide)
        | user => exact Footing.Settled.stopped stage idle.1
        | restart handlers => exact Footing.Settled.stopped stage idle.1
      · exact .inr ⟨.storeStopping, rfl, by decide⟩
  | storeStopping =>
      simp only [Monitor.applyStop]
      split
      · exact .inr ⟨.requestStop, rfl, by decide⟩
      · exact .inr ⟨.closeNetlink, rfl, by decide⟩
  | requestStop => exact .inr ⟨.runCallback, rfl, by decide⟩
  | runCallback => exact .inr ⟨.join, rfl, by decide⟩
  | join => exact .inr ⟨.closeNetlink, rfl, by decide⟩
  | closeNetlink => exact .inr ⟨.closeWake, rfl, by decide⟩
  | closeWake => exact .inr ⟨.clearHandlers, rfl, by decide⟩
  | clearHandlers => exact .inr ⟨.storeStopped, rfl, by decide⟩
  | storeStopped => exact .inl ⟨rfl, Footing.Unwinding.stopped stage⟩

/-- A call of `stop_monitor` in progress. -/
structure Monitor.Stopping (caller : StopCaller) (bound : Nat)
    (state : Monitor) : Prop where
  reached : monitorMachine.Reachable state
  called : ∃ point, state.controller = .stop caller point
  below : state.CallersBelow bound

namespace Monitor.Stopping

variable {caller : StopCaller} {bound : Nat}
  (stopping : state.Stopping caller bound)
include stopping

/-- A caller which is not idle is counted. -/
theorem inside {other : Nat} (busy : state.callers other ≠ .idle) :
    other < bound := by
  apply Nat.lt_of_not_le
  intro beyond
  exact busy (stopping.below other beyond)

/-- The step of a caller which goes on. -/
theorem callers_advance {other : Nat} {now : RefreshCaller}
    (reached : monitorMachine.Reachable target)
    (sameController : target.controller = state.controller)
    (sameThread : target.thread = state.thread)
    (moved : target.callers = Function.update state.callers other now)
    (less : now.toGo < (state.callers other).toGo) :
    target.Stopping caller bound ∧
      target.toGo bound < state.toGo bound := by
  have inside : other < bound := by
    apply stopping.inside
    intro idle
    rw [idle] at less
    exact absurd less (Nat.not_lt_zero _)
  constructor
  · refine ⟨reached, ?_, ?_⟩
    · rw [sameController]
      exact stopping.called
    · intro another beyond
      rw [moved, Function.update_of_ne (by omega)]
      exact stopping.below another beyond
  · have fewer := callersToGo_update inside less
    simp only [Monitor.toGo, Monitor.threadToGo, sameController, sameThread,
      moved]
    omega

theorem advance (permitted : state.windsDown label)
    (stepped : monitorMachine.step state label = some target) :
    target.StopReturned caller ∨
      target.Stopping caller bound ∧
        target.toGo bound < state.toGo bound := by
  have reached : monitorMachine.Reachable target :=
    .next stopping.reached trivial stepped
  have sound := sound_reachable stopping.reached
  obtain ⟨point, called⟩ := stopping.called
  cases Monitor.moves_of_step stepped with
  | @stop other stood stands _ =>
      cases called.symm.trans stands
      rcases stop_goesOn sound called with returned | ⟨next, goesOn, less⟩
      · exact .inl returned
      · refine .inr ⟨⟨reached, ⟨next, goesOn⟩, ?_⟩, ?_⟩
        · intro another beyond
          rw [stop_callers]
          exact stopping.below another beyond
        · have thread := stop_threadToGo state caller point
          simp only [Monitor.toGo, goesOn, called, stop_callers,
            Controller.stopToGo]
          omega
  | @loop action thread found isEnabled =>
      obtain ⟨down, stop⟩ := stopRequested_thread sound
        (joins_reachable stopping.reached) permitted.1
      rw [found] at stop
      have less : (action.move state.debounce state.resources state.signals
          thread).point.toGo < thread.point.toGo :=
        loop_toGo stop (by rw [down]; decide) isEnabled
      refine .inr ⟨⟨reached, ⟨point, called⟩, stopping.below⟩, ?_⟩
      simp only [Monitor.toGo, Monitor.threadToGo, Monitor.applyLoop, found,
        Option.elim_some]
      omega
  | storeDirty stands =>
      refine .inr (stopping.callers_advance reached rfl rfl rfl ?_)
      rw [stands]
      exact show 1 < 2 by decide
  | wakeMonitor stands =>
      refine .inr (stopping.callers_advance reached rfl rfl rfl ?_)
      rw [stands]
      exact show 0 < 1 by decide
  | @refresh other stood action stands isEnabled =>
      refine .inr (stopping.callers_advance reached rfl rfl rfl ?_)
      have less : (action.next state.resources state.signals).elim 0
          RefreshPoint.toGo < stood.toGo := refresh_toGo isEnabled
      rw [stands]
      split
      · rename_i next goesOn
        rw [goesOn] at less
        exact less
      · rename_i ended
        rw [ended] at less
        exact less
  | _ => exact absurd permitted id

end Monitor.Stopping

/-- The loop can go on, or waits for the mutex. -/
theorem exists_undisturbed {signals : Signals} {thread : LoopThread}
    (stop : thread.stop = true) (unfinished : thread.point ≠ .finished)
    (woken : ∀ timeoutMs, thread.point = .polling timeoutMs →
      0 < signals.counter) :
    (∃ action : LoopAction, action.undisturbed = true ∧
      action.enabled signals thread = true) ∨
    signals.refreshLocked = true := by
  have goesOn : ∀ action : LoopAction, action.undisturbed = true →
      action.enabled signals thread = true →
      (∃ action : LoopAction, action.undisturbed = true ∧
        action.enabled signals thread = true) ∨
      signals.refreshLocked = true :=
    fun action undisturbed isEnabled => .inl ⟨action, undisturbed, isEnabled⟩
  cases point : thread.point with
  | finished => exact absurd point unfinished
  | polling timeoutMs =>
      apply goesOn (.pollReturns timeoutMs { noEvents with wake := true }) rfl
      simp [LoopAction.enabled, point, Readiness.any, Readiness.holds,
        noEvents, woken timeoutMs point]
  | entering =>
      exact goesOn .registerCallback rfl (by simp [LoopAction.enabled, point])
  | head =>
      exact goesOn .exit rfl (by simp [LoopAction.enabled, point, stop])
  | polled =>
      exact goesOn .exit rfl (by simp [LoopAction.enabled, point, stop])
  | draining =>
      exact goesOn .readWake rfl (by simp [LoopAction.enabled, point])
  | drained =>
      exact goesOn .testRunning rfl (by simp [LoopAction.enabled, point])
  | exchanging =>
      exact goesOn .exchangeDirty rfl (by simp [LoopAction.enabled, point])
  | taken =>
      exact goesOn (.scheduleDirty 0) rfl
        (by simp [LoopAction.enabled, point])
  | testingNetlink =>
      exact goesOn .testNetlink rfl (by simp [LoopAction.enabled, point])
  | checkingStatus changed =>
      exact goesOn (.checkStatus changed) rfl
        (by simp [LoopAction.enabled, point])
  | receiving changed =>
      exact goesOn (.receive changed) rfl
        (by simp [LoopAction.enabled, point])
  | received changed =>
      exact goesOn (.finishReceiving changed 0) rfl
        (by simp [LoopAction.enabled, point])
  | testingDeadline =>
      exact goesOn (.testDeadline 0) rfl
        (by simp [LoopAction.enabled, point])
  | failing error =>
      exact goesOn (.compareExchange error) rfl
        (by simp [LoopAction.enabled, point])
  | notifying error =>
      exact goesOn (.copyFailureHandler error) rfl
        (by simp [LoopAction.enabled, point])
  | calling handler error =>
      exact goesOn (.callFailureHandler handler error) rfl
        (by simp [LoopAction.enabled, point])
  | refreshing phase =>
      cases phase with
      | locking =>
          cases locked : signals.refreshLocked with
          | true => exact .inr rfl
          | false =>
              rw [← locked]
              exact goesOn (.refresh .locking .lock) rfl (by
                simp [LoopAction.enabled, RefreshAction.enabled, point,
                  locked])
      | reading =>
          exact goesOn (.refresh .reading .abort) rfl (by
            simp [LoopAction.enabled, RefreshAction.enabled, point])
      | notifying snapshot =>
          exact goesOn (.refresh (.notifying snapshot)
            (.copyHandler snapshot)) rfl (by
              simp [LoopAction.enabled, RefreshAction.enabled, point])
      | calling handler snapshot =>
          exact goesOn (.refresh (.calling handler snapshot)
            (.call handler snapshot)) rfl (by
              simp [LoopAction.enabled, RefreshAction.enabled, point])

theorem step_of_enabled (isEnabled : state.enabled label = true) :
    monitorMachine.step state label = some (state.apply label) := by
  simp [monitorMachine, Machine.guarded, isEnabled]

/-- A mutex which is held will be released. -/
theorem holder_proceeds (held : state.Held)
    (requested : state.controller.stopRequested = true)
    (locked : state.signals.refreshLocked = true) :
    ∃ label, state.windsDown label ∧ state.enabled label = true := by
  rcases held locked with ⟨thread, found, reading⟩ | ⟨caller, reading⟩
  · refine ⟨.loop (.refresh .reading .abort), ⟨requested, rfl⟩, ?_⟩
    simp [Monitor.enabled, found, LoopAction.enabled, reading,
      RefreshAction.enabled]
  · refine ⟨.refresh caller .reading .abort, trivial, ?_⟩
    simp [Monitor.enabled, reading, RefreshAction.enabled]

theorem join_proceeds {caller : StopCaller}
    (reached : monitorMachine.Reachable state)
    (stands : state.controller = .stop caller .join) :
    ∃ label, state.windsDown label ∧ state.enabled label = true := by
  have requested : state.controller.stopRequested = true := by
    rw [stands]
    rfl
  have threaded := joins_reachable reached caller .join stands
  simp only [StopPoint.Threaded, Option.any_eq_true] at threaded
  obtain ⟨thread, found, stop⟩ := threaded
  by_cases finished : thread.point = .finished
  · refine ⟨.stop caller .join, trivial, ?_⟩
    simp [Monitor.enabled, stands, found, finished]
  · have woken : ∀ timeoutMs, thread.point = .polling timeoutMs →
        0 < state.signals.counter := by
      intro timeoutMs polling
      apply ((wakes_reachable reached).woken thread found stop timeoutMs
        polling).resolve_right
      rintro ⟨⟨other, running⟩, _⟩
      cases stands.symm.trans running
    rcases exists_undisturbed stop finished woken with
      ⟨action, undisturbed, isEnabled⟩ | locked
    · refine ⟨.loop action, ⟨requested, undisturbed⟩, ?_⟩
      simp [Monitor.enabled, found, isEnabled]
    · exact holder_proceeds (held_reachable reached) requested locked

theorem stopping_proceeds {caller : StopCaller} {bound : Nat}
    (stopping : state.Stopping caller bound) :
    ∃ label target, state.windsDown label ∧
      monitorMachine.step state label = some target := by
  have found : ∃ label, state.windsDown label ∧
      state.enabled label = true := by
    obtain ⟨point, stands⟩ := stopping.called
    by_cases joins : point = .join
    · subst joins
      exact join_proceeds stopping.reached stands
    · refine ⟨.stop caller point, trivial, ?_⟩
      simp [Monitor.enabled, stands, joins]
  obtain ⟨label, permitted, isEnabled⟩ := found
  exact ⟨label, state.apply label, permitted, step_of_enabled isEnabled⟩

/-- From wherever `stop_monitor` is and wherever the loop was caught: every
run in which what has begun goes on comes to the return of the call. -/
theorem stop_returns {caller : StopCaller} {point : StopPoint}
    (reached : monitorMachine.Reachable state)
    (called : state.controller = .stop caller point) :
    monitorMachine.Inevitable Monitor.windsDown
      (Monitor.StopReturned caller) state := by
  obtain ⟨bound, below⟩ := exists_callersBelow reached
  refine Machine.Inevitable.of_steps (Monitor.Stopping caller bound)
    (Monitor.toGo bound) ?_ ?_ ⟨reached, ⟨point, called⟩, below⟩
  · intro state stopping _
    exact stopping_proceeds stopping
  · intro state label target stopping _ permitted stepped
    exact stopping.advance permitted stepped

/-- The loop polls without a timeout. -/
theorem stop_returns_polling :
    monitorMachine.Inevitable Monitor.windsDown
      (Monitor.StopReturned .user) stoppingMonitor :=
  stop_returns (Machine.reachable_finish (constructed_initial 150)
    stopWhilePolling_enabled)
    (by decide : _ = Controller.stop .user .join)

end LibbpfControl.NicCheck
