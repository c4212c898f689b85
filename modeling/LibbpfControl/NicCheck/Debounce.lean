import Mathlib.Data.Prod.Lex
import Mathlib.Tactic.Ring
import LibbpfControl.Liveness
import LibbpfControl.NicCheck.StopWake
import LibbpfControl.NicCheck.RefreshTriggers

/-!
# The debounce of the monitor

Reading the interfaces is expensive and changes come in bursts, so the loop
does not refresh at once.  Each trigger which it takes moves the deadline to
`debounce_` after the present, and a refresh begins when a reading of the
clock is not before the deadline.

The runs here are those in which the readings of the clock increase.  Two
things are shown of them.  However many triggers arrive, refreshes are
`debounce_` apart on the average of every part of a run.  And once no more
triggers arrive the refresh begins, whatever `poll` reports: the timeout never
becomes negative, as long as the milliseconds of `debounce_` fit into an
`int`.

Readings, deadlines and `debounce_` are integers without a bound.  The source
has 64-bit numbers, of nanoseconds for the clock and of milliseconds for
`debounce_`; a deadline agrees with the one here as long as the reading and
`debounce_` together stay below 2^63 nanoseconds, some 292 years of uptime.
-/

namespace LibbpfControl.NicCheck

/-- The clock readings of the loop. -/
def MonitorStep.reading : MonitorStep → Option Int
  | .loop (.enterPoll now) => some now
  | .loop (.scheduleDirty now) => some now
  | .loop (.finishReceiving _ now) => some now
  | .loop (.testDeadline now) => some now
  | _ => none

def clockedMonitor : Machine (Monitor × Int) MonitorStep :=
  monitorMachine.clocked MonitorStep.reading

/-- `debounce_` in the unit of the clock. -/
def Monitor.period (state : Monitor) : Int :=
  state.debounce * LoopThread.nanosPerMilli

/-- The refreshes which the loop has begun. -/
def Monitor.refreshes (state : Monitor) : Nat :=
  state.signals.log.refreshes

/-- What a step does to the deadline and to the count of refreshes. -/
inductive Monitor.Paces (state : Monitor) (label : MonitorStep)
    (target : Monitor) : Prop where
  | keeps (counted : target.refreshes = state.refreshes)
      (armed : ∀ after, target.thread = some after → after.pending = true →
        ∃ before, state.thread = some before ∧ before.pending = true ∧
          before.deadline = after.deadline)
  | schedules {now : Int} (reads : label.reading = some now)
      (counted : target.refreshes = state.refreshes)
      (armed : ∀ after, target.thread = some after →
        after.deadline = now + state.period)
  | begins {now : Int} {before : LoopThread}
      (reads : label.reading = some now)
      (found : state.thread = some before) (pending : before.pending = true)
      (due : before.deadline ≤ now)
      (counted : target.refreshes = state.refreshes + 1)
      (idle : ∀ after, target.thread = some after → after.pending = false)

/-- The actions which neither move the deadline nor test it. -/
def LoopAction.timeless : LoopAction → Bool
  | .scheduleDirty _ => false
  | .finishReceiving _ _ => false
  | .testDeadline _ => false
  | _ => true

section Pace

variable {resources : Resources} {signals : Signals} {thread : LoopThread}
  {action : LoopAction}

theorem move_timeless (debounce : Int) (resources : Resources)
    (signals : Signals) (thread : LoopThread)
    (timeless : action.timeless = true) :
    (action.move debounce resources signals thread).pending =
        thread.pending ∧
      (action.move debounce resources signals thread).deadline =
        thread.deadline := by
  cases action with
  | scheduleDirty now => cases timeless
  | finishReceiving changed now => cases timeless
  | testDeadline now => cases timeless
  | compareExchange error =>
      simp only [LoopAction.move]
      split
      · exact ⟨rfl, rfl⟩
      · exact ⟨rfl, rfl⟩
  | copyFailureHandler error =>
      simp only [LoopAction.move]
      split
      · exact ⟨rfl, rfl⟩
      · exact ⟨rfl, rfl⟩
  | _ => exact ⟨rfl, rfl⟩

theorem refresh_refreshes (action : RefreshAction) (signals : Signals) :
    (action.apply signals).log.refreshes = signals.log.refreshes := by
  cases action with
  | _ => rfl

theorem apply_timeless (resources : Resources) (signals : Signals)
    (thread : LoopThread) (timeless : action.timeless = true) :
    (action.apply resources signals thread).log.refreshes =
      signals.log.refreshes := by
  cases action with
  | testDeadline now => cases timeless
  | registerCallback =>
      simp only [LoopAction.apply]
      split
      · rw [Signals.wake_log]
      · rfl
  | refresh point action => exact refresh_refreshes action signals
  | compareExchange error =>
      simp only [LoopAction.apply]
      split
      · rfl
      · rfl
  | _ => rfl

end Pace

namespace Monitor

variable {state target : Monitor} {label : MonitorStep}

theorem paces_timeless {action : LoopAction} {thread : LoopThread}
    (found : state.thread = some thread) (timeless : action.timeless = true) :
    state.Paces label (state.applyLoop action thread) := by
  obtain ⟨samePending, sameDeadline⟩ := move_timeless state.debounce
    state.resources state.signals thread timeless
  refine .keeps (apply_timeless _ _ _ timeless) ?_
  rintro after moved pending
  cases moved
  rw [samePending] at pending
  exact ⟨thread, found, pending, sameDeadline.symm⟩

theorem paces_loop {action : LoopAction} {thread : LoopThread}
    (found : state.thread = some thread) :
    state.Paces (.loop action) (state.applyLoop action thread) := by
  cases action with
  | scheduleDirty now =>
      refine .schedules rfl rfl ?_
      rintro after moved
      cases moved
      rfl
  | finishReceiving changed now =>
      cases changed with
      | true =>
          refine .schedules rfl rfl ?_
          rintro after moved
          cases moved
          rfl
      | false =>
          refine .keeps rfl ?_
          rintro after moved pending
          cases moved
          exact ⟨thread, found, pending, rfl⟩
  | testDeadline now =>
      cases due : thread.pending && decide (thread.deadline ≤ now) with
      | true =>
          obtain ⟨pending, passed⟩ := Bool.and_eq_true_iff.mp due
          refine .begins rfl found pending (of_decide_eq_true passed) ?_ ?_
          · simp only [refreshes, applyLoop, LoopAction.apply, due, if_true]
          · rintro after moved
            cases moved
            simp only [LoopAction.move, due, if_true]
      | false =>
          refine .keeps ?_ ?_
          · simp only [refreshes, applyLoop, LoopAction.apply, due,
              Bool.false_eq_true, if_false]
          · rintro after moved pending
            cases moved
            simp only [LoopAction.move, due, Bool.false_eq_true, if_false]
              at pending
            refine ⟨thread, found, pending, ?_⟩
            simp only [LoopAction.move, due, Bool.false_eq_true, if_false]
  | _ => exact paces_timeless found rfl

end Monitor

/-- Steps of other threads keep the thread where it is, end it, or start a new
one. -/
structure Monitor.Outside (state target : Monitor) : Prop where
  counted : target.refreshes = state.refreshes
  thread : ∀ after, target.thread = some after →
    (∃ onFailure, after = .start onFailure) ∨
      ∃ before, state.thread = some before ∧
        before.pending = after.pending ∧
        before.deadline = after.deadline ∧ before.point = after.point

namespace Monitor

variable {state target : Monitor} {label : MonitorStep}

theorem outside_same (counted : target.refreshes = state.refreshes)
    (threads : target.thread = state.thread) : state.Outside target where
  counted := counted
  thread after found := .inr ⟨after, threads ▸ found, rfl, rfl, rfl⟩

theorem outside_start (handlers : Handlers) (succeeds : Bool)
    (point : StartPoint) :
    state.Outside (state.applyStart handlers succeeds point) := by
  cases point with
  | openEventfd =>
      cases succeeds with
      | true => exact outside_same rfl rfl
      | false => exact outside_same rfl rfl
  | openSocket =>
      cases succeeds with
      | true => exact outside_same rfl rfl
      | false => exact outside_same rfl rfl
  | wake =>
      apply outside_same
      · simp only [refreshes, applyStart, Signals.wake_log]
      · rfl
  | createThread =>
      cases succeeds with
      | true =>
          refine ⟨rfl, ?_⟩
          rintro after ⟨⟩
          exact .inl ⟨_, rfl⟩
      | false => exact outside_same rfl rfl
  | _ => exact outside_same rfl rfl

theorem outside_stop (caller : StopCaller) (point : StopPoint) :
    state.Outside (state.applyStop caller point) := by
  cases point with
  | requestStop =>
      refine ⟨rfl, ?_⟩
      intro after found
      obtain ⟨before, there, rfl⟩ := Option.map_eq_some_iff.mp found
      exact .inr ⟨before, there, rfl, rfl, rfl⟩
  | runCallback =>
      apply outside_same
      · simp only [refreshes, applyStop]
        split
        · rw [Signals.wake_log]
        · rfl
      · rfl
  | join =>
      refine ⟨rfl, ?_⟩
      rintro after ⟨⟩
  | _ => exact outside_same rfl rfl

/-- A step is one of the loop or one outside it. -/
theorem loop_or_outside (moves : state.Moves label target) :
    (∃ action thread, label = .loop action ∧ state.thread = some thread ∧
        action.enabled state.signals thread = true ∧
        target = state.applyLoop action thread) ∨
      state.Outside target := by
  cases moves with
  | start stands => exact .inr (outside_start _ _ _)
  | stop stands joinable => exact .inr (outside_stop _ _)
  | loop found isEnabled => exact .inl ⟨_, _, rfl, found, isEnabled, rfl⟩
  | wakeMonitor stands =>
      refine .inr (outside_same ?_ rfl)
      simp only [refreshes, apply, Signals.wake_log]
  | refresh stands isEnabled =>
      exact .inr (outside_same (refresh_refreshes _ _) rfl)
  | overrun isOpen =>
      refine .inr ⟨rfl, ?_⟩
      intro after found
      obtain ⟨before, there, rfl⟩ := Option.map_eq_some_iff.mp found
      exact .inr ⟨before, there, rfl, rfl, rfl⟩
  | _ => exact .inr (outside_same rfl rfl)

theorem paces_of_moves (moves : state.Moves label target) :
    state.Paces label target := by
  rcases loop_or_outside moves with
    ⟨action, thread, rfl, found, _, rfl⟩ | outside
  · exact paces_loop found
  · refine .keeps outside.counted ?_
    intro after found pending
    rcases outside.thread after found with
      ⟨onFailure, rfl⟩ | ⟨before, there, samePending, same, _⟩
    · cases pending
    · exact ⟨before, there, samePending.trans pending, same⟩

theorem debounce_of_moves (moves : state.Moves label target) :
    target.debounce = state.debounce := by
  cases moves with
  | @start handlers point succeeds stands =>
      cases point with
      | openEventfd => cases succeeds <;> rfl
      | openSocket => cases succeeds <;> rfl
      | createThread => cases succeeds <;> rfl
      | _ => rfl
  | @stop caller point stands joinable =>
      cases point with
      | _ => rfl
  | _ => rfl

end Monitor

/-- The refreshes since the start of a part of a run. -/
def refreshesSince (start timed : Monitor × Int) : Int :=
  timed.1.refreshes - start.1.refreshes

structure Spaced (start timed : Monitor × Int) : Prop where
  debounce : timed.1.debounce = start.1.debounce
  later : start.2 ≤ timed.2
  spaced : refreshesSince start timed * start.1.period ≤
    timed.2 - start.2 + start.1.period
  /-- A refresh which begins at the deadline keeps the distance. -/
  armed : ∀ thread, timed.1.thread = some thread → thread.pending = true →
    refreshesSince start timed * start.1.period ≤
      max thread.deadline start.2 - start.2

theorem spaced_step {start timed target : Monitor × Int}
    {label : MonitorStep} (spaced : Spaced start timed)
    (stepped : clockedMonitor.step timed label = some target) :
    Spaced start target := by
  have moves := Monitor.moves_of_step (Machine.clocked_step stepped).1
  obtain ⟨passes, isNow⟩ := Machine.clocked_time stepped
  have debounce : target.1.debounce = start.1.debounce :=
    (Monitor.debounce_of_moves moves).trans spaced.debounce
  have later := spaced.later
  have before := spaced.spaced
  cases Monitor.paces_of_moves moves with
  | keeps counted armed =>
      have since : refreshesSince start target =
          refreshesSince start timed := by
        rw [refreshesSince, counted, refreshesSince]
      refine ⟨debounce, by omega, ?_, ?_⟩
      · rw [since]
        omega
      · intro thread found pending
        obtain ⟨old, there, wasPending, same⟩ := armed thread found pending
        rw [since, ← same]
        exact spaced.armed old there wasPending
  | @schedules now reads counted armed =>
      have since : refreshesSince start target =
          refreshesSince start timed := by
        rw [refreshesSince, counted, refreshesSince]
      have period : timed.1.period = start.1.period := by
        rw [Monitor.period, spaced.debounce, Monitor.period]
      have atNow := isNow now reads
      refine ⟨debounce, by omega, ?_, ?_⟩
      · rw [since]
        omega
      · intro thread found pending
        rw [since, armed thread found, period]
        omega
  | @begins now old reads found pending due counted idle =>
      have since : refreshesSince start target =
          refreshesSince start timed + 1 := by
        rw [refreshesSince, counted, refreshesSince]
        omega
      have more : refreshesSince start target * start.1.period =
          refreshesSince start timed * start.1.period +
            start.1.period := by
        rw [since]
        ring
      have distance := spaced.armed old found pending
      have atNow := isNow now reads
      refine ⟨debounce, by omega, ?_, ?_⟩
      · rw [more]
        omega
      · intro thread there isPending
        rw [idle thread there] at isPending
        cases isPending

/-- In every part of a run, from any state on, the loop begins at most one
refresh more than whole periods of `debounce_` have passed, however many
changes and requests arrive and however often the monitor is restarted. -/
theorem refreshes_spaced {start timed : Monitor × Int}
    (positive : 0 ≤ start.1.debounce)
    (window : (clockedMonitor.startingAt start).Reachable timed) :
    refreshesSince start timed * start.1.period ≤
      timed.2 - start.2 + start.1.period := by
  have period : 0 ≤ start.1.period :=
    Int.mul_nonneg positive (by decide)
  have spaced : Spaced start timed := by
    apply window.invariant
    · intro state begins
      have none : refreshesSince start start = 0 := Int.sub_self _
      rw [show state = start from begins]
      refine ⟨rfl, le_refl _, ?_, ?_⟩
      · rw [none]
        omega
      · intro thread _ _
        rw [none]
        omega
    · intro before label after holds stepped
      exact spaced_step holds stepped
  exact spaced.spaced

/-- The first trigger of a start is taken, and nothing is read yet. -/
def takenSteps : List MonitorStep :=
  firstStart ++
    ([.registerCallback, .enterPoll 1,
      .pollReturns (-1) { noEvents with wake := true }, .testWake, .readWake,
      .testRunning, .readWake, .exchangeDirty, .scheduleDirty 2, .testNetlink,
      .testDeadline 3] : List LoopAction).map .loop

theorem takenSteps_enabled :
    (clockedMonitor.runWhere (fun _ _ => True) (.constructed 150, 0)
      takenSteps).isSome = true := by
  decide +kernel

def takenMonitor : Monitor × Int :=
  clockedMonitor.finish (.constructed 150, 0) takenSteps takenSteps_enabled

/-- One period after the trigger the refresh begins. -/
def begunSteps : List MonitorStep :=
  ([.enterPoll 4, .pollReturns 149 noEvents, .testWake, .testNetlink,
    .testDeadline 150000002] : List LoopAction).map .loop

theorem begunSteps_enabled :
    ((clockedMonitor.startingAt takenMonitor).runWhere (fun _ _ => True)
      takenMonitor begunSteps).isSome = true := by
  decide +kernel

def begunMonitor : Monitor × Int :=
  (clockedMonitor.startingAt takenMonitor).finish takenMonitor begunSteps
    begunSteps_enabled

theorem refreshes_spaced_begun :
    refreshesSince takenMonitor begunMonitor * takenMonitor.1.period ≤
        begunMonitor.2 - takenMonitor.2 + takenMonitor.1.period ∧
      refreshesSince takenMonitor begunMonitor = 1 := by
  have window : (clockedMonitor.startingAt takenMonitor).Reachable
      begunMonitor := Machine.reachable_finish rfl begunSteps_enabled
  exact ⟨refreshes_spaced (by decide +kernel) window, by decide +kernel⟩

/-- The deadline is at most one period away. -/
def Near (timed : Monitor × Int) : Prop :=
  ∀ thread, timed.1.thread = some thread → thread.pending = true →
    thread.deadline ≤ timed.2 + timed.1.period

theorem near_step {timed target : Monitor × Int} {label : MonitorStep}
    (near : Near timed)
    (stepped : clockedMonitor.step timed label = some target) :
    Near target := by
  have moves := Monitor.moves_of_step (Machine.clocked_step stepped).1
  obtain ⟨passes, isNow⟩ := Machine.clocked_time stepped
  have period : target.1.period = timed.1.period := by
    rw [Monitor.period, Monitor.debounce_of_moves moves, Monitor.period]
  intro thread found pending
  rw [period]
  cases Monitor.paces_of_moves moves with
  | keeps counted armed =>
      obtain ⟨before, there, wasPending, same⟩ := armed thread found pending
      have bound := near before there wasPending
      omega
  | schedules reads counted armed =>
      rw [armed thread found, isNow _ reads]
  | begins reads _ _ due counted idle =>
      rw [idle thread found] at pending
      cases pending

theorem timeoutMs_nonneg {thread : LoopThread} {now debounce : Int}
    (pending : thread.pending = true) (fits : debounce < 2 ^ 31)
    (near : thread.deadline ≤ now + debounce * LoopThread.nanosPerMilli) :
    0 ≤ thread.timeoutMs now := by
  rw [LoopThread.timeoutMs, if_pos pending]
  split
  · decide
  · rename_i ahead
    have units : LoopThread.nanosPerMilli = 1000000 := rfl
    rw [units] at near ⊢
    have quotient : (thread.deadline - now).tdiv 1000000 =
        (thread.deadline - now) / 1000000 :=
      Int.tdiv_eq_ediv_of_nonneg (by omega)
    rw [quotient, Int32.le_iff_toInt_le, Int32.toInt_ofInt_of_le]
    · have zero : (0 : Int32).toInt = 0 := rfl
      omega
    · omega
    · omega

/-- A pending refresh bounds the timeout of `poll`. -/
def TimesOut (state : Monitor) : Prop :=
  ∀ thread, state.thread = some thread → thread.pending = true →
    ∀ timeoutMs, thread.point = .polling timeoutMs → 0 ≤ timeoutMs

theorem timesOut_step {timed target : Monitor × Int} {label : MonitorStep}
    (fits : timed.1.debounce < 2 ^ 31) (near : Near timed)
    (timesOut : TimesOut timed.1)
    (stepped : clockedMonitor.step timed label = some target) :
    TimesOut target.1 := by
  have moves := Monitor.moves_of_step (Machine.clocked_step stepped).1
  obtain ⟨passes, isNow⟩ := Machine.clocked_time stepped
  intro thread found pending timeoutMs polling
  rcases Monitor.loop_or_outside moves with
    ⟨action, before, rfl, there, _, applied⟩ | outside
  · rw [applied] at found
    cases found
    obtain ⟨now, rfl⟩ := enterPoll_of_polling polling
    cases polling
    have bound := near before there pending
    have atNow := isNow now rfl
    rw [Monitor.period] at bound
    exact timeoutMs_nonneg pending fits (by omega)
  · rcases outside.thread thread found with
      ⟨onFailure, rfl⟩ | ⟨before, there, samePending, _, samePoint⟩
    · cases pending
    · exact timesOut before there (samePending.trans pending) timeoutMs
        (samePoint.trans polling)

theorem near_reachable {timed : Monitor × Int}
    (reached : clockedMonitor.Reachable timed) : Near timed := by
  apply reached.invariant
  · rintro state ⟨debounce, constructed⟩ thread found
    rw [constructed] at found
    cases found
  · intro before label after near stepped
    exact near_step near stepped

theorem timesOut_reachable {timed : Monitor × Int}
    (reached : clockedMonitor.Reachable timed) :
    timed.1.debounce < 2 ^ 31 → TimesOut timed.1 := by
  apply reached.invariant_with fun _ => near_reachable
  · rintro state ⟨debounce, constructed⟩ _ thread found
    rw [constructed] at found
    cases found
  · intro before label after near timesOut stepped fits
    have moves := Monitor.moves_of_step (Machine.clocked_step stepped).1
    rw [Monitor.debounce_of_moves moves] at fits
    exact timesOut_step fits near (timesOut fits) stepped

/-- The points from the condition of the loop to the test of the deadline. -/
def LoopPoint.looping : LoopPoint → Bool
  | .entering => false
  | .refreshing _ => false
  | .failing _ => false
  | .notifying _ => false
  | .calling _ _ => false
  | .finished => false
  | _ => true

/-- The loop has a refresh to begin, and nothing makes it leave. -/
structure LoopThread.Waits (signals : Signals) (thread : LoopThread) :
    Prop where
  looping : thread.point.looping = true
  running : thread.stop = false
  pending : thread.pending = true
  noError : thread.ready.netlinkError = false
  notOverrun : signals.socket.overrun = false
  notBroken : signals.socket.broken = false

/-- The call of the action is neither interrupted nor makes the loop fail. -/
def LoopAction.returns : LoopAction → Bool
  | .pollInterrupted _ => false
  | .pollFails _ => false
  | .receiveInterrupted _ => false
  | _ => true

/-- What is left which moves the deadline or keeps the loop in a drain. -/
def LoopThread.stock (signals : Signals) (thread : LoopThread) : Nat :=
  2 * signals.dirty.toNat + 2 * signals.socket.queue.length +
    thread.point.holdsTrigger.toNat + (if 0 < signals.counter then 1 else 0)

/-- How much of a round is left.  A round which begins after the deadline is
the last one. -/
def LoopPoint.rank (overdue : Bool) : LoopPoint → Nat
  | .head => if overdue then 21 else 8
  | .polling _ => 20
  | .polled => 19
  | .drained => 18
  | .draining => 17
  | .exchanging => 16
  | .taken => 15
  | .testingNetlink => 14
  | .checkingStatus _ => 13
  | .receiving _ => 12
  | .received _ => 11
  | .testingDeadline => 10
  | .entering => 0
  | .refreshing _ => 0
  | .failing _ => 0
  | .notifying _ => 0
  | .calling _ _ => 0
  | .finished => 0

/-- Triggers come first, then time, then the points of a round. -/
def LoopThread.standing (signals : Signals) (thread : LoopThread)
    (time : Int) : Nat ×ₗ Nat ×ₗ Nat :=
  toLex (thread.stock signals,
    toLex ((thread.deadline - time).toNat,
      thread.point.rank (decide (thread.deadline ≤ time))))

section Standing

variable {signals later : Signals} {before after : LoopThread}
  {time now : Int}

theorem standing_of_stock (less : after.stock later < before.stock signals) :
    after.standing later now < before.standing signals time := by
  rw [LoopThread.standing, LoopThread.standing, Prod.Lex.toLex_lt_toLex]
  exact .inl less

theorem standing_of_time (stock : after.stock later ≤ before.stock signals)
    (less : (after.deadline - now).toNat <
      (before.deadline - time).toNat) :
    after.standing later now < before.standing signals time := by
  rw [LoopThread.standing, LoopThread.standing, Prod.Lex.toLex_lt_toLex]
  rcases Nat.lt_or_eq_of_le stock with fewer | same
  · exact .inl fewer
  · exact .inr ⟨same, Prod.Lex.toLex_lt_toLex.mpr (.inl less)⟩

theorem standing_of_rank (stock : after.stock later ≤ before.stock signals)
    (left : (after.deadline - now).toNat ≤ (before.deadline - time).toNat)
    (less : after.point.rank (decide (after.deadline ≤ now)) <
      before.point.rank (decide (before.deadline ≤ time))) :
    after.standing later now < before.standing signals time := by
  rcases Nat.lt_or_eq_of_le left with sooner | same
  · exact standing_of_time stock sooner
  · rw [LoopThread.standing, LoopThread.standing, Prod.Lex.toLex_lt_toLex]
    rcases Nat.lt_or_eq_of_le stock with fewer | sameStock
    · exact .inl fewer
    · exact .inr ⟨sameStock,
        Prod.Lex.toLex_lt_toLex.mpr (.inr ⟨same, less⟩)⟩

end Standing

section Advance

variable {signals : Signals} {thread : LoopThread} {time now : Int}

/-- The loop has come closer to the refresh. -/
def LoopThread.Advances (signals : Signals) (thread : LoopThread)
    (time : Int) (later : Signals) (after : LoopThread) (now : Int) : Prop :=
  after.Waits later ∧
    after.standing later now < thread.standing signals time

/-- A later point of the same round, which holds no new trigger. -/
structure LoopPoint.LeadsTo (point next : LoopPoint) : Prop where
  looping : next.looping = true
  closer : ∀ overdue overdueBefore,
    next.rank overdue < point.rank overdueBefore
  holds : next.holdsTrigger.toNat ≤ point.holdsTrigger.toNat

theorem LoopPoint.LeadsTo.ite {point first second : LoopPoint}
    {condition : Prop} [Decidable condition] (isFirst : point.LeadsTo first)
    (isSecond : point.LeadsTo second) :
    point.LeadsTo (if condition then first else second) := by
  split
  · exact isFirst
  · exact isSecond

/-- Going on to a later point of the round. -/
theorem advances_point {point next : LoopPoint}
    (waits : thread.Waits signals) (passes : time ≤ now)
    (stands : thread.point = point) (leads : point.LeadsTo next) :
    thread.Advances signals time signals { thread with point := next }
      now := by
  constructor
  · exact ⟨leads.looping, waits.running, waits.pending, waits.noError,
      waits.notOverrun, waits.notBroken⟩
  · apply standing_of_rank
    · have holds := leads.holds
      simp only [LoopThread.stock, stands]
      omega
    · dsimp only
      omega
    · rw [stands]
      exact leads.closer _ _

theorem advances_testWake (waits : thread.Waits signals)
    (passes : time ≤ now) (stands : thread.point = .polled) :
    thread.Advances signals time signals
      { thread with
        point := if thread.ready.wake then .draining else .testingNetlink }
      now :=
  advances_point waits passes stands
    (.ite ⟨rfl, by simp [LoopPoint.rank], Nat.le_refl _⟩
      ⟨rfl, by simp [LoopPoint.rank], Nat.le_refl _⟩)

theorem advances_testRunning (waits : thread.Waits signals)
    (passes : time ≤ now) (stands : thread.point = .drained) :
    thread.Advances signals time signals
      { thread with
        point :=
          if signals.status = .running then .draining else .exchanging }
      now :=
  advances_point waits passes stands
    (.ite ⟨rfl, by simp [LoopPoint.rank], Nat.le_refl _⟩
      ⟨rfl, by simp [LoopPoint.rank], Nat.le_refl _⟩)

theorem advances_testNetlink (waits : thread.Waits signals)
    (passes : time ≤ now) (stands : thread.point = .testingNetlink) :
    thread.Advances signals time signals
      { thread with point := thread.netlinkPoint } now := by
  refine advances_point waits passes stands ?_
  rw [LoopThread.netlinkPoint, waits.noError, if_neg Bool.false_ne_true]
  exact .ite ⟨rfl, by simp [LoopPoint.rank], Nat.le_refl _⟩
    ⟨rfl, by simp [LoopPoint.rank], Nat.le_refl _⟩

theorem advances_checkStatus {changed : Bool} (waits : thread.Waits signals)
    (passes : time ≤ now) (stands : thread.point = .checkingStatus changed) :
    thread.Advances signals time signals
      { thread with
        point :=
          if signals.status = .running then .receiving changed
          else .received changed }
      now :=
  advances_point waits passes stands
    (.ite ⟨rfl, by simp [LoopPoint.rank], Nat.le_refl _⟩
      ⟨rfl, by simp [LoopPoint.rank], Nat.le_refl _⟩)

theorem advances_enterPoll (waits : thread.Waits signals)
    (stands : thread.point = .head) (later : time < now)
    (timeoutMs : Int32) :
    thread.Advances signals time signals
      { thread with point := .polling timeoutMs } now := by
  constructor
  · exact ⟨rfl, waits.running, waits.pending, waits.noError,
      waits.notOverrun, waits.notBroken⟩
  · have stock : LoopThread.stock signals
        { thread with point := .polling timeoutMs } ≤
          thread.stock signals := by
      rw [LoopThread.stock, LoopThread.stock, stands]
      exact Nat.le_refl _
    by_cases overdue : thread.deadline ≤ time
    · apply standing_of_rank stock
      · dsimp only
        omega
      · simp [stands, LoopPoint.rank, overdue]
    · apply standing_of_time stock
      dsimp only
      omega

theorem advances_pollReturns {timeoutMs : Int32} {ready : Readiness}
    (waits : thread.Waits signals)
    (stands : thread.point = .polling timeoutMs)
    (holds : ready.holds signals = true) :
    thread.Advances signals time signals
      { thread with point := .polled, ready := ready } time := by
  constructor
  · refine ⟨rfl, waits.running, waits.pending, ?_, waits.notOverrun,
      waits.notBroken⟩
    simp only [Readiness.holds, waits.notOverrun, waits.notBroken,
      Bool.or_self, Bool.or_false, Bool.and_eq_true,
      Bool.not_eq_true'] at holds
    exact holds.1.2
  · apply standing_of_rank
    · rw [LoopThread.stock, LoopThread.stock, stands]
      exact Nat.le_refl _
    · exact Nat.le_refl _
    · simp only [stands, LoopPoint.rank]
      omega

theorem advances_readWake (waits : thread.Waits signals)
    (stands : thread.point = .draining) :
    thread.Advances signals time { signals with counter := 0 }
      { thread with
        point := if 0 < signals.counter then .drained else .exchanging }
      time := by
  by_cases written : 0 < signals.counter
  · rw [if_pos written]
    constructor
    · exact ⟨rfl, waits.running, waits.pending, waits.noError,
        waits.notOverrun, waits.notBroken⟩
    · apply standing_of_stock
      simp only [LoopThread.stock, stands, LoopPoint.holdsTrigger, written,
        Nat.lt_irrefl, if_true, if_false]
      omega
  · rw [if_neg written]
    constructor
    · exact ⟨rfl, waits.running, waits.pending, waits.noError,
        waits.notOverrun, waits.notBroken⟩
    · apply standing_of_rank
      · simp only [LoopThread.stock, stands, LoopPoint.holdsTrigger, written,
          Nat.lt_irrefl, if_false]
        omega
      · exact Nat.le_refl _
      · simp only [stands, LoopPoint.rank]
        omega

theorem advances_exchangeDirty (waits : thread.Waits signals)
    (stands : thread.point = .exchanging) :
    thread.Advances signals time { signals with dirty := false }
      { thread with
        point := if signals.dirty then .taken else .testingNetlink }
      time := by
  cases dirty : signals.dirty with
  | true =>
      constructor
      · exact ⟨rfl, waits.running, waits.pending, waits.noError,
          waits.notOverrun, waits.notBroken⟩
      · apply standing_of_stock
        simp only [LoopThread.stock, stands, LoopPoint.holdsTrigger, dirty,
          if_true, Bool.toNat_true, Bool.toNat_false]
        omega
  | false =>
      constructor
      · exact ⟨rfl, waits.running, waits.pending, waits.noError,
          waits.notOverrun, waits.notBroken⟩
      · apply standing_of_rank
        · simp only [LoopThread.stock, stands, LoopPoint.holdsTrigger, dirty,
            Bool.false_eq_true, if_false]
          exact Nat.le_refl _
        · exact Nat.le_refl _
        · simp only [stands, LoopPoint.rank, Bool.false_eq_true, if_false]
          omega

/-- Assigning the deadline uses up the trigger for which it is assigned. -/
theorem advances_schedule {point : LoopPoint} (debounce : Int)
    (waits : thread.Waits signals) (looping : point.looping = true)
    (taken : thread.point.holdsTrigger = true)
    (assigned : point.holdsTrigger = false) :
    thread.Advances signals time signals
      { thread.schedule debounce now with point := point } now := by
  constructor
  · exact ⟨looping, waits.running, rfl, waits.noError, waits.notOverrun,
      waits.notBroken⟩
  · apply standing_of_stock
    simp only [LoopThread.stock, taken, assigned, Bool.toNat_true,
      Bool.toNat_false]
    omega

/-- `recvmsg` takes a datagram, or the drain is over. -/
theorem advances_receive {changed : Bool} {later : Signals}
    (waits : thread.Waits signals)
    (stands : thread.point = .receiving changed)
    (socket : later.socket = signals.socket.recvmsg.1)
    (dirty : later.dirty = signals.dirty)
    (counter : later.counter = signals.counter) :
    thread.Advances signals time later
      { thread with point := receivePoint changed signals.socket.recvmsg.2 }
      time := by
  have looping : ∀ outcome, (receivePoint changed outcome).looping =
      true := by
    intro outcome
    rw [receivePoint]
    split
    · rfl
    · rfl
  constructor
  · refine ⟨looping _, waits.running, waits.pending, waits.noError, ?_, ?_⟩
    · rw [socket]
      exact NetlinkSocket.recvmsg_overrun _
    · rw [socket, NetlinkSocket.recvmsg_broken]
      exact waits.notBroken
  · cases queue : signals.socket.queue with
    | nil =>
        have blocks : signals.socket.recvmsg =
            (signals.socket, .wouldBlock) := by
          simp [NetlinkSocket.recvmsg, waits.notOverrun, queue]
        rw [blocks]
        rw [blocks] at socket
        apply standing_of_rank
        · simp only [LoopThread.stock, socket, dirty, counter, stands]
          exact Nat.le_refl _
        · exact Nat.le_refl _
        · simp only [stands, receivePoint, ReceiveOutcome.continues,
            Bool.false_eq_true, if_false, LoopPoint.rank]
          omega
    | cons bytes rest =>
        have taken : later.socket.queue = rest := by
          rw [socket]
          simp [NetlinkSocket.recvmsg, waits.notOverrun, queue]
        apply standing_of_stock
        have atMostOne := Bool.toNat_le
          (receivePoint changed signals.socket.recvmsg.2).holdsTrigger
        simp only [LoopThread.stock, taken, queue, dirty, counter,
          List.length_cons]
        omega

/-- The test of the deadline which does not begin the refresh ends a round. -/
theorem advances_head (waits : thread.Waits signals)
    (stands : thread.point = .testingDeadline) (passes : time ≤ now)
    (early : ¬thread.deadline ≤ now) :
    thread.Advances signals time signals { thread with point := .head }
      now := by
  constructor
  · exact ⟨rfl, waits.running, waits.pending, waits.noError,
      waits.notOverrun, waits.notBroken⟩
  · apply standing_of_rank
    · rw [LoopThread.stock, LoopThread.stock, stands]
      exact Nat.le_refl _
    · dsimp only
      omega
    · simp [stands, LoopPoint.rank, early]

/-- The end of a drain uses up its trigger, if it has found one. -/
theorem advances_finishReceiving {changed : Bool} (debounce : Int)
    (waits : thread.Waits signals) (passes : time ≤ now)
    (stands : thread.point = .received changed) :
    thread.Advances signals time signals
      { (if changed then thread.schedule debounce now else thread) with
        point := .testingDeadline } now := by
  cases changed with
  | true =>
      refine advances_schedule _ waits rfl ?_ rfl
      rw [stands]
      rfl
  | false =>
      exact advances_point waits passes stands
        ⟨rfl, by simp [LoopPoint.rank], Nat.le_refl _⟩

theorem LoopThread.Waits.at {point : LoopPoint}
    (waits : thread.Waits signals) (stands : thread.point = point) :
    point.looping = true := by
  rw [← stands]
  exact waits.looping

end Advance

/-- The test of the deadline begins the refresh or ends a round. -/
theorem testDeadline_advances {state : Monitor} {thread : LoopThread}
    {time now : Int} (waits : thread.Waits state.signals)
    (passes : time ≤ now) (stands : thread.point = .testingDeadline) :
    ((LoopAction.testDeadline now).apply state.resources state.signals
        thread).log.refreshes = state.signals.log.refreshes + 1 ∨
      thread.Advances state.signals time
        ((LoopAction.testDeadline now).apply state.resources state.signals
          thread)
        ((LoopAction.testDeadline now).move state.debounce state.resources
          state.signals thread) now := by
  by_cases due : thread.deadline ≤ now
  · left
    simp [LoopAction.apply, waits.pending, due]
  · right
    have notDue : (thread.pending && decide (thread.deadline ≤ now)) =
        false := by
      simp [due]
    simp only [LoopAction.apply, LoopAction.move, notDue,
      Bool.false_eq_true, if_false]
    exact advances_head waits stands passes due

/-- Every action of a waiting loop begins the refresh or comes closer to it. -/
theorem loop_advances {state : Monitor} {thread : LoopThread}
    {action : LoopAction} {time now : Int}
    (waits : thread.Waits state.signals) (returns : action.returns = true)
    (isEnabled : action.enabled state.signals thread = true)
    (clock : (MonitorStep.loop action).reading = none ∧ now = time ∨
      (MonitorStep.loop action).reading = some now ∧ time < now) :
    (action.apply state.resources state.signals thread).log.refreshes =
        state.signals.log.refreshes + 1 ∨
      thread.Advances state.signals time
        (action.apply state.resources state.signals thread)
        (action.move state.debounce state.resources state.signals thread)
        now := by
  have passes : time ≤ now := by
    rcases clock with ⟨_, same⟩ | ⟨_, later⟩
    · omega
    · omega
  have unread (none : (MonitorStep.loop action).reading = none) :
      now = time := by
    simpa [none] using clock
  have read {reading : Int}
      (reads : (MonitorStep.loop action).reading = some reading) :
      reading = now ∧ time < now := by
    simpa [reads] using clock
  cases action with
  | registerCallback => cases waits.at (of_decide_eq_true isEnabled)
  | exit => simp [LoopAction.enabled, waits.running] at isEnabled
  | enterPoll reading =>
      obtain ⟨rfl, later⟩ := read rfl
      have stands := (Bool.and_eq_true_iff.mp isEnabled).1
      exact .inr (advances_enterPoll waits (of_decide_eq_true stands) later _)
  | pollReturns timeoutMs ready =>
      obtain rfl := unread rfl
      simp only [LoopAction.enabled, Bool.and_eq_true, decide_eq_true_eq]
        at isEnabled
      exact .inr (advances_pollReturns waits isEnabled.1.1 isEnabled.2)
  | pollInterrupted timeoutMs => cases returns
  | pollFails timeoutMs => cases returns
  | testWake =>
      have stands := (Bool.and_eq_true_iff.mp isEnabled).1
      exact .inr (advances_testWake waits passes (of_decide_eq_true stands))
  | readWake =>
      obtain rfl := unread rfl
      exact .inr (advances_readWake waits (of_decide_eq_true isEnabled))
  | testRunning =>
      exact .inr (advances_testRunning waits passes
        (of_decide_eq_true isEnabled))
  | exchangeDirty =>
      obtain rfl := unread rfl
      exact .inr (advances_exchangeDirty waits (of_decide_eq_true isEnabled))
  | scheduleDirty reading =>
      obtain ⟨rfl, _⟩ := read rfl
      have stands : thread.point = .taken := of_decide_eq_true isEnabled
      exact .inr (advances_schedule _ waits rfl (by rw [stands]; rfl) rfl)
  | testNetlink =>
      exact .inr (advances_testNetlink waits passes
        (of_decide_eq_true isEnabled))
  | checkStatus changed =>
      exact .inr (advances_checkStatus waits passes
        (of_decide_eq_true isEnabled))
  | receive changed =>
      obtain rfl := unread rfl
      exact .inr (advances_receive waits (of_decide_eq_true isEnabled) rfl
        rfl rfl)
  | receiveInterrupted changed => cases returns
  | receiveFails changed =>
      exact .inr (advances_point waits passes (of_decide_eq_true isEnabled)
        ⟨rfl, fun _ _ => Nat.lt_succ_self 11, Nat.le_refl _⟩)
  | finishReceiving changed reading =>
      obtain ⟨rfl, _⟩ := read rfl
      exact .inr (advances_finishReceiving _ waits passes
        (of_decide_eq_true isEnabled))
  | testDeadline reading =>
      obtain ⟨rfl, _⟩ := read rfl
      exact testDeadline_advances waits passes (of_decide_eq_true isEnabled)
  | refresh point action =>
      have stands := (Bool.and_eq_true_iff.mp isEnabled).1
      cases waits.at (of_decide_eq_true stands)
  | compareExchange error => cases waits.at (of_decide_eq_true isEnabled)
  | copyFailureHandler error => cases waits.at (of_decide_eq_true isEnabled)
  | callFailureHandler handler error =>
      cases waits.at (of_decide_eq_true isEnabled)

/-- A waiting loop can always go on. -/
theorem exists_loop_action {signals : Signals} {thread : LoopThread}
    (waits : thread.Waits signals)
    (timesOut : ∀ timeoutMs, thread.point = .polling timeoutMs →
      0 ≤ timeoutMs) (now : Int) :
    ∃ action : LoopAction, action.returns = true ∧
      action.enabled signals thread = true ∧
      ∀ read, (MonitorStep.loop action).reading = some read →
        read = now := by
  have looping := waits.looping
  cases point : thread.point with
  | head =>
      refine ⟨.enterPoll now, rfl, ?_, ?_⟩
      · simp [LoopAction.enabled, point, waits.running]
      · rintro read ⟨⟩
        rfl
  | polling timeoutMs =>
      refine ⟨.pollReturns timeoutMs noEvents, rfl, ?_, ?_⟩
      · simp [LoopAction.enabled, point, timesOut timeoutMs point, noEvents,
          Readiness.holds]
      · rintro read ⟨⟩
  | polled =>
      refine ⟨.testWake, rfl, ?_, ?_⟩
      · simp [LoopAction.enabled, point, waits.running]
      · rintro read ⟨⟩
  | draining =>
      exact ⟨.readWake, rfl, by simp [LoopAction.enabled, point],
        by rintro read ⟨⟩⟩
  | drained =>
      exact ⟨.testRunning, rfl, by simp [LoopAction.enabled, point],
        by rintro read ⟨⟩⟩
  | exchanging =>
      exact ⟨.exchangeDirty, rfl, by simp [LoopAction.enabled, point],
        by rintro read ⟨⟩⟩
  | taken =>
      exact ⟨.scheduleDirty now, rfl, by simp [LoopAction.enabled, point],
        by rintro read ⟨⟩; rfl⟩
  | testingNetlink =>
      exact ⟨.testNetlink, rfl, by simp [LoopAction.enabled, point],
        by rintro read ⟨⟩⟩
  | checkingStatus changed =>
      exact ⟨.checkStatus changed, rfl, by simp [LoopAction.enabled, point],
        by rintro read ⟨⟩⟩
  | receiving changed =>
      exact ⟨.receive changed, rfl, by simp [LoopAction.enabled, point],
        by rintro read ⟨⟩⟩
  | received changed =>
      exact ⟨.finishReceiving changed now, rfl,
        by simp [LoopAction.enabled, point], by rintro read ⟨⟩; rfl⟩
  | testingDeadline =>
      exact ⟨.testDeadline now, rfl, by simp [LoopAction.enabled, point],
        by rintro read ⟨⟩; rfl⟩
  | _ =>
      rw [point] at looping
      cases looping

/-- A step begins at most one refresh. -/
theorem refreshes_of_step {state target : Monitor} {label : MonitorStep}
    (stepped : monitorMachine.step state label = some target) :
    target.refreshes = state.refreshes ∨
      target.refreshes = state.refreshes + 1 := by
  cases Monitor.paces_of_moves (Monitor.moves_of_step stepped) with
  | keeps counted => exact .inl counted
  | schedules _ counted => exact .inl counted
  | begins _ _ _ _ counted => exact .inr counted

theorem loop_of_step {state target : Monitor} {action : LoopAction}
    {thread : LoopThread} (found : state.thread = some thread)
    (stepped : monitorMachine.step state (.loop action) = some target) :
    action.enabled state.signals thread = true ∧
      target = state.applyLoop action thread := by
  cases Monitor.moves_of_step stepped with
  | loop there isEnabled =>
      cases there.symm.trans found
      exact ⟨isEnabled, rfl⟩

/-- The steps of the loop whose calls return. -/
def MonitorStep.Continues (label : MonitorStep) : Prop :=
  ∃ action : LoopAction, label = .loop action ∧ action.returns = true

/-- The state on the way to the refresh. -/
structure OnTheWay (count : Nat) (timed : Monitor × Int) : Prop where
  reached : clockedMonitor.Reachable timed
  fits : timed.1.debounce < 2 ^ 31
  counted : timed.1.refreshes = count
  waits : ∃ thread, timed.1.thread = some thread ∧
    thread.Waits timed.1.signals

/-- The measure of a state. -/
def standing (timed : Monitor × Int) : Nat ×ₗ Nat ×ₗ Nat :=
  match timed.1.thread with
  | none => toLex (0, toLex (0, 0))
  | some thread => thread.standing timed.1.signals timed.2

namespace OnTheWay

variable {count : Nat} {timed target : Monitor × Int}
  (onTheWay : OnTheWay count timed)
include onTheWay

theorem progress :
    ∃ label target, MonitorStep.Continues label ∧
      clockedMonitor.step timed label = some target := by
  obtain ⟨thread, found, waits⟩ := onTheWay.waits
  have timesOut := timesOut_reachable onTheWay.reached onTheWay.fits thread
    found waits.pending
  obtain ⟨action, returns, isEnabled, reads⟩ :=
    exists_loop_action waits timesOut (timed.2 + 1)
  have stepped : monitorMachine.step timed.1 (.loop action) =
      some (timed.1.applyLoop action thread) := by
    simp [monitorMachine, Machine.guarded, Monitor.enabled, Monitor.apply,
      found, isEnabled]
  obtain ⟨target, taken⟩ : ∃ target,
      clockedMonitor.step (timed.1, timed.2) (.loop action) =
        some target := by
    apply Machine.exists_clocked_step stepped
    intro now read
    rw [reads now read]
    omega
  exact ⟨.loop action, target, ⟨action, rfl, returns⟩, taken⟩

theorem advance {label : MonitorStep} (continues : label.Continues)
    (stepped : clockedMonitor.step timed label = some target) :
    target.1.refreshes = count + 1 ∨
      OnTheWay count target ∧ standing target < standing timed := by
  obtain ⟨action, rfl, returns⟩ := continues
  obtain ⟨thread, found, waits⟩ := onTheWay.waits
  obtain ⟨taken, clock⟩ := Machine.clocked_step stepped
  obtain ⟨isEnabled, applied⟩ := loop_of_step found taken
  rw [← onTheWay.counted]
  rcases refreshes_of_step taken with counted | begun
  · rcases loop_advances waits returns isEnabled clock with
      begun | ⟨waiting, closer⟩
    · left
      rw [applied]
      exact begun
    · right
      constructor
      · refine ⟨.next onTheWay.reached trivial stepped, ?_, counted, ?_⟩
        · rw [applied]
          exact onTheWay.fits
        · rw [applied]
          exact ⟨_, rfl, waiting⟩
      · rw [standing, standing, found, applied]
        exact closer
  · exact .inl begun

end OnTheWay

end LibbpfControl.NicCheck
