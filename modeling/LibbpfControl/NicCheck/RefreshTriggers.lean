import LibbpfControl.NicCheck.Lifecycle

/-!
# No refresh trigger is lost

A caller of `request_refresh` first stores `dirty_` and then writes the
eventfd; the loop first reads the eventfd and then exchanges `dirty_`.  Two
facts together say that nothing falls between them.  A set flag is always
about to be noticed: the counter is positive, or the loop is on its way to
the exchange, or a caller is on its way to the write.  And a trigger which no
refresh has begun for is in the flag or has been taken over by the loop.

A call is dated by its store of `dirty_` and not by its return.  A refresh
which began between the two has read the interfaces after the store, so it
serves the call, and the call may return when nothing is scheduled any more.
-/

namespace LibbpfControl.NicCheck

/-- The thread is in its loop, or about to enter it. -/
def LoopPoint.live : LoopPoint → Bool
  | .failing _ => false
  | .notifying _ => false
  | .calling _ _ => false
  | .finished => false
  | _ => true

/-- The loop has taken a trigger and not yet assigned `pending`. -/
def LoopPoint.holdsTrigger : LoopPoint → Bool
  | .taken => true
  | .checkingStatus changed => changed
  | .receiving changed => changed
  | .received changed => changed
  | _ => false

/-- The loop exchanges `dirty_` before it polls again. -/
def LoopPoint.beforeExchange : LoopPoint → Bool
  | .draining => true
  | .drained => true
  | .exchanging => true
  | _ => false

/-- Something relevant was consumed from the socket when so many refreshes
had begun. -/
def MonitorLog.ConsumedAt (log : MonitorLog) (refreshes : Nat) : Prop :=
  ∃ outcome, (refreshes, outcome) ∈ log.consumed ∧ outcome.Relevant

/-- A completed call of `request_refresh` stored `dirty_`, or something
relevant was consumed from the socket, since the last refresh began. -/
def MonitorLog.Triggered (log : MonitorLog) : Prop :=
  (∃ returned, (log.refreshes, returned) ∈ log.requested) ∨
    log.ConsumedAt log.refreshes

def Storing (callers : Nat → RefreshCaller) : Prop :=
  ∃ caller refreshes, callers caller = .stored refreshes

/-- The next refresh is on its way. -/
def Monitor.Scheduled (state : Monitor) (thread : LoopThread) : Prop :=
  thread.pending = true ∨ thread.point.holdsTrigger = true ∨
    state.signals.dirty = true ∧
      (0 < state.signals.counter ∨ thread.point.beforeExchange = true ∨
        Storing state.callers)

/-- A set flag is about to be noticed. -/
def Signalled (signals : Signals) (callers : Nat → RefreshCaller)
    (point : LoopPoint) : Prop :=
  point.live = true → signals.dirty = true →
    0 < signals.counter ∨ point.beforeExchange = true ∨ Storing callers

/-- A trigger for which no refresh has begun, also of a call which has not
returned yet. -/
def Outstanding (log : MonitorLog) (callers : Nat → RefreshCaller) : Prop :=
  log.Triggered ∨ ∃ caller, callers caller = .stored log.refreshes

/-- An outstanding trigger is in the flag or was taken over by the loop. -/
def Flagged (signals : Signals) (callers : Nat → RefreshCaller)
    (thread : LoopThread) : Prop :=
  thread.point.live = true → Outstanding signals.log callers →
    thread.pending = true ∨ thread.point.holdsTrigger = true ∨
      signals.dirty = true

/-- What the log dates lies in the past. -/
structure Dated (log : MonitorLog) (callers : Nat → RefreshCaller) :
    Prop where
  requested : ∀ stored returned, (stored, returned) ∈ log.requested →
    stored ≤ log.refreshes
  consumed : ∀ refreshes, log.ConsumedAt refreshes →
    refreshes ≤ log.refreshes
  storing : ∀ caller refreshes, callers caller = .stored refreshes →
    refreshes ≤ log.refreshes

/-- Nothing is outstanding for a refresh which begins now. -/
theorem Dated.not_outstanding {log : MonitorLog}
    {callers : Nat → RefreshCaller} (dated : Dated log callers) :
    ¬ Outstanding { log with refreshes := log.refreshes + 1 } callers := by
  intro outstanding
  rcases outstanding with (⟨returned, requested⟩ | consumed) |
    ⟨caller, storing⟩
  · have past := dated.requested _ _ requested
    simp only at past
    omega
  · have past := dated.consumed _ consumed
    simp only at past
    omega
  · have past := dated.storing _ _ storing
    simp only at past
    omega

/-- Between its store of `dirty_` and the creation of the thread a start
leaves the flag set and the eventfd readable. -/
def Primed (signals : Signals) : Controller → Prop
  | .start _ .wake => signals.dirty = true
  | .start _ .storeRunning => signals.dirty = true ∧ 0 < signals.counter
  | .start _ .createThread => signals.dirty = true ∧ 0 < signals.counter
  | _ => True

structure Monitor.Tracked (state : Monitor) : Prop where
  dated : Dated state.signals.log state.callers
  primed : Primed state.signals state.controller
  wakeable : state.thread.isSome = true →
    state.resources.wakeFd.isSome = true
  signalled : ∀ thread, state.thread = some thread →
    Signalled state.signals state.callers thread.point
  flagged : ∀ thread, state.thread = some thread →
    Flagged state.signals state.callers thread

section LoopStep

variable {debounce : Int} {resources : Resources} {signals later : Signals}
  {callers : Nat → RefreshCaller} {thread : LoopThread}
  {action : LoopAction}

theorem wake_readable (signals : Signals) {resources : Resources}
    (isOpen : resources.wakeFd.isSome = true) :
    0 < (signals.wake resources).counter := by
  simp only [Signals.wake, isOpen, if_true]
  exact eventfdWrite_pos _

theorem wake_counter (signals : Signals) (resources : Resources)
    (positive : 0 < signals.counter) :
    0 < (signals.wake resources).counter := by
  unfold Signals.wake
  split
  · exact eventfdWrite_pos _
  · exact positive

/-- Away from the exchange a set flag stays noticed as long as nobody reads
the eventfd. -/
theorem Signalled.mono {before after : LoopPoint}
    (signalled : Signalled signals callers before)
    (live : before.live = true) (elsewhere : before.beforeExchange = false)
    (dirty : later.dirty = true → signals.dirty = true)
    (counter : 0 < signals.counter → 0 < later.counter) :
    Signalled later callers after := by
  intro _ isDirty
  rcases signalled live (dirty isDirty) with positive | exchanging | storing
  · exact .inl (counter positive)
  · exact absurd (elsewhere.symm.trans exchanging) (by decide)
  · exact .inr (.inr storing)

/-- The failure exit and what follows it lie outside the loop. -/
theorem reports_dead (reports : action.reports = true) :
    (action.move debounce resources signals thread).point.live = false := by
  cases action with
  | compareExchange error =>
      simp only [LoopAction.move]
      split
      · rfl
      · rfl
  | copyFailureHandler error =>
      simp only [LoopAction.move]
      split
      · rfl
      · rfl
  | callFailureHandler handler error => rfl
  | _ => cases reports

/-- The steps from reading the eventfd to the exchange. -/
def LoopAction.drains : LoopAction → Bool
  | .readWake => true
  | .testRunning => true
  | .exchangeDirty => true
  | _ => false

theorem ordinary_enabled (quiet : action.reports = false)
    (ordinary : action.drains = false)
    (isEnabled : action.enabled signals thread = true) :
    thread.point.live = true ∧ thread.point.beforeExchange = false := by
  cases action with
  | readWake => cases ordinary
  | testRunning => cases ordinary
  | exchangeDirty => cases ordinary
  | compareExchange error => cases quiet
  | copyFailureHandler error => cases quiet
  | callFailureHandler handler error => cases quiet
  | exit =>
      simp only [LoopAction.enabled, Bool.and_eq_true, Bool.or_eq_true,
        decide_eq_true_eq] at isEnabled
      rcases isEnabled.1 with stands | stands
      · rw [stands]
        exact ⟨rfl, rfl⟩
      · rw [stands]
        exact ⟨rfl, rfl⟩
  | _ =>
      simp only [LoopAction.enabled, Bool.and_eq_true,
        decide_eq_true_eq] at isEnabled
      simp [isEnabled, LoopPoint.live, LoopPoint.beforeExchange]

/-- Only the exchange clears the flag. -/
theorem loop_dirty (ordinary : action.drains = false) :
    (action.apply resources signals thread).dirty = signals.dirty := by
  cases action with
  | readWake => cases ordinary
  | testRunning => cases ordinary
  | exchangeDirty => cases ordinary
  | registerCallback =>
      simp only [LoopAction.apply]
      split
      · exact Signals.wake_dirty _ _
      · rfl
  | testDeadline now =>
      simp only [LoopAction.apply]
      split
      · rfl
      · rfl
  | refresh point action => exact refresh_dirty action signals
  | compareExchange error =>
      simp only [LoopAction.apply]
      split
      · rfl
      · rfl
  | _ => rfl

/-- Only `drain_wake` resets the eventfd. -/
theorem loop_counter (ordinary : action.drains = false)
    (positive : 0 < signals.counter) :
    0 < (action.apply resources signals thread).counter := by
  cases action with
  | readWake => cases ordinary
  | testRunning => cases ordinary
  | exchangeDirty => cases ordinary
  | registerCallback =>
      simp only [LoopAction.apply]
      split
      · exact wake_counter signals resources positive
      · exact positive
  | testDeadline now =>
      simp only [LoopAction.apply]
      split
      · exact positive
      · exact positive
  | refresh point action =>
      have same := refresh_counter action signals
      exact same ▸ positive
  | compareExchange error =>
      simp only [LoopAction.apply]
      split
      · exact positive
      · exact positive
  | _ => exact positive

theorem signalled_loop (signalled : Signalled signals callers thread.point)
    (isEnabled : action.enabled signals thread = true) :
    Signalled (action.apply resources signals thread) callers
      (action.move debounce resources signals thread).point := by
  cases reports : action.reports with
  | true =>
      intro live
      exact absurd ((reports_dead reports).symm.trans live) (by decide)
  | false =>
      cases drains : action.drains with
      | false =>
          obtain ⟨live, elsewhere⟩ :=
            ordinary_enabled reports drains isEnabled
          exact signalled.mono live elsewhere
            (fun dirty => (loop_dirty drains).symm.trans dirty)
            (loop_counter drains)
      | true =>
          intro _ isDirty
          cases action with
          | readWake =>
              refine .inr (.inl ?_)
              simp only [LoopAction.move]
              split
              · rfl
              · rfl
          | testRunning =>
              refine .inr (.inl ?_)
              simp only [LoopAction.move]
              split
              · rfl
              · rfl
          | exchangeDirty => cases isDirty
          | _ => cases drains

/-- The part of the log which dates triggers. -/
structure SameDates (log later : MonitorLog) : Prop where
  refreshes : later.refreshes = log.refreshes
  requested : later.requested = log.requested
  consumed : ∀ refreshes, later.ConsumedAt refreshes →
    log.ConsumedAt refreshes

theorem SameDates.rfl {log : MonitorLog} : SameDates log log :=
  ⟨Eq.refl _, Eq.refl _, fun _ consumed => consumed⟩

theorem SameDates.outstanding {log next : MonitorLog}
    (same : SameDates log next) (outstanding : Outstanding next callers) :
    Outstanding log callers := by
  unfold Outstanding MonitorLog.Triggered at outstanding
  rw [same.refreshes, same.requested] at outstanding
  rcases outstanding with (requested | consumed) | storing
  · exact .inl (.inl requested)
  · exact .inl (.inr (same.consumed _ consumed))
  · exact .inr storing

theorem SameDates.dated {log next : MonitorLog} (same : SameDates log next)
    (dated : Dated log callers) : Dated next callers := by
  constructor
  · rw [same.refreshes, same.requested]
    exact dated.requested
  · intro refreshes consumed
    rw [same.refreshes]
    exact dated.consumed refreshes (same.consumed refreshes consumed)
  · rw [same.refreshes]
    exact dated.storing

theorem refresh_dates (action : RefreshAction) (signals : Signals) :
    SameDates signals.log (action.apply signals).log := by
  cases action with
  | _ => exact ⟨rfl, rfl, fun _ consumed => consumed⟩

/-- Only receiving and beginning a refresh change the dates. -/
def LoopAction.dates : LoopAction → Bool
  | .receive _ => true
  | .testDeadline _ => true
  | _ => false

theorem loop_dates (undated : action.dates = false) :
    SameDates signals.log (action.apply resources signals thread).log := by
  cases action with
  | receive changed => cases undated
  | testDeadline now => cases undated
  | registerCallback =>
      simp only [LoopAction.apply]
      split
      · rw [Signals.wake_log]
        exact .rfl
      · exact .rfl
  | refresh point action => exact refresh_dates action signals
  | compareExchange error =>
      simp only [LoopAction.apply]
      split
      · exact .rfl
      · exact .rfl
  | _ => exact .rfl

theorem dated_loop (dated : Dated signals.log callers) :
    Dated (action.apply resources signals thread).log callers := by
  cases dates : action.dates with
  | false => exact (loop_dates dates).dated dated
  | true =>
      cases action with
      | receive changed =>
          refine ⟨dated.requested, ?_, dated.storing⟩
          rintro refreshes ⟨outcome, member, relevant⟩
          rcases List.mem_cons.mp member with same | earlier
          · cases same
            exact Nat.le_refl _
          · exact dated.consumed refreshes ⟨outcome, earlier, relevant⟩
      | testDeadline now =>
          simp only [LoopAction.apply]
          split
          · constructor
            · intro stored returned member
              exact Nat.le_succ_of_le (dated.requested _ _ member)
            · intro refreshes consumed
              exact Nat.le_succ_of_le (dated.consumed _ consumed)
            · intro caller refreshes storing
              exact Nat.le_succ_of_le (dated.storing _ _ storing)
          · exact dated
      | _ => cases dates

/-- Where a trigger can be. -/
def Carried (signals : Signals) (thread : LoopThread) : Prop :=
  thread.pending = true ∨ thread.point.holdsTrigger = true ∨
    signals.dirty = true

theorem Flagged.carry {next : LoopThread}
    (flagged : Flagged signals callers thread)
    (live : thread.point.live = true)
    (dates : SameDates signals.log later.log)
    (carried : Carried signals thread → Carried later next) :
    Flagged later callers next :=
  fun _ outstanding => carried (flagged live (dates.outstanding outstanding))

/-- Most steps leave `pending` and the flag alone. -/
theorem Carried.holding {next : LoopThread}
    (carried : Carried signals thread)
    (holding : thread.point.holdsTrigger = true →
      next.point.holdsTrigger = true)
    (pending : next.pending = thread.pending)
    (dirty : later.dirty = signals.dirty) : Carried later next := by
  rcases carried with isPending | isHolding | isDirty
  · exact .inl (pending.trans isPending)
  · exact .inr (.inl (holding isHolding))
  · exact .inr (.inr (dirty.trans isDirty))

theorem Flagged.holding {next : LoopThread}
    (flagged : Flagged signals callers thread)
    (live : thread.point.live = true)
    (dates : SameDates signals.log later.log)
    (holding : thread.point.holdsTrigger = true →
      next.point.holdsTrigger = true)
    (pending : next.pending = thread.pending)
    (dirty : later.dirty = signals.dirty) : Flagged later callers next :=
  flagged.carry live dates fun carried =>
    carried.holding holding pending dirty

/-- And most points hold no trigger. -/
theorem Flagged.keep {next : LoopThread}
    (flagged : Flagged signals callers thread)
    (live : thread.point.live = true)
    (dates : SameDates signals.log later.log)
    (idle : thread.point.holdsTrigger = false)
    (pending : next.pending = thread.pending)
    (dirty : later.dirty = signals.dirty) : Flagged later callers next := by
  apply flagged.holding live dates _ pending dirty
  intro holding
  exact absurd (idle.symm.trans holding) (by decide)

theorem receivePoint_holds (changed : Bool) (outcome : ReceiveOutcome)
    (holds : changed = true ∨ outcome.changes = true) :
    (receivePoint changed outcome).holdsTrigger = true := by
  cases outcome with
  | overrun => simp [receivePoint, ReceiveOutcome.continues,
      LoopPoint.holdsTrigger, ReceiveOutcome.changes]
  | datagram bytes =>
      simpa [receivePoint, ReceiveOutcome.continues,
        LoopPoint.holdsTrigger] using holds
  | _ =>
      have already : changed = true := holds.resolve_right (by
        simp [ReceiveOutcome.changes])
      simp [receivePoint, ReceiveOutcome.continues, already,
        LoopPoint.holdsTrigger]

/-- What was found before a call of `recvmsg` is not forgotten. -/
theorem Flagged.receivePoint {changed : Bool} {next : LoopThread}
    (flagged : Flagged signals callers thread) (outcome : ReceiveOutcome)
    (stands : thread.point = .receiving changed)
    (dates : SameDates signals.log later.log)
    (moved : next.point = NicCheck.receivePoint changed outcome)
    (pending : next.pending = thread.pending)
    (dirty : later.dirty = signals.dirty) : Flagged later callers next := by
  refine flagged.holding (by rw [stands]; rfl) dates ?_ pending dirty
  intro holding
  rw [stands] at holding
  rw [moved]
  exact receivePoint_holds changed outcome (.inl holding)

/-- What is not relevant is consumed without a trace. -/
theorem receive_dates {changed : Bool}
    (irrelevant : ¬signals.socket.recvmsg.2.Relevant) :
    SameDates signals.log
      ((LoopAction.receive changed).apply resources signals thread).log := by
  refine ⟨rfl, rfl, ?_⟩
  rintro refreshes ⟨outcome, member, relevant⟩
  rcases List.mem_cons.mp member with same | earlier
  · cases same
    exact absurd relevant irrelevant
  · exact ⟨outcome, earlier, relevant⟩

theorem flagged_receive {changed : Bool}
    (flagged : Flagged signals callers thread)
    (stands : thread.point = .receiving changed) :
    Flagged ((LoopAction.receive changed).apply resources signals thread)
      callers
      ((LoopAction.receive changed).move debounce resources signals
        thread) := by
  by_cases changes : signals.socket.recvmsg.2.changes = true
  · intro _ _
    exact .inr (.inl (receivePoint_holds changed _ (.inr changes)))
  · rw [ReceiveOutcome.changes_iff] at changes
    exact flagged.receivePoint _ stands (receive_dates changes) rfl rfl rfl

theorem flagged_testDeadline {now : Int}
    (dated : Dated signals.log callers)
    (flagged : Flagged signals callers thread)
    (stands : thread.point = .testingDeadline) :
    Flagged ((LoopAction.testDeadline now).apply resources signals thread)
      callers
      ((LoopAction.testDeadline now).move debounce resources signals
        thread) := by
  simp only [LoopAction.apply, LoopAction.move]
  split
  · intro _ outstanding
    exact absurd outstanding dated.not_outstanding
  · exact flagged.keep (by rw [stands]; rfl) .rfl (by rw [stands]; rfl) rfl
      rfl

/-- The flag which is taken is held until a refresh is scheduled. -/
theorem flagged_exchangeDirty (flagged : Flagged signals callers thread)
    (stands : thread.point = .exchanging) :
    Flagged (LoopAction.exchangeDirty.apply resources signals thread) callers
      (LoopAction.exchangeDirty.move debounce resources signals thread) := by
  apply flagged.carry (by rw [stands]; rfl) (loop_dates rfl)
  intro carried
  rcases carried with pending | holding | dirty
  · exact .inl pending
  · rw [stands] at holding
    cases holding
  · exact .inr (.inl (by simp [LoopAction.move, dirty,
      LoopPoint.holdsTrigger]))

theorem flagged_loop (dated : Dated signals.log callers)
    (flagged : Flagged signals callers thread)
    (isEnabled : action.enabled signals thread = true) :
    Flagged (action.apply resources signals thread) callers
      (action.move debounce resources signals thread) := by
  cases action with
  | receive changed =>
      exact flagged_receive flagged (of_decide_eq_true isEnabled)
  | testDeadline now =>
      exact flagged_testDeadline dated flagged (of_decide_eq_true isEnabled)
  | exit => intro live; cases live
  | pollFails timeoutMs => intro live; cases live
  | scheduleDirty now => intro _ _; exact .inl rfl
  | exchangeDirty =>
      exact flagged_exchangeDirty flagged (of_decide_eq_true isEnabled)
  | checkStatus changed =>
      have stands : thread.point = .checkingStatus changed :=
        of_decide_eq_true isEnabled
      refine flagged.holding (by rw [stands]; rfl) (loop_dates rfl) ?_ rfl
        rfl
      intro holding
      rw [stands] at holding
      simp only [LoopAction.move]
      split
      · exact holding
      · exact holding
  | receiveInterrupted changed =>
      exact flagged.receivePoint .interrupted (of_decide_eq_true isEnabled)
        (loop_dates rfl) rfl rfl rfl
  | receiveFails changed =>
      exact flagged.receivePoint .failed (of_decide_eq_true isEnabled)
        (loop_dates rfl) rfl rfl rfl
  | finishReceiving changed now =>
      have stands : thread.point = .received changed :=
        of_decide_eq_true isEnabled
      cases changed with
      | true => intro _ _; exact .inl rfl
      | false =>
          exact flagged.keep (by rw [stands]; rfl) (loop_dates rfl)
            (by rw [stands]; rfl) rfl rfl
  | registerCallback =>
      have stands : thread.point = .entering := of_decide_eq_true isEnabled
      exact flagged.keep (by rw [stands]; rfl) (loop_dates rfl)
        (by rw [stands]; rfl) rfl (loop_dirty rfl)
  | refresh point action =>
      simp only [LoopAction.enabled, Bool.and_eq_true,
        decide_eq_true_eq] at isEnabled
      exact flagged.keep (by rw [isEnabled.1]; rfl) (loop_dates rfl)
        (by rw [isEnabled.1]; rfl) rfl (loop_dirty rfl)
  | compareExchange error =>
      intro live
      exact absurd ((reports_dead rfl).symm.trans live) (by decide)
  | copyFailureHandler error =>
      intro live
      exact absurd ((reports_dead rfl).symm.trans live) (by decide)
  | callFailureHandler handler error =>
      intro live
      exact absurd ((reports_dead rfl).symm.trans live) (by decide)
  | _ =>
      simp only [LoopAction.enabled, Bool.and_eq_true,
        decide_eq_true_eq] at isEnabled
      exact flagged.keep (by simp [isEnabled, LoopPoint.live])
        (loop_dates rfl) (by simp [isEnabled, LoopPoint.holdsTrigger])
        rfl rfl

end LoopStep

theorem stored_of_update {callers : Nat → RefreshCaller}
    {caller other refreshes : Nat} {now : RefreshCaller}
    (unstored : now ≠ .stored refreshes)
    (found : Function.update callers caller now other = .stored refreshes) :
    callers other = .stored refreshes := by
  by_cases same : other = caller
  · subst same
    rw [Function.update_self] at found
    exact absurd found unstored
  · rw [Function.update_of_ne same] at found
    exact found

theorem Storing.update {callers : Nat → RefreshCaller}
    (storing : Storing callers) {caller : Nat}
    (unstored : ∀ refreshes, callers caller ≠ .stored refreshes)
    (now : RefreshCaller) : Storing (Function.update callers caller now) := by
  obtain ⟨other, refreshes, found⟩ := storing
  have different : other ≠ caller := by
    intro same
    subst same
    exact unstored refreshes found
  exact ⟨other, refreshes, by rw [Function.update_of_ne different]; exact found⟩

theorem Dated.update {log : MonitorLog} {callers : Nat → RefreshCaller}
    (dated : Dated log callers) {caller : Nat} {now : RefreshCaller}
    (current : ∀ refreshes, now = .stored refreshes →
      refreshes = log.refreshes) :
    Dated log (Function.update callers caller now) := by
  refine ⟨dated.requested, dated.consumed, ?_⟩
  intro other refreshes found
  by_cases isNow : now = .stored refreshes
  · exact Nat.le_of_eq (current refreshes isNow)
  · exact dated.storing other refreshes (stored_of_update isNow found)

/-- A caller which neither comes from nor goes to the point between store and
write does not matter. -/
theorem Outstanding.of_update {log : MonitorLog}
    {callers : Nat → RefreshCaller} {caller : Nat} {now : RefreshCaller}
    (unstored : ∀ refreshes, now ≠ .stored refreshes)
    (outstanding : Outstanding log (Function.update callers caller now)) :
    Outstanding log callers := by
  rcases outstanding with triggered | ⟨other, found⟩
  · exact .inl triggered
  · exact .inr ⟨other, stored_of_update (unstored _) found⟩

variable {state target : Monitor} {label : MonitorStep}

theorem Primed.mono {signals later : Signals} {controller : Controller}
    (primed : Primed signals controller)
    (dirty : signals.dirty = true → later.dirty = true)
    (counter : 0 < signals.counter → 0 < later.counter) :
    Primed later controller := by
  cases controller with
  | start handlers point =>
      cases point with
      | wake => exact dirty primed
      | storeRunning => exact ⟨dirty primed.1, counter primed.2⟩
      | createThread => exact ⟨dirty primed.1, counter primed.2⟩
      | _ => exact trivial
  | _ => exact trivial

/-- A start which has stored `dirty_` and not returned has no thread yet. -/
theorem primed_of_threaded {footing : Footing} {controller : Controller}
    {signals : Signals} (stage : footing.Stage controller)
    (threaded : footing.threaded = true) : Primed signals controller := by
  cases controller with
  | start handlers point =>
      cases point with
      | wake =>
          exact absurd (threaded.symm.trans stage.unthreaded) (by decide)
      | storeRunning =>
          exact absurd (threaded.symm.trans stage.unthreaded) (by decide)
      | createThread =>
          exact absurd (threaded.symm.trans stage.unthreaded) (by decide)
      | _ => exact trivial
  | _ => exact trivial

/-- The step of a caller which changes no signal but the log of refreshes. -/
theorem Monitor.Tracked.passing (tracked : state.Tracked) {caller : Nat}
    {now : RefreshCaller} {later : Signals}
    (before : ∀ refreshes, state.callers caller ≠ .stored refreshes)
    (after : ∀ refreshes, now ≠ .stored refreshes)
    (dates : SameDates state.signals.log later.log)
    (dirty : later.dirty = state.signals.dirty)
    (counter : later.counter = state.signals.counter) :
    { state.setCaller caller now with signals := later }.Tracked where
  dated := (dates.dated tracked.dated).update
    fun refreshes isStored => absurd isStored (after refreshes)
  primed := tracked.primed.mono (fun isDirty => dirty.trans isDirty)
    (fun positive => counter ▸ positive)
  wakeable := tracked.wakeable
  signalled := by
    intro thread found live isDirty
    rcases tracked.signalled thread found live (dirty.symm.trans isDirty) with
      positive | exchanging | storing
    · exact .inl (counter ▸ positive)
    · exact .inr (.inl exchanging)
    · exact .inr (.inr (storing.update before now))
  flagged := by
    intro thread found live outstanding
    have known := dates.outstanding (outstanding.of_update after)
    have carried : Carried state.signals thread :=
      tracked.flagged thread found live known
    exact carried.holding id rfl dirty

theorem tracked_storeDirty (tracked : state.Tracked) (caller : Nat) :
    (state.apply (.storeDirty caller)).Tracked where
  dated := tracked.dated.update fun refreshes isStored => by
    cases isStored
    rfl
  primed := tracked.primed.mono (fun _ => rfl) id
  wakeable := tracked.wakeable
  signalled := by
    intro thread found live isDirty
    exact .inr (.inr ⟨caller, _, Function.update_self _ _ _⟩)
  flagged := by
    intro thread found live outstanding
    exact .inr (.inr rfl)

/-- After its write a caller may return: the eventfd is readable. -/
theorem tracked_wakeMonitor (tracked : state.Tracked)
    {caller refreshes : Nat}
    (stands : state.callers caller = .stored refreshes) :
    (state.apply (.wakeMonitor caller refreshes)).Tracked := by
  have log : (state.signals.wake state.resources).log = state.signals.log :=
    Signals.wake_log _ _
  have dirty : (state.signals.wake state.resources).dirty =
      state.signals.dirty :=
    Signals.wake_dirty _ _
  constructor
  · simp only [Monitor.apply, log]
    have dated : Dated
        { state.signals.log with
          requested := (refreshes, state.signals.log.refreshes) ::
            state.signals.log.requested } state.callers := by
      refine ⟨?_, tracked.dated.consumed, tracked.dated.storing⟩
      intro stored returned member
      rcases List.mem_cons.mp member with same | earlier
      · cases same
        exact tracked.dated.storing caller refreshes stands
      · exact tracked.dated.requested stored returned earlier
    exact dated.update fun _ isStored => by cases isStored
  · exact tracked.primed.mono (fun isDirty => dirty.trans isDirty)
      (wake_counter _ _)
  · exact tracked.wakeable
  · intro thread found live isDirty
    have wakeable := tracked.wakeable (by
      rw [show state.thread = some thread from found]
      rfl)
    exact .inl (wake_readable _ wakeable)
  · intro thread found live outstanding
    have known : Outstanding state.signals.log state.callers := by
      simp only [Monitor.apply, log] at outstanding
      rcases outstanding.of_update (by simp) with
        (⟨returned, member⟩ | consumed) | storing
      · rcases List.mem_cons.mp member with same | earlier
        · have current : state.signals.log.refreshes = refreshes :=
            congrArg Prod.fst same
          exact .inr ⟨caller, by rw [current]; exact stands⟩
        · exact .inl (.inl ⟨returned, earlier⟩)
      · exact .inl (.inr consumed)
      · exact .inr storing
    have carried : Carried state.signals thread :=
      tracked.flagged thread found live known
    exact carried.holding id rfl dirty

/-- Steps which leave the signals of the loop alone. -/
theorem Monitor.Tracked.frame (tracked : state.Tracked)
    (sameCallers : target.callers = state.callers)
    (dates : SameDates state.signals.log target.signals.log)
    (dirty : target.signals.dirty = state.signals.dirty)
    (counter : 0 < state.signals.counter → 0 < target.signals.counter)
    (primed : Primed target.signals target.controller)
    (wakeFd : target.resources.wakeFd = state.resources.wakeFd)
    (threads : ∀ thread, target.thread = some thread →
      ∃ origin, state.thread = some origin ∧ origin.point = thread.point ∧
        origin.pending = thread.pending) :
    target.Tracked where
  dated := by
    rw [sameCallers]
    exact dates.dated tracked.dated
  primed := primed
  wakeable := by
    intro threaded
    obtain ⟨thread, found⟩ := Option.isSome_iff_exists.mp threaded
    obtain ⟨origin, present, _⟩ := threads thread found
    rw [wakeFd]
    exact tracked.wakeable (by rw [present]; rfl)
  signalled := by
    intro thread found live isDirty
    obtain ⟨origin, present, samePoint, _⟩ := threads thread found
    rw [← samePoint] at live ⊢
    rw [sameCallers]
    rcases tracked.signalled origin present live
        (dirty.symm.trans isDirty) with positive | rest
    · exact .inl (counter positive)
    · exact .inr rest
  flagged := by
    intro thread found live outstanding
    obtain ⟨origin, present, samePoint, samePending⟩ := threads thread found
    rw [sameCallers] at outstanding
    rw [← samePoint] at live
    have carried : Carried state.signals origin :=
      tracked.flagged origin present live (dates.outstanding outstanding)
    exact carried.holding (by rw [samePoint]; exact id) samePending.symm
      dirty

/-- Without a thread only the log and the start matter. -/
theorem Monitor.Tracked.threadless (tracked : state.Tracked)
    (sameCallers : target.callers = state.callers)
    (dates : SameDates state.signals.log target.signals.log)
    (primed : Primed target.signals target.controller)
    (unthreaded : target.thread = none) : target.Tracked where
  dated := by
    rw [sameCallers]
    exact dates.dated tracked.dated
  primed := primed
  wakeable := by simp [unthreaded]
  signalled := by simp [unthreaded]
  flagged := by simp [unthreaded]

theorem thread_unchanged (thread : LoopThread)
    (found : state.thread = some thread) :
    ∃ origin, state.thread = some origin ∧ origin.point = thread.point ∧
      origin.pending = thread.pending :=
  ⟨thread, found, rfl, rfl⟩

/-- `start_monitor` stores the flag and writes the eventfd before it creates
the thread. -/
theorem primed_start {handlers : Handlers} {point : StartPoint}
    (stage : state.footing.StartStage handlers point)
    (primed : Primed state.signals (.start handlers point))
    (succeeds : Bool) :
    Primed (state.applyStart handlers succeeds point).signals
      (state.applyStart handlers succeeds point).controller := by
  cases point with
  | checkFailed =>
      simp only [Monitor.applyStart, Monitor.goto]
      split
      · exact trivial
      · exact trivial
  | testStopped seen =>
      simp only [Monitor.applyStart, Monitor.goto]
      split
      · exact trivial
      · exact trivial
  | storeDirty => exact rfl
  | wake =>
      exact ⟨(Signals.wake_dirty _ _).trans primed,
        wake_readable _ stage.wakeFd⟩
  | storeRunning => exact primed
  | _ =>
      cases succeeds with
      | false => exact trivial
      | true => exact trivial

theorem tracked_start {handlers : Handlers} {point : StartPoint}
    (sound : state.Sound) (tracked : state.Tracked)
    (stands : state.controller = .start handlers point) (succeeds : Bool) :
    (state.applyStart handlers succeeds point).Tracked := by
  have stage : state.footing.StartStage handlers point := sound.stage_at stands
  have primed : Primed state.signals (.start handlers point) := by
    have known := tracked.primed
    rw [stands] at known
    exact known
  have stillPrimed := primed_start stage primed succeeds
  cases start_view sound stands succeeds with
  | passed controller moved =>
      rw [moved] at stillPrimed ⊢
      exact tracked.frame rfl .rfl rfl id stillPrimed rfl thread_unchanged
  | threadless _ sameThread sameCallers sameLog =>
      refine tracked.threadless sameCallers ?_ stillPrimed sameThread
      rw [sameLog]
      exact .rfl
  | created atCreation _ moved =>
      subst atCreation
      rw [moved]
      refine ⟨tracked.dated, trivial, fun _ => stage.wakeFd, ?_, ?_⟩
      · intro thread found _ _
        exact .inl primed.2
      · intro thread found _ _
        exact .inr (.inr primed.1)

theorem tracked_stop {caller : StopCaller} {point : StopPoint}
    (sound : state.Sound) (tracked : state.Tracked)
    (stands : state.controller = .stop caller point) :
    (state.applyStop caller point).Tracked := by
  have stage : state.footing.StopStage caller point := sound.stage_at stands
  have resumed : ∀ signals, Primed signals caller.resume := by
    intro signals
    cases caller with
    | _ => exact trivial
  cases point with
  | check =>
      refine tracked.frame rfl .rfl rfl id ?_ rfl thread_unchanged
      simp only [Monitor.applyStop, Monitor.goto]
      split
      · exact resumed _
      · exact trivial
  | storeStopping =>
      exact tracked.frame rfl .rfl rfl id trivial rfl thread_unchanged
  | requestStop =>
      refine tracked.frame rfl .rfl rfl id trivial rfl ?_
      intro thread found
      obtain ⟨origin, present, rfl⟩ := Option.map_eq_some_iff.mp found
      exact ⟨origin, present, rfl, rfl⟩
  | runCallback =>
      by_cases registered : state.thread.any LoopThread.registered = true
      · refine tracked.frame rfl ?_ ?_ ?_ trivial rfl thread_unchanged
        · simp only [Monitor.applyStop, if_pos registered, Signals.wake_log]
          exact .rfl
        · simp only [Monitor.applyStop, if_pos registered,
            Signals.wake_dirty]
        · simp only [Monitor.applyStop, if_pos registered]
          exact wake_counter _ _
      · refine tracked.frame rfl ?_ ?_ ?_ trivial rfl thread_unchanged
        · simp only [Monitor.applyStop, if_neg registered]
          exact .rfl
        · simp only [Monitor.applyStop, if_neg registered]
        · simp only [Monitor.applyStop, if_neg registered]
          exact id
  | join => exact tracked.threadless rfl .rfl trivial rfl
  | storeStopped =>
      exact tracked.threadless rfl .rfl (resumed _)
        (Monitor.thread_eq_none stage.unthreaded)
  | _ =>
      exact tracked.threadless rfl .rfl trivial
        (Monitor.thread_eq_none stage.unthreaded)

theorem tracked_loop {thread : LoopThread} {action : LoopAction}
    (sound : state.Sound) (tracked : state.Tracked)
    (found : state.thread = some thread)
    (isEnabled : action.enabled state.signals thread = true) :
    (state.applyLoop action thread).Tracked where
  dated := dated_loop tracked.dated
  primed := primed_of_threaded sound.stage (by
    simp [Monitor.footing, found])
  wakeable := fun _ => tracked.wakeable (by simp [found])
  signalled := by
    intro next same
    cases same
    exact signalled_loop (tracked.signalled thread found) isEnabled
  flagged := by
    intro next same
    cases same
    exact flagged_loop tracked.dated (tracked.flagged thread found) isEnabled

theorem tracked_step (sound : state.Sound) (tracked : state.Tracked)
    (moves : state.Moves label target) : target.Tracked := by
  cases moves with
  | callStart idle =>
      exact tracked.frame rfl .rfl rfl id trivial rfl thread_unchanged
  | callStop idle =>
      exact tracked.frame rfl .rfl rfl id trivial rfl thread_unchanged
  | start stands => exact tracked_start sound tracked stands _
  | stop stands joinable => exact tracked_stop sound tracked stands
  | loop found isEnabled => exact tracked_loop sound tracked found isEnabled
  | requestRefresh stands =>
      apply tracked.passing
      · intro refreshes isStored
        cases stands.symm.trans isStored
      · intro refreshes
        split
        · simp
        · simp
      · exact .rfl
      · rfl
      · rfl
  | storeDirty stands => exact tracked_storeDirty tracked _
  | wakeMonitor stands => exact tracked_wakeMonitor tracked stands
  | refresh stands isEnabled =>
      apply tracked.passing
      · intro refreshes isStored
        cases stands.symm.trans isStored
      · intro refreshes
        split
        · simp
        · simp
      · exact refresh_dates _ _
      · exact refresh_dirty _ _
      · exact refresh_counter _ _
  | deliver isOpen =>
      exact tracked.frame rfl .rfl rfl id
        (tracked.primed.mono id id) rfl thread_unchanged
  | overrun isOpen =>
      refine tracked.frame rfl .rfl rfl id (tracked.primed.mono id id) rfl ?_
      intro thread found
      obtain ⟨origin, present, rfl⟩ := Option.map_eq_some_iff.mp found
      exact ⟨origin, present, rfl, rfl⟩
  | breakSocket isOpen =>
      exact tracked.frame rfl .rfl rfl id
        (tracked.primed.mono id id) rfl thread_unchanged

theorem tracked_reachable (reached : monitorMachine.Reachable state) :
    state.Tracked := by
  apply reached.invariant_with (fun _ => sound_reachable)
  · intro start initial
    obtain ⟨debounce, rfl⟩ := initial
    exact ⟨⟨by simp [Monitor.constructed],
      by simp [Monitor.constructed, MonitorLog.ConsumedAt],
      by simp [Monitor.constructed]⟩, trivial, by simp [Monitor.constructed],
      by simp [Monitor.constructed], by simp [Monitor.constructed]⟩
  · intro before step after sound tracked stepped
    exact tracked_step sound tracked (Monitor.moves_of_step stepped)

/-- In every reachable state in which a loop runs, a trigger for which no
refresh has begun is scheduled. -/
theorem no_trigger_lost {thread : LoopThread}
    (reached : monitorMachine.Reachable state)
    (found : state.thread = some thread) (live : thread.point.live = true)
    (triggered : state.signals.log.Triggered) : state.Scheduled thread := by
  have tracked := tracked_reachable reached
  rcases tracked.flagged thread found live (.inl triggered) with
    pending | holding | dirty
  · exact .inl pending
  · exact .inr (.inl holding)
  · exact .inr (.inr ⟨dirty, tracked.signalled thread found live dirty⟩)

/-- A call of `request_refresh` completes while the loop waits in `poll`. -/
def requestWhilePolling : List MonitorStep :=
  firstStart ++
    ([.registerCallback, .enterPoll 0] : List LoopAction).map .loop ++
    [.requestRefresh 0, .storeDirty 0, .wakeMonitor 0 0]

theorem requestWhilePolling_enabled :
    (monitorMachine.runWhere (fun _ _ => True) (.constructed 150)
      requestWhilePolling).isSome = true := by
  decide

def requestedMonitor : Monitor :=
  monitorMachine.finish (.constructed 150) requestWhilePolling
    requestWhilePolling_enabled

def pollingThread : LoopThread :=
  { LoopThread.start (some 2) with
    point := .polling (-1)
    registered := true }

theorem no_trigger_lost_polling :
    requestedMonitor.signals.status = .running ∧
      requestedMonitor.Scheduled pollingThread :=
  ⟨by decide, no_trigger_lost
    (Machine.reachable_finish (constructed_initial 150)
      requestWhilePolling_enabled)
    (by decide) (by decide) (.inl ⟨0, by decide⟩)⟩

def noEvents : Readiness where
  netlink := false
  netlinkError := false
  wake := false

/-- The loop is woken by the write of the start, takes the flag a caller has
stored, and begins the refresh before the caller writes the eventfd. -/
def refreshBeforeWrite : List MonitorStep :=
  firstStart ++
    [.loop .registerCallback, .requestRefresh 0, .storeDirty 0] ++
    ([.enterPoll 0, .pollReturns (-1) { noEvents with wake := true },
      .testWake, .readWake, .testRunning, .readWake, .exchangeDirty,
      .scheduleDirty 0, .testNetlink, .testDeadline 0, .enterPoll 0,
      .pollReturns 150 noEvents, .testWake, .testNetlink,
      .testDeadline 150000000,
      .refresh .locking .lock] : List LoopAction).map .loop ++
    [.wakeMonitor 0 0]

theorem refreshBeforeWrite_enabled :
    (monitorMachine.runWhere (fun _ _ => True) (.constructed 150)
      refreshBeforeWrite).isSome = true := by
  decide

def servedMonitor : Monitor :=
  monitorMachine.finish (.constructed 150) refreshBeforeWrite
    refreshBeforeWrite_enabled

/-- Dated by its return the call comes after the beginning of the refresh
which serves it, and nothing is scheduled. -/
theorem returned_call_unscheduled :
    ∃ state thread stored, monitorMachine.Reachable state ∧
      state.signals.status = .running ∧ state.thread = some thread ∧
      thread.point.live = true ∧
      (stored, state.signals.log.refreshes) ∈ state.signals.log.requested ∧
      ¬ state.Scheduled thread := by
  refine ⟨servedMonitor,
    { pollingThread with
      point := .refreshing .reading
      deadline := 150000000 },
    0, Machine.reachable_finish (constructed_initial 150)
      refreshBeforeWrite_enabled, by decide, by decide, by decide, by decide,
    ?_⟩
  intro scheduled
  rcases scheduled with pending | holding | ⟨dirty, _⟩
  · cases pending
  · cases holding
  · exact absurd dirty (by decide)

end LibbpfControl.NicCheck
