import Mathlib.Order.Bounds.Basic
import LibbpfControl.BpfTool.StaleRetries

/-!
# The worker's scheduling step

One iteration of the inner loop either leaves with everything which is due,
or sleeps until the first deadline.  That there is a deadline is an invariant
of the surrounding code: while the worker sleeps, other threads only add
work.  That the deadline is a finite one rests on the clock, since request
times are clock readings, retries are bounded, and a restart is asked for a
fixed time after a reading.  With readings up to five seconds before the last
time point there is one exception, a restart which is asked for exactly then.
-/

namespace LibbpfControl.BpfTool

namespace Schedule

/-- The times at which the worker has something to do. -/
def Deadline (schedule : Schedule) (time : Int) : Prop :=
  (∃ request ∈ schedule.applyRequests,
      time = request.requestTime + request.retryCount * 500000000) ∨
    (schedule.restartRequested = true ∧ time = schedule.restartTime)

/-- The scan of the queue for the earliest due time. -/
def earliestDue (limit : Int) (requests : List ApplyRequest) : Int :=
  requests.foldl (fun wakeAt request => min wakeAt request.due) limit

theorem earliestDue_le (limit : Int) (requests : List ApplyRequest) :
    earliestDue limit requests ≤ limit ∧
      ∀ request ∈ requests, earliestDue limit requests ≤ request.due := by
  induction requests generalizing limit with
  | nil => simp [earliestDue]
  | cons first requests induction =>
      obtain ⟨start, others⟩ := induction (min limit first.due)
      have sooner : earliestDue limit (first :: requests) =
          earliestDue (min limit first.due) requests := rfl
      rw [sooner]
      refine ⟨Int.le_trans start (Int.min_le_left _ _), ?_⟩
      intro request member
      rcases List.mem_cons.mp member with rfl | later
      · exact Int.le_trans start (Int.min_le_right _ _)
      · exact others request later

theorem earliestDue_attained (limit : Int) (requests : List ApplyRequest) :
    earliestDue limit requests = limit ∨
      ∃ request ∈ requests, earliestDue limit requests = request.due := by
  induction requests generalizing limit with
  | nil => exact .inl rfl
  | cons first requests induction =>
      have sooner : earliestDue limit (first :: requests) =
          earliestDue (min limit first.due) requests := rfl
      rw [sooner]
      rcases induction (min limit first.due) with start | ⟨request, later, due⟩
      · rcases min_choice limit first.due with same | same
        · exact .inl (start.trans same)
        · exact .inr ⟨first, List.mem_cons_self, start.trans same⟩
      · exact .inr ⟨request, List.mem_cons_of_mem _ later, due⟩

theorem wakeAt_eq (schedule : Schedule) :
    schedule.wakeAt =
      if schedule.restartRequested then
        min (earliestDue timePointMax schedule.applyRequests.items)
          schedule.restartTime
      else earliestDue timePointMax schedule.applyRequests.items :=
  rfl

theorem wakeAt_le_earliest (schedule : Schedule) :
    schedule.wakeAt ≤
      earliestDue timePointMax schedule.applyRequests.items := by
  rw [wakeAt_eq]
  split
  · exact Int.min_le_left _ _
  · exact Int.le_refl _

theorem wakeAt_le_deadline {schedule : Schedule} {time : Int}
    (deadline : schedule.Deadline time) : schedule.wakeAt ≤ time := by
  rcases deadline with ⟨request, member, rfl⟩ | ⟨requested, rfl⟩
  · exact Int.le_trans schedule.wakeAt_le_earliest
      ((earliestDue_le _ _).2 request member)
  · rw [wakeAt_eq, if_pos requested]
    exact Int.min_le_right _ _

/-- Requests are due at proper time points, a restart at the last one at the
latest. -/
structure Timely (schedule : Schedule) : Prop where
  requests : ∀ request ∈ schedule.applyRequests, request.due < timePointMax
  restart : schedule.restartRequested = true →
    schedule.restartTime ≤ timePointMax

variable {schedule : Schedule}

theorem earliestDue_eq_due (timely : schedule.Timely)
    (queued : schedule.applyRequests.items ≠ []) :
    ∃ request ∈ schedule.applyRequests,
      earliestDue timePointMax schedule.applyRequests.items =
        request.due := by
  rcases earliestDue_attained timePointMax schedule.applyRequests.items with
    never | attained
  · obtain ⟨request, member⟩ := List.exists_mem_of_ne_nil _ queued
    have bound :=
      (earliestDue_le timePointMax schedule.applyRequests.items).2 request
        member
    have early := timely.requests request member
    omega
  · exact attained

theorem deadline_wakeAt (timely : schedule.Timely)
    (pending : ∃ time, schedule.Deadline time) :
    schedule.Deadline schedule.wakeAt := by
  by_cases queued : schedule.applyRequests.items = []
  · obtain ⟨time, ⟨request, member, _⟩ | ⟨requested, _⟩⟩ := pending
    · rw [Keyed.mem_def, queued] at member
      cases member
    · have only : schedule.wakeAt = schedule.restartTime := by
        rw [wakeAt_eq, if_pos requested, queued]
        exact Int.min_eq_right (timely.restart requested)
      exact .inr ⟨requested, only⟩
  · obtain ⟨request, member, due⟩ := earliestDue_eq_due timely queued
    rw [wakeAt_eq, due]
    split
    · rename_i requested
      rcases min_choice request.due schedule.restartTime with same | same
      · exact .inl ⟨request, member, same⟩
      · exact .inr ⟨requested, same⟩
    · exact .inl ⟨request, member, rfl⟩

/-- The timed wait ends at the first of all deadlines. -/
theorem wakeAt_isLeast (timely : schedule.Timely)
    (pending : ∃ time, schedule.Deadline time) :
    IsLeast {time | schedule.Deadline time} schedule.wakeAt :=
  ⟨deadline_wakeAt timely pending, fun _ deadline =>
    wakeAt_le_deadline deadline⟩

/-- The wait has no end only if the one thing to wait for is a restart at the
last time point. -/
theorem wakeAt_eq_max (timely : schedule.Timely)
    (pending : ∃ time, schedule.Deadline time)
    (last : schedule.wakeAt = timePointMax) :
    schedule.applyRequests.items = [] ∧ schedule.restartRequested = true ∧
      schedule.restartTime = timePointMax := by
  have none : schedule.applyRequests.items = [] := by
    by_contra queued
    obtain ⟨request, member, due⟩ := earliestDue_eq_due timely queued
    have bound := schedule.wakeAt_le_earliest
    have early := timely.requests request member
    omega
  refine ⟨none, ?_⟩
  rcases deadline_wakeAt timely pending with ⟨request, member, _⟩ | restart
  · rw [Keyed.mem_def, none] at member
    cases member
  · exact ⟨restart.1, restart.2.symm.trans last⟩

end Schedule

def ReconcilerStep.ReadsUpTo (latest : Int) (label : ReconcilerStep) :
    Prop :=
  ∀ now ∈ label.reading, now ≤ latest

instance (latest : Int) (label : ReconcilerStep) :
    Decidable (label.ReadsUpTo latest) :=
  inferInstanceAs (Decidable (∀ now ∈ label.reading, now ≤ latest))

/-- The clock reading of a step which asks for a restart of the monitor. -/
def ReconcilerStep.restartReading : ReconcilerStep → Option Int
  | .rerequestMonitor now => some now
  | .failMonitor now => some now
  | _ => none

namespace Reconciler

variable {state target : Reconciler} {label : ReconcilerStep} {latest : Int}

/-- Stamps are readings, a restart lies one delay after one, and a sleeping
worker has something to wake up for. -/
structure OnTime (latest : Int) (state : Reconciler) : Prop where
  stamps : ∀ request, state.Mentions request → request.requestTime ≤ latest
  restart : state.loaderRestartRequested = true →
    state.loaderRestartTime ≤ latest + monitorRestartDelay
  awaits : ∀ wakeAt, state.worker = .sleeping wakeAt → state.hasWork = true

theorem stamps_of_moves (wellFormed : state.WellFormed)
    (onTime : state.OnTime latest) (inTime : label.ReadsUpTo latest)
    (moves : state.Moves label target) (request : ApplyRequest)
    (mentioned : target.Mentions request) :
    request.requestTime ≤ latest := by
  cases mention_origin wellFormed moves mentioned with
  | kept before => exact onTime.stamps request before
  | retried running _ =>
      have before := onTime.stamps _ (.inr (.inr (.inl ⟨_, _, running⟩)))
      exact before
  | stamped reads => exact inTime _ reads

/-- What an iteration of the inner loop does, as the sections of the source
have it. -/
theorem collect_eq_some {now : Int} {order : List ApplyRequest}
    (collected : state.collect now order = some target) :
    order.Perm (state.toSchedule.collect now).ready.items ∧
      target = { state with
        shared := { state.shared with
          applyRequests :=
            (state.toSchedule.collect now).schedule.applyRequests }
        loaderRestartRequested :=
          (state.toSchedule.collect now).schedule.restartRequested
        worker :=
          if (state.toSchedule.collect now).restartLoader then
            .restarting order
          else if order = [] then
            .sleeping (state.toSchedule.collect now).schedule.wakeAt
          else .applying order } := by
  obtain ⟨permuted, same⟩ := Option.ite_none_right_eq_some.mp collected
  exact ⟨permuted, (Option.some.inj same).symm⟩

/-- A requested restart which is not taken stays requested. -/
theorem collect_requested {schedule : Schedule} {now : Int} :
    (schedule.collect now).schedule.restartRequested = true ↔
      schedule.restartRequested = true ∧ now < schedule.restartTime := by
  simp only [Schedule.collect]
  cases schedule.restartRequested with
  | false => simp
  | true => simp

theorem restart_of_moves (onTime : state.OnTime latest)
    (inTime : label.ReadsUpTo latest) (moves : state.Moves label target)
    (requested : target.loaderRestartRequested = true) :
    target.loaderRestartTime ≤ latest + monitorRestartDelay := by
  cases moves with
  | schedule _ collected =>
      obtain ⟨_, rfl⟩ := collect_eq_some collected
      exact onTime.restart (collect_requested.mp requested).1
  | rerequestMonitor => exact Int.add_le_add_right (inTime _ rfl) _
  | failMonitor => exact Int.add_le_add_right (inTime _ rfl) _
  | _ => exact onTime.restart requested

/-- The last step which asked for a restart determines its time. -/
def RestartAsked (labels : List ReconcilerStep) (state : Reconciler) : Prop :=
  state.loaderRestartRequested = true →
    labels.findSome? ReconcilerStep.restartReading =
      some (state.loaderRestartTime - monitorRestartDelay)

theorem restartAsked_of_moves {labels : List ReconcilerStep}
    (asked : state.RestartAsked labels) (moves : state.Moves label target) :
    target.RestartAsked (label :: labels) := by
  intro requested
  cases moves with
  | schedule _ collected =>
      obtain ⟨_, rfl⟩ := collect_eq_some collected
      exact asked (collect_requested.mp requested).1
  | rerequestMonitor =>
      exact congrArg some (Int.add_sub_cancel _ monitorRestartDelay).symm
  | failMonitor =>
      exact congrArg some (Int.add_sub_cancel _ monitorRestartDelay).symm
  | _ => exact asked requested

theorem hasWork_iff :
    state.hasWork = true ↔ ∃ time, state.toSchedule.Deadline time := by
  have queued : state.shared.applyRequests.items ≠ [] ↔
      ∃ request, request ∈ state.shared.applyRequests :=
    ⟨List.exists_mem_of_ne_nil _, fun ⟨_, member⟩ =>
      List.ne_nil_of_mem member⟩
  simp only [hasWork, Bool.or_eq_true, Bool.not_eq_true',
    List.isEmpty_eq_false_iff, queued]
  constructor
  · rintro (⟨request, member⟩ | requested)
    · exact ⟨_, .inl ⟨request, member, rfl⟩⟩
    · exact ⟨_, .inr ⟨requested, rfl⟩⟩
  · rintro ⟨_, ⟨request, member, _⟩ | ⟨requested, _⟩⟩
    · exact .inl ⟨request, member⟩
    · exact .inr requested

theorem timely_of_onTime (wellFormed : state.WellFormed)
    (onTime : state.OnTime (timePointMax - monitorRestartDelay)) :
    state.toSchedule.Timely where
  requests := by
    intro request member
    have stamp := onTime.stamps request (.inl member)
    have retries := (wellFormed.queued request member).retries
    simp only [ApplyRequest.due, defaultDelay, monitorRestartDelay,
      maxRetryCount] at *
    omega
  restart requested := by
    have bound := onTime.restart requested
    rwa [Int.sub_add_cancel] at bound

/-- The inner loop is entered and continued only with something to do. -/
theorem hasWork_of_schedule (onTime : state.OnTime latest) {now : Int}
    {order : List ApplyRequest}
    (stepped : state.step (.schedule now order) = some target) :
    state.hasWork = true ∧ state.collect now order = some target := by
  simp only [step] at stepped
  split at stepped
  · exact Option.ite_none_right_eq_some.mp stepped
  · rename_i wakeAt sleeping
    exact ⟨onTime.awaits wakeAt sleeping, stepped⟩
  · cases stepped

theorem hasWork_append (request : ApplyRequest) {next : Reconciler}
    (appended : next.shared = state.append request) :
    next.hasWork = true := by
  obtain ⟨queued, member, _⟩ :=
    queued_append_self request state.shared.applyRequests
  refine hasWork_iff.mpr ⟨_, .inl ⟨queued, ?_, rfl⟩⟩
  simp only [toSchedule, appended]
  exact member

/-- An iteration which finds nothing leaves the queue and the flag. -/
theorem collect_nothing {schedule : Schedule} {now : Int}
    (none : (schedule.collect now).ready.items = [])
    (noRestart : (schedule.collect now).restartLoader = false) :
    (schedule.collect now).schedule = schedule := by
  have kept : schedule.applyRequests.filter (fun request =>
      !request.isReady now) = schedule.applyRequests := by
    apply Keyed.filter_eq_self
    intro request member
    have unready := List.filter_eq_nil_iff.mp none request member
    simpa using unready
  have flag := collect_no_restart noRestart
  simp only [Schedule.collect] at flag ⊢
  rw [kept, flag]

/-- Other threads only add work while the worker sleeps. -/
theorem awaits_of_moves (onTime : state.OnTime latest)
    (moves : state.Moves label target)
    (other : ∀ now order, label ≠ .schedule now order) (wakeAt : Int)
    (sleeping : target.worker = .sleeping wakeAt) :
    target.hasWork = true := by
  cases moves with
  | appendPolicy => exact hasWork_append _ rfl
  | appendInterfaces => exact hasWork_append _ rfl
  | schedule => exact absurd rfl (other _ _)
  | restartMonitor =>
      simp only at sleeping
      split at sleeping
      · cases sleeping
      · cases sleeping
  | rerequestMonitor => cases sleeping
  | failMonitor => simp [hasWork, requestRestart]
  | startPass => cases sleeping
  | passOperation => cases sleeping
  | finishPass => cases sleeping
  | waitAgain => cases sleeping
  | _ => exact onTime.awaits wakeAt sleeping

end Reconciler

/-- The request is to be applied at a clock reading. -/
def ApplyRequest.ReadyAt (now : Int) (request : ApplyRequest) : Prop :=
  request.isImmediate = true ∨
    request.requestTime + request.retryCount * 500000000 ≤ now

theorem ApplyRequest.isReady_iff {now : Int} {request : ApplyRequest} :
    request.isReady now = true ↔ request.ReadyAt now := by
  rw [isReady, Bool.or_eq_true, decide_eq_true_eq]
  rfl

namespace Reconciler

variable {state target : Reconciler} {label : ReconcilerStep} {now : Int}
  {order : List ApplyRequest}

def RestartDue (state : Reconciler) (now : Int) : Prop :=
  state.loaderRestartRequested = true ∧ state.loaderRestartTime ≤ now

theorem restartLoader_iff :
    (state.toSchedule.collect now).restartLoader = true ↔
      state.RestartDue now := by
  simp only [Schedule.collect, toSchedule, RestartDue, Bool.and_eq_true]
  exact and_congr_right fun _ => decide_eq_true_iff

/-- The worker leaves the inner loop with what is due.  A restart is taken
and its flag cleared exactly if it is due. -/
structure Leaves (state target : Reconciler) (now : Int)
    (order : List ApplyRequest) : Prop where
  found : order ≠ [] ∨ state.RestartDue now
  ready : ∀ request, request ∈ order ↔
    request ∈ state.shared.applyRequests ∧ request.ReadyAt now
  once : order.Nodup
  queue : ∀ request, request ∈ target.shared.applyRequests ↔
    request ∈ state.shared.applyRequests ∧ ¬request.ReadyAt now
  restart :
    state.RestartDue now ∧ target.worker = .restarting order ∧
        target.loaderRestartRequested = false ∨
      ¬state.RestartDue now ∧ target.worker = .applying order ∧
        target.loaderRestartRequested = state.loaderRestartRequested

/-- The worker sleeps until the first deadline, which lies ahead. -/
structure Waits (state target : Reconciler) (now wakeAt : Int) : Prop where
  asleep : target = { state with worker := .sleeping wakeAt }
  unready : ∀ request ∈ state.shared.applyRequests, ¬request.ReadyAt now
  noRestart : ¬state.RestartDue now
  least : IsLeast {time | state.toSchedule.Deadline time} wakeAt
  ahead : now < wakeAt

theorem leaves_of_collect (collected : state.collect now order = some target)
    (found : order ≠ [] ∨ state.RestartDue now) :
    state.Leaves target now order := by
  obtain ⟨permuted, rfl⟩ := collect_eq_some collected
  refine ⟨found, ?_, ?_, ?_, ?_⟩
  · intro request
    rw [permuted.mem_iff]
    change request ∈ (state.toSchedule.collect now).ready ↔ _
    simp only [Schedule.collect, Keyed.mem_filter, toSchedule,
      ApplyRequest.isReady_iff]
  · rw [permuted.nodup_iff]
    exact (state.toSchedule.collect now).ready.distinct.of_map _
  · intro request
    simp only [Schedule.collect, Keyed.mem_filter, toSchedule,
      ← ApplyRequest.isReady_iff, Bool.not_eq_true', Bool.not_eq_true]
  · by_cases due : state.RestartDue now
    · have taken := restartLoader_iff.mpr due
      exact .inl ⟨due, by simp [taken], (collect_restart taken).2⟩
    · have left := eq_false_of_ne_true (mt restartLoader_iff.mp due)
      refine .inr ⟨due, ?_, collect_no_restart left⟩
      simp [left, found.resolve_right due]

/-- The deadline of an iteration which found nothing is ahead. -/
theorem ahead_of_deadline {time : Int}
    (unready : ∀ request ∈ state.shared.applyRequests,
      ¬request.ReadyAt now)
    (noRestart : ¬state.RestartDue now)
    (deadline : state.toSchedule.Deadline time) : now < time := by
  rcases deadline with ⟨request, member, rfl⟩ | ⟨requested, rfl⟩
  · exact Int.not_le.mp fun due => unready request member (.inr due)
  · exact Int.not_le.mp fun due => noRestart ⟨requested, due⟩

theorem waits_of_collect (timely : state.toSchedule.Timely)
    (pending : state.hasWork = true)
    (collected : state.collect now [] = some target)
    (noRestart : ¬state.RestartDue now) :
    state.Waits target now state.toSchedule.wakeAt := by
  have deadlines := hasWork_iff.mp pending
  obtain ⟨permuted, rfl⟩ := collect_eq_some collected
  have none : (state.toSchedule.collect now).ready.items = [] :=
    permuted.nil_eq.symm
  have left := eq_false_of_ne_true (mt restartLoader_iff.mp noRestart)
  have kept := collect_nothing none left
  have unready : ∀ request ∈ state.shared.applyRequests,
      ¬request.ReadyAt now := by
    intro request member ready
    exact List.filter_eq_nil_iff.mp none request member
      (ApplyRequest.isReady_iff.mpr ready)
  have least := Schedule.wakeAt_isLeast timely deadlines
  refine ⟨?_, unready, noRestart, least,
    ahead_of_deadline unready noRestart least.1⟩
  rw [kept, left]
  rfl

/-- An iteration of the inner loop either leaves with what is due or sleeps
until the first deadline. -/
theorem leaves_or_waits (timely : state.toSchedule.Timely)
    (onTime : state.OnTime latest)
    (stepped : state.step (.schedule now order) = some target) :
    state.Leaves target now order ∨
      state.Waits target now state.toSchedule.wakeAt := by
  obtain ⟨pending, collected⟩ := hasWork_of_schedule onTime stepped
  by_cases found : order ≠ [] ∨ state.RestartDue now
  · exact .inl (leaves_of_collect collected found)
  · obtain ⟨empty, noRestart⟩ := not_or.mp found
    rw [of_not_not empty] at collected
    exact .inr (waits_of_collect timely pending collected noRestart)

theorem wakeAt_le_max (state : Reconciler) :
    state.toSchedule.wakeAt ≤ timePointMax :=
  Int.le_trans state.toSchedule.wakeAt_le_earliest
    (Schedule.earliestDue_le _ _).1

/-- An iteration which puts the worker to sleep leaves it something to wake
up for. -/
theorem awaits_of_schedule (onTime : state.OnTime latest) {wakeAt : Int}
    (stepped : state.step (.schedule now order) = some target)
    (sleeping : target.worker = .sleeping wakeAt) :
    target.hasWork = true := by
  obtain ⟨pending, collected⟩ := hasWork_of_schedule onTime stepped
  obtain ⟨permuted, rfl⟩ := collect_eq_some collected
  simp only at sleeping
  split at sleeping
  · cases sleeping
  · rename_i notTaken
    split at sleeping
    · rename_i empty
      rw [empty] at permuted
      have kept := collect_nothing permuted.nil_eq.symm
        (eq_false_of_ne_true notTaken)
      simp only [hasWork, kept]
      exact pending
    · cases sleeping

theorem onTime_of_step (wellFormed : state.WellFormed)
    (onTime : state.OnTime latest) (inTime : label.ReadsUpTo latest)
    (stepped : state.step label = some target) : target.OnTime latest := by
  have moves := moves_of_step stepped
  refine ⟨stamps_of_moves wellFormed onTime inTime moves,
    restart_of_moves onTime inTime moves, ?_⟩
  intro wakeAt sleeping
  by_cases scheduled : ∃ now order, label = .schedule now order
  · obtain ⟨now, order, rfl⟩ := scheduled
    exact awaits_of_schedule onTime stepped sleeping
  · exact awaits_of_moves onTime moves
      (fun now order same => scheduled ⟨now, order, same⟩) wakeAt sleeping

theorem onTime_of_initial (initial : state.Initial) :
    state.OnTime latest where
  stamps request mentioned := by
    rcases mentioned with
      queued | taken | ⟨_, _, runs⟩ | ⟨publisher, stamped⟩
    · rw [Keyed.mem_def, initial.applyRequests] at queued
      cases queued
    · rw [initial.worker] at taken
      cases taken
    · rw [initial.worker] at runs
      cases runs
    · cases publisher with
      | caller thread => cases (initial.callers thread).symm.trans stamped
      | monitor =>
          obtain ⟨_, stands⟩ := stamped
          cases initial.monitor.symm.trans stands
  restart requested := by
    rw [initial.restart] at requested
    cases requested
  awaits wakeAt sleeping := by
    rw [initial.worker] at sleeping
    cases sleeping

/-- What a run has read bounds what it waits for. -/
theorem onTime_traced {run : Reconciler × List ReconcilerStep}
    (reached : reconciler.traced.Reachable run)
    (inTime : ∀ label ∈ run.2, label.ReadsUpTo latest) :
    run.1.OnTime latest := by
  induction reached with
  | initial start => exact onTime_of_initial start.1
  | next before _ stepped induction =>
      obtain ⟨taken, labels⟩ := Machine.traced_step stepped
      rw [labels] at inTime
      exact onTime_of_step (wellFormed_reachable (.of_traced before))
        (induction fun label member =>
          inTime label (List.mem_cons_of_mem _ member))
        (inTime _ List.mem_cons_self) taken

theorem restartAsked_traced {run : Reconciler × List ReconcilerStep}
    (reached : reconciler.traced.Reachable run) :
    run.1.RestartAsked run.2 := by
  induction reached with
  | initial start =>
      intro requested
      rw [start.1.restart] at requested
      cases requested
  | next _ _ stepped induction =>
      obtain ⟨taken, labels⟩ := Machine.traced_step stepped
      rw [labels]
      exact restartAsked_of_moves induction (moves_of_step taken)

end Reconciler

/-- In every run whose clock readings lie at least five seconds before the
last time point, an iteration of the worker's inner loop leaves with exactly
what is due, or sleeps until the first deadline.  The deadline is the last
time point only if no request is queued and the last request for a restart
read the clock exactly five seconds before it, so never if all readings are
earlier. -/
theorem schedule_leaves_or_waits {state target : Reconciler}
    {labels : List ReconcilerStep} {now : Int} {order : List ApplyRequest}
    (reached : reconciler.traced.Reachable (state, labels))
    (inTime : ∀ label ∈ labels,
      label.ReadsUpTo (timePointMax - 5000000000))
    (stepped : reconciler.step state (.schedule now order) = some target) :
    state.Leaves target now order ∨
      ∃ wakeAt, state.Waits target now wakeAt ∧
        (wakeAt < timePointMax ∨
          wakeAt = timePointMax ∧ state.shared.applyRequests.items = [] ∧
            labels.findSome? ReconcilerStep.restartReading =
              some (timePointMax - 5000000000)) ∧
        ((∀ label ∈ labels, label.ReadsUpTo (timePointMax - 5000000001)) →
          wakeAt < timePointMax) := by
  have onTime := Reconciler.onTime_traced reached inTime
  have timely := Reconciler.timely_of_onTime
    (Reconciler.wellFormed_reachable reached.of_traced) onTime
  rcases Reconciler.leaves_or_waits timely onTime stepped with leaves | waits
  · exact .inl leaves
  · -- what is known of a wait until the last time point
    have atMax : state.toSchedule.wakeAt = timePointMax →
        state.shared.applyRequests.items = [] ∧
          state.loaderRestartRequested = true ∧
          state.loaderRestartTime = timePointMax :=
      Schedule.wakeAt_eq_max timely ⟨_, waits.least.1⟩
    refine .inr ⟨_, waits, ?_, ?_⟩
    · rcases Int.lt_or_eq_of_le state.wakeAt_le_max with proper | last
      · exact .inl proper
      · obtain ⟨empty, requested, time⟩ := atMax last
        have asked := Reconciler.restartAsked_traced reached requested
        exact .inr ⟨last, empty, asked.trans (by rw [time]; rfl)⟩
    · intro earlier
      refine lt_of_le_of_ne state.wakeAt_le_max fun last => ?_
      obtain ⟨_, requested, time⟩ := atMax last
      have bound :=
        (Reconciler.onTime_traced reached earlier).restart requested
      simp only [time, monitorRestartDelay] at bound
      omega

/-- The pass for an attacher fails at the qdisc, and the monitor fails while
the retry is queued. -/
def retryingRun : List ReconcilerStep :=
  [.createAttacher sampleProgram {}, .mutate 7 0 (.addTarget "eth0"),
    .publishPolicy 7, .stampPolicy 7 10, .appendPolicy 7,
    .schedule 20 [.fresh 0 10], .startPass] ++
  List.replicate 3 (.passOperation (.faithful ⟨1, 1⟩)) ++
  [.passOperation (.failing (-1)), .passOperation (.faithful ⟨1, 1⟩),
    .finishPass, .waitAgain, .failMonitor 100]

theorem retryingRun_enabled :
    (reconciler.traced.runWhere (fun _ _ => True) (sampleReconciler, [])
      retryingRun).isSome = true := by
  decide +kernel

def retryingReconciler : Reconciler × List ReconcilerStep :=
  reconciler.traced.finish (sampleReconciler, []) retryingRun
    retryingRun_enabled

theorem sampleRun_initial :
    reconciler.traced.initial (sampleReconciler, []) :=
  ⟨sampleReconciler_initial, rfl⟩

theorem retryingReconciler_reachable :
    reconciler.traced.Reachable retryingReconciler :=
  Machine.reachable_finish sampleRun_initial retryingRun_enabled

theorem retryingReconciler_schedule :
    ∃ target,
      reconciler.step retryingReconciler.1 (.schedule 200 []) = some target ∧
        target.worker = .sleeping 500000010 :=
  ⟨_, rfl, rfl⟩

/-- The retry is due before the restart. -/
theorem schedule_leaves_or_waits_retrying :
    retryingReconciler.1.shared.applyRequests.items =
        [{ id := 0, retryCount := 1, isImmediate := false,
           requestTime := 10 }] ∧
      retryingReconciler.1.loaderRestartTime = 5000000100 ∧
      ∃ target,
        reconciler.step retryingReconciler.1 (.schedule 200 []) =
            some target ∧
          retryingReconciler.1.Waits target 200 500000010 := by
  obtain ⟨target, stepped, sleeping⟩ := retryingReconciler_schedule
  refine ⟨by decide +kernel, by decide +kernel, target, stepped, ?_⟩
  rcases schedule_leaves_or_waits retryingReconciler_reachable
      (by decide +kernel) stepped with leaves | ⟨wakeAt, waits, _⟩
  · rcases leaves.restart with ⟨_, restarting, _⟩ | ⟨_, applying, _⟩
    · cases restarting.symm.trans sleeping
    · cases applying.symm.trans sleeping
  · have same := sleeping.symm.trans (congrArg Reconciler.worker waits.asleep)
    cases same
    exact waits

/-- The monitor has failed at a clock reading and nothing else has
happened. -/
def failedAt (now : Int) : Reconciler :=
  sampleReconciler.requestRestart now

/-- The monitor fails exactly five seconds before the last time point, and
the worker sleeps until that. -/
theorem schedule_waits_for_max :
    reconciler.traced.Reachable (failedAt (timePointMax - 5000000000),
        [.failMonitor (timePointMax - 5000000000)]) ∧
      ReconcilerStep.ReadsUpTo (timePointMax - 5000000000)
        (.failMonitor (timePointMax - 5000000000)) ∧
      reconciler.step (failedAt (timePointMax - 5000000000))
          (.schedule (timePointMax - 5000000000) []) =
        some { failedAt (timePointMax - 5000000000) with
          worker := .sleeping timePointMax } :=
  ⟨.next (.initial sampleRun_initial) trivial
      (show reconciler.traced.step _ (.failMonitor _) = _ from rfl),
    by decide, rfl⟩

end LibbpfControl.BpfTool
