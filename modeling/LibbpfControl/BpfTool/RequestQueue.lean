import Mathlib.Algebra.Group.Int.Defs
import LibbpfControl.Keyed

/-!
# Apply requests and the worker's scheduling step

Requests are coalesced by attacher id.  `collect` is one iteration of the
inner loop of the worker: it takes the due requests out of the queue, and
says when to wake up when nothing is due.
-/

namespace LibbpfControl.BpfTool

/-- `TimePoint::max()`; `steady_clock` time points are nanoseconds. -/
def timePointMax : Int := 2 ^ 63 - 1

def defaultDelay : Int := 500000000
def monitorRestartDelay : Int := 5000000000
def maxRetryCount : Nat := 5

structure ApplyRequest where
  id : Nat
  retryCount : Nat
  isImmediate : Bool
  requestTime : Int
  deriving DecidableEq, Repr

/-- `ApplyRequest(id, true)`, stamped with the clock reading `now`. -/
def ApplyRequest.fresh (id : Nat) (now : Int) : ApplyRequest :=
  { id := id, retryCount := 0, isImmediate := true, requestTime := now }

def ApplyRequest.due (request : ApplyRequest) : Int :=
  request.requestTime + request.retryCount * defaultDelay

/-- `std::unordered_set<ApplyRequest, ApplyRequestHash>`, where requests are
equal when their ids are. -/
abbrev ApplyRequestQueue : Type := Keyed ApplyRequest.id

/-- The critical section of `append_apply_request`; the flag says whether the
worker is notified. -/
def appendApplyRequest (request : ApplyRequest) (queue : ApplyRequestQueue) :
    ApplyRequestQueue × Bool :=
  match queue.find? request.id with
  | none => (queue.insert request, true)
  | some old =>
      if old.requestTime ≤ request.requestTime then
        ((queue.erase request.id).insert request, true)
      else (queue, false)

/-- A queue holds some request of an attacher. -/
def Queued (queue : ApplyRequestQueue) (id : Nat) : Prop :=
  ∃ request ∈ queue, request.id = id

private theorem find?_erase_self {queue : ApplyRequestQueue} {id : Nat} :
    (queue.erase id).find? id = none := by
  rw [Keyed.find?_eq_none_iff]
  intro item member
  exact (Keyed.mem_erase.mp member).2

/-- The requests after an append: those of the other ids, and for the id of
the request either the request itself or the later one which was queued. -/
theorem mem_appendApplyRequest {request item : ApplyRequest}
    {queue : ApplyRequestQueue} :
    item ∈ (appendApplyRequest request queue).1 ↔
      (item ∈ queue ∧ item.id ≠ request.id) ∨
      (item = request ∧ ∀ old ∈ queue, old.id = request.id →
        old.requestTime ≤ request.requestTime) ∨
      (item ∈ queue ∧ item.id = request.id ∧
        request.requestTime < item.requestTime) := by
  unfold appendApplyRequest
  cases found : queue.find? request.id with
  | none =>
      have absent := Keyed.find?_eq_none_iff.mp found
      simp only [Keyed.mem_insert_of_absent found]
      constructor
      · rintro (rfl | member)
        · exact Or.inr (Or.inl ⟨rfl, fun old oldMember same =>
            (absent old oldMember same).elim⟩)
        · exact Or.inl ⟨member, absent item member⟩
      · rintro (⟨member, _⟩ | ⟨rfl, _⟩ | ⟨member, same, _⟩)
        · exact Or.inr member
        · exact Or.inl rfl
        · exact (absent item member same).elim
  | some old =>
      obtain ⟨oldMember, oldSame⟩ := Keyed.find?_eq_some_iff.mp found
      have unique : ∀ other ∈ queue, other.id = request.id → other = old :=
        fun other member same =>
          Keyed.eq_of_mem member oldMember (same.trans oldSame.symm)
      by_cases older : old.requestTime ≤ request.requestTime
      · simp only [older, if_true,
          Keyed.mem_insert_of_absent find?_erase_self, Keyed.mem_erase]
        constructor
        · rintro (rfl | ⟨member, other⟩)
          · refine Or.inr (Or.inl ⟨rfl, ?_⟩)
            intro other member same
            rw [unique other member same]
            exact older
          · exact Or.inl ⟨member, other⟩
        · rintro (⟨member, other⟩ | ⟨rfl, _⟩ | ⟨member, same, later⟩)
          · exact Or.inr ⟨member, other⟩
          · exact Or.inl rfl
          · rw [unique item member same] at later
            omega
      · simp only [older, if_false]
        constructor
        · intro member
          by_cases same : item.id = request.id
          · refine Or.inr (Or.inr ⟨member, same, ?_⟩)
            rw [unique item member same]
            omega
          · exact Or.inl ⟨member, same⟩
        · rintro (⟨member, _⟩ | ⟨rfl, latest⟩ | ⟨member, _⟩)
          · exact member
          · exact (older (latest old oldMember oldSame)).elim
          · exact member

/-- A queued request is replaced only by one with the same or a later
stamp. -/
theorem mem_append_or_newer (request : ApplyRequest) {item : ApplyRequest}
    {queue : ApplyRequestQueue} (member : item ∈ queue) :
    item ∈ (appendApplyRequest request queue).1 ∨
      request ∈ (appendApplyRequest request queue).1 ∧
        request.id = item.id ∧ item.requestTime ≤ request.requestTime := by
  by_cases same : item.id = request.id
  · by_cases older : item.requestTime ≤ request.requestTime
    · refine .inr ⟨mem_appendApplyRequest.mpr (.inr (.inl ⟨rfl, ?_⟩)),
        same.symm, older⟩
      intro old oldMember sameId
      rw [Keyed.eq_of_mem oldMember member (sameId.trans same.symm)]
      exact older
    · exact .inl (mem_appendApplyRequest.mpr
        (.inr (.inr ⟨member, same, Int.not_le.mp older⟩)))
  · exact .inl (mem_appendApplyRequest.mpr (.inl ⟨member, same⟩))

/-- Whatever the stamps are, an append leaves a request of that id queued. -/
theorem queued_append_self (request : ApplyRequest)
    (queue : ApplyRequestQueue) :
    Queued (appendApplyRequest request queue).1 request.id := by
  by_cases latest : ∀ old ∈ queue, old.id = request.id →
      old.requestTime ≤ request.requestTime
  · exact ⟨request,
      mem_appendApplyRequest.mpr (Or.inr (Or.inl ⟨rfl, latest⟩)), rfl⟩
  · simp only [not_forall, Int.not_le] at latest
    obtain ⟨old, member, same, later⟩ := latest
    exact ⟨old,
      mem_appendApplyRequest.mpr (Or.inr (Or.inr ⟨member, same, later⟩)),
      same⟩

/-- An append never removes the last request of an id. -/
theorem queued_append_of_queued {request : ApplyRequest}
    {queue : ApplyRequestQueue} {id : Nat} (queued : Queued queue id) :
    Queued (appendApplyRequest request queue).1 id := by
  by_cases same : id = request.id
  · rw [same]
    exact queued_append_self request queue
  · obtain ⟨old, member, rfl⟩ := queued
    exact ⟨old, mem_appendApplyRequest.mpr (Or.inl ⟨member, same⟩), rfl⟩

def ApplyRequest.isReady (now : Int) (request : ApplyRequest) : Bool :=
  request.isImmediate || decide (request.due ≤ now)

/-- The part of the manager which the worker's inner loop works on, under
`retry_cv_mutex_`. -/
structure Schedule where
  applyRequests : ApplyRequestQueue
  restartRequested : Bool
  restartTime : Int

/-- The two ways in which other threads and the worker itself add work. -/
inductive Work where
  | append (request : ApplyRequest)
  | restart (now : Int)
  deriving DecidableEq, Repr

/-- The critical section which adds work; the flag says whether a
notification follows. -/
def Schedule.add (schedule : Schedule) : Work → Schedule × Bool
  | .append request =>
      let appended := appendApplyRequest request schedule.applyRequests
      ({ schedule with applyRequests := appended.1 }, appended.2)
  | .restart now =>
      ({ schedule with
          restartRequested := true
          restartTime := now + monitorRestartDelay }, true)

/-- What one iteration found to do. -/
structure Collected where
  schedule : Schedule
  ready : ApplyRequestQueue
  restartLoader : Bool

def Schedule.collect (schedule : Schedule) (now : Int) : Collected :=
  let restartLoader :=
    schedule.restartRequested && decide (schedule.restartTime ≤ now)
  { schedule :=
      { schedule with
        applyRequests :=
          schedule.applyRequests.filter fun request => !request.isReady now
        restartRequested := schedule.restartRequested && !restartLoader }
    ready := schedule.applyRequests.filter (·.isReady now)
    restartLoader := restartLoader }

/-- The deadline of the timed wait. -/
def Schedule.wakeAt (schedule : Schedule) : Int :=
  let earliest := schedule.applyRequests.items.foldl
    (fun wakeAt request => min wakeAt request.due) timePointMax
  if schedule.restartRequested then min earliest schedule.restartTime
  else earliest

/-- No request is lost by an iteration: it stays queued or becomes ready. -/
theorem collect_partition (schedule : Schedule) (now : Int)
    (request : ApplyRequest) :
    request ∈ schedule.applyRequests ↔
      request ∈ (schedule.collect now).schedule.applyRequests ∨
        request ∈ (schedule.collect now).ready := by
  simp only [Schedule.collect, Keyed.mem_filter]
  cases request.isReady now <;> simp

/-- A restart is taken by an iteration only if it was requested, and then the
request is cleared. -/
theorem collect_restart {schedule : Schedule} {now : Int}
    (taken : (schedule.collect now).restartLoader = true) :
    schedule.restartRequested = true ∧
      (schedule.collect now).schedule.restartRequested = false := by
  simp only [Schedule.collect, Bool.and_eq_true] at taken ⊢
  simp [taken]

/-- A request which is not taken stays. -/
theorem collect_no_restart {schedule : Schedule} {now : Int}
    (left : (schedule.collect now).restartLoader = false) :
    (schedule.collect now).schedule.restartRequested =
      schedule.restartRequested := by
  simp only [Schedule.collect] at left ⊢
  simp [left]

end LibbpfControl.BpfTool
