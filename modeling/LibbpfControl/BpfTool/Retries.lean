import Mathlib.Algebra.GroupWithZero.Nat
import LibbpfControl.BpfTool.Reconciler

/-!
# Retries are bounded

A request may be tried `maxRetryCount + 1` times in all; what is left of that
is its allowance.  Appending, scheduling, starting and failing a pass never
create more of it: a pass uses up one unit, and the retry which a failed pass
appends has what remains.  The allowances of the queued requests, of those
held by the worker and of the retry a running pass may still append, together
with the passes executed, are therefore covered by the fresh requests.
-/

namespace LibbpfControl.BpfTool

/-- The passes which a request can still cause. -/
def ApplyRequest.allowance (request : ApplyRequest) : Nat :=
  maxRetryCount + 1 - request.retryCount

/-- The allowance of a request as far as it counts for one attacher. -/
def ApplyRequest.allowanceFor (id : Nat) (request : ApplyRequest) : Nat :=
  if request.id = id then request.allowance else 0

def budget (id : Nat) (requests : List ApplyRequest) : Nat :=
  (requests.map (ApplyRequest.allowanceFor id)).sum

section Budget

variable {id : Nat}

theorem budget_cons (request : ApplyRequest) (requests : List ApplyRequest) :
    budget id (request :: requests) =
      request.allowanceFor id + budget id requests :=
  List.sum_cons

theorem budget_perm {first second : List ApplyRequest}
    (permuted : first.Perm second) : budget id first = budget id second :=
  (permuted.map _).sum_nat

/-- Splitting a queue by a test loses and gains nothing. -/
theorem budget_filter_add (test : ApplyRequest → Bool)
    (requests : List ApplyRequest) :
    budget id (requests.filter fun request => !test request) +
        budget id (requests.filter test) = budget id requests := by
  induction requests with
  | nil => rfl
  | cons request requests induction =>
      cases passes : test request with
      | true =>
          simp only [List.filter_cons, passes, Bool.not_true,
            Bool.false_eq_true, if_false, if_true, budget_cons]
          omega
      | false =>
          simp only [List.filter_cons, passes, Bool.not_false,
            Bool.false_eq_true, if_false, if_true, budget_cons]
          omega

variable (id)

theorem budget_insert (request : ApplyRequest) (queue : ApplyRequestQueue) :
    budget id (queue.insert request).items ≤
      budget id queue.items + request.allowanceFor id := by
  unfold Keyed.insert
  split
  · exact Nat.le_add_right _ _
  · rw [budget_cons, Nat.add_comm]

theorem budget_erase (queue : ApplyRequestQueue) (erased : Nat) :
    budget id (queue.erase erased).items ≤ budget id queue.items := by
  have split : _ = budget id queue.items :=
    budget_filter_add (fun request => decide (request.id ≠ erased))
      queue.items
  simp only [Keyed.erase, Keyed.filter]
  omega

/-- An append adds the allowance of the request at most. -/
theorem budget_append (request : ApplyRequest) (queue : ApplyRequestQueue) :
    budget id (appendApplyRequest request queue).1.items ≤
      budget id queue.items + request.allowanceFor id := by
  unfold appendApplyRequest
  split
  · exact budget_insert id request queue
  · split
    · have inserted := budget_insert id request (queue.erase request.id)
      have erased := budget_erase id queue request.id
      simp only
      omega
    · exact Nat.le_add_right _ _

end Budget

/-- What an operation of a pass adds to the queue. -/
def retryCost (id : Nat) : ManagerOp → Nat
  | .appendApplyRequest request => request.allowanceFor id
  | _ => 0

/-- The request which a failed pass appends. -/
def ApplyRequest.retry (request : ApplyRequest) : ApplyRequest :=
  { request with
    isImmediate := false
    retryCount := request.retryCount + 1 }

/-- A pass reads the attacher of its request, and appends nothing but its
retry, and that only within the limit. -/
def RetryOp (request : ApplyRequest) : ManagerOp → Prop
  | .getAttacher id => id = request.id
  | .appendApplyRequest appended =>
      appended = request.retry ∧ request.retryCount < maxRetryCount
  | _ => True

section Pass

variable {request : ApplyRequest}

theorem retryCost_kernelOp {spec : AttachSpec} {prog : BpfProgram}
    {operation : ManagerOp} (id : Nat) (made : KernelOp spec prog operation) :
    retryCost id operation = 0 := by
  cases operation with
  | appendApplyRequest => exact made.elim
  | _ => rfl

theorem retryOp_kernelOp {spec : AttachSpec} {prog : BpfProgram}
    {operation : ManagerOp} (made : KernelOp spec prog operation) :
    RetryOp request operation := by
  cases operation with
  | getAttacher => exact made.elim
  | appendApplyRequest => exact made.elim
  | _ => trivial

theorem finishPass_retryOp (isApplySuccess : Bool) :
    (finishPass request isApplySuccess).Uses (RetryOp request) := by
  unfold finishPass
  split
  · trivial
  · dsimp only
    split
    · trivial
    · rename_i within
      exact ⟨⟨rfl, Nat.lt_of_succ_le (Nat.le_of_not_lt within)⟩,
        fun _ => trivial⟩

theorem pass_retryOp (request : ApplyRequest) :
    (applyTargetsPolicyPerAttacher request).Uses (RetryOp request) := by
  refine ⟨rfl, fun attacher => ⟨trivial, fun interfaces => ?_⟩⟩
  refine Program.Uses.bind ?_ finishPass_retryOp
  exact (applyInterfaces_kernelOp attacher.1 interfaces.items true).mono
    fun _ => retryOp_kernelOp

/-- The retry has what remains after the pass itself. -/
theorem retry_allowanceFor (id : Nat) :
    request.retry.allowanceFor id = request.allowanceFor id - 1 := by
  by_cases same : request.id = id
  · simp only [ApplyRequest.allowanceFor, ApplyRequest.allowance,
      ApplyRequest.retry, same, if_true]
    omega
  · simp [ApplyRequest.allowanceFor, ApplyRequest.retry, same]

theorem finishPass_costs (id : Nat) (isApplySuccess : Bool) :
    (finishPass request isApplySuccess).CostsAtMost (retryCost id)
      (request.allowanceFor id - 1) := by
  unfold finishPass
  split
  · trivial
  · dsimp only
    split
    · trivial
    · exact ⟨(retry_allowanceFor id).le, fun _ => trivial⟩

theorem pass_costs (request : ApplyRequest) (id : Nat) :
    (applyTargetsPolicyPerAttacher request).CostsAtMost (retryCost id)
      (request.allowanceFor id - 1) := by
  refine ⟨Nat.zero_le _, fun attacher => ⟨Nat.zero_le _, fun interfaces => ?_⟩⟩
  exact Program.CostsAtMost.bind
    (applyInterfaces_kernelOp attacher.1 interfaces.items true)
    (fun _ => retryCost_kernelOp id) (finishPass_costs id)

end Pass

/-- A request of an existing attacher within its retries. -/
structure ApplyRequest.WellFormed (attachers : Nat) (request : ApplyRequest) :
    Prop where
  known : request.id < attachers
  retries : request.retryCount ≤ maxRetryCount
  immediate : request.isImmediate = true ↔ request.retryCount = 0

theorem ApplyRequest.fresh_wellFormed {attachers id : Nat} (now : Int)
    (known : id < attachers) :
    (ApplyRequest.fresh id now).WellFormed attachers :=
  ⟨known, Nat.zero_le _, iff_of_true rfl rfl⟩

namespace ApplyRequest.WellFormed

variable {attachers : Nat} {request : ApplyRequest}

theorem mono {more : Nat} (wellFormed : request.WellFormed attachers)
    (grown : attachers ≤ more) : request.WellFormed more :=
  ⟨Nat.lt_of_lt_of_le wellFormed.known grown, wellFormed.retries,
    wellFormed.immediate⟩

theorem retry (wellFormed : request.WellFormed attachers)
    (within : request.retryCount < maxRetryCount) :
    request.retry.WellFormed attachers :=
  ⟨wellFormed.known, within, iff_of_false Bool.false_ne_true (Nat.succ_ne_zero _)⟩

/-- A pass uses up a part of the allowance. -/
theorem allowance_pos (wellFormed : request.WellFormed attachers) :
    0 < request.allowanceFor request.id := by
  have retries := wellFormed.retries
  simp only [allowanceFor, allowance, if_true]
  omega

end ApplyRequest.WellFormed

/-- The ids with which a thread is on its way to an append exist. -/
def CallerState.Known (attachers : Nat) : CallerState → Prop
  | .idle => True
  | .mutated id => id < attachers
  | .published id => id < attachers
  | .stamped request => request.WellFormed attachers

def NotifierState.Known (attachers : Nat) : NotifierState → Prop
  | .idle => True
  | .published => True
  | .notifying count _ => count ≤ attachers
  | .stamped count request =>
      count ≤ attachers ∧ request.WellFormed attachers

theorem CallerState.Known.mono {caller : CallerState} {attachers more : Nat}
    (known : caller.Known attachers) (grown : attachers ≤ more) :
    caller.Known more := by
  cases caller with
  | idle => trivial
  | mutated id => exact Nat.lt_of_lt_of_le known grown
  | published id => exact Nat.lt_of_lt_of_le known grown
  | stamped request => exact ApplyRequest.WellFormed.mono known grown

theorem NotifierState.Known.mono {monitor : NotifierState}
    {attachers more : Nat} (known : monitor.Known attachers)
    (grown : attachers ≤ more) : monitor.Known more := by
  cases monitor with
  | idle => trivial
  | published => trivial
  | notifying count next => exact Nat.le_trans known grown
  | stamped count request =>
      exact ⟨Nat.le_trans known.1 grown, known.2.mono grown⟩

namespace Reconciler

variable {state target : Reconciler} {label : ReconcilerStep}

def attacherCount (state : Reconciler) : Nat :=
  state.shared.attachers.length

structure WellFormed (state : Reconciler) : Prop where
  ids : ∀ (index : Nat) (attacher : Attacher),
    state.shared.attachers[index]? = some attacher → attacher.id = index
  callers : ∀ thread, (state.callers thread).Known state.attacherCount
  monitor : state.monitor.Known state.attacherCount
  queued : ∀ request ∈ state.shared.applyRequests,
    request.WellFormed state.attacherCount
  ready : ∀ request ∈ state.worker.ready,
    request.WellFormed state.attacherCount
  running : ∀ request program ready,
    state.worker = .running request program ready →
    request.WellFormed state.attacherCount ∧
      program.Uses (RetryOp request)

theorem ids_set {attachers : List Attacher} {changed : Attacher} {slot : Nat}
    (ids : ∀ (index : Nat) (attacher : Attacher),
      attachers[index]? = some attacher → attacher.id = index)
    (same : changed.id = slot) (index : Nat) (attacher : Attacher)
    (found : (attachers.set slot changed)[index]? = some attacher) :
    attacher.id = index := by
  rw [List.getElem?_set] at found
  split at found
  · rename_i here
    split at found
    · cases found
      exact same.trans here
    · cases found
  · exact ids index attacher found

theorem ids_of_moves (wellFormed : state.WellFormed)
    (moves : state.Moves label target) (index : Nat) (attacher : Attacher)
    (found : target.shared.attachers[index]? = some attacher) :
    attacher.id = index := by
  cases moves with
  | createAttacher =>
      rw [List.getElem?_append] at found
      split at found
      · exact wellFormed.ids index attacher found
      · rename_i beyond
        rw [List.getElem?_singleton] at found
        split at found
        · rename_i last
          cases found
          exact Nat.le_antisymm (Nat.le_of_not_lt beyond)
            (Nat.le_of_sub_eq_zero last)
        · cases found
  | @mutate _ _ op mutated _ present =>
      refine ids_set wellFormed.ids ?_ index attacher found
      exact (mutated.mutate_id op).trans (wellFormed.ids _ _ present)
  | @publishPolicy _ id published _ present =>
      have same : published.changePolicy.id = id :=
        wellFormed.ids id published present
      exact ids_set wellFormed.ids same index attacher found
  | schedule _ collected =>
      obtain ⟨_, _, _, rfl, _⟩ := collect_frame collected
      exact wellFormed.ids index attacher found
  | passOperation _ advanced =>
      obtain ⟨_, answered, _, _⟩ := Program.advance_eq_some advanced
      simp only [(answer_frame answered).1] at found
      exact wellFormed.ids index attacher found
  | _ => exact wellFormed.ids index attacher found

theorem known_of_present {id : Nat} {attacher : Attacher}
    (present : state.shared.attachers[id]? = some attacher) :
    id < state.attacherCount :=
  (List.getElem?_eq_some_iff.mp present).1

theorem WellFormed.caller (wellFormed : state.WellFormed) {thread : Nat}
    {caller : CallerState} (stands : state.callers thread = caller) :
    caller.Known state.attacherCount := by
  rw [← stands]
  exact wellFormed.callers thread

theorem callers_of_moves (wellFormed : state.WellFormed)
    (moves : state.Moves label target) (thread : Nat) :
    (target.callers thread).Known target.attacherCount := by
  have grown := attachers_grow moves
  have update : ∀ {mover : Nat} {now : CallerState},
      now.Known state.attacherCount →
      (Function.update state.callers mover now thread).Known
        target.attacherCount := by
    intro mover now known
    rw [Function.update_apply]
    split
    · exact known.mono grown
    · exact (wellFormed.callers thread).mono grown
  cases moves with
  | mutate idle present =>
      refine update ?_
      split
      · exact known_of_present present
      · trivial
  | publishPolicy mutated =>
      have known : _ < state.attacherCount := wellFormed.caller mutated
      exact update known
  | stampPolicy published =>
      exact update
        (ApplyRequest.fresh_wellFormed _ (wellFormed.caller published))
  | appendPolicy => exact update trivial
  | schedule _ collected =>
      obtain ⟨_, _, _, rfl, _⟩ := collect_frame collected
      exact (wellFormed.callers thread).mono grown
  | _ => exact (wellFormed.callers thread).mono grown

theorem monitor_of_moves (wellFormed : state.WellFormed)
    (moves : state.Moves label target) :
    target.monitor.Known target.attacherCount := by
  have grown := attachers_grow moves
  have known := wellFormed.monitor
  cases moves with
  | publishInterfaces => trivial
  | countAttachers => exact Nat.le_refl _
  | stampInterfaces notifying below =>
      rw [notifying] at known
      exact ⟨known, ApplyRequest.fresh_wellFormed _
        (Nat.lt_of_lt_of_le below known)⟩
  | appendInterfaces stamped =>
      rw [stamped] at known
      exact known.1
  | finishInterfaces => trivial
  | schedule _ collected =>
      obtain ⟨_, _, _, rfl, _⟩ := collect_frame collected
      exact known.mono grown
  | _ => exact known.mono grown

theorem WellFormed.stamped (wellFormed : state.WellFormed)
    {request : ApplyRequest} {publisher : Publisher}
    (stamped : state.Stamped request publisher) :
    request.WellFormed state.attacherCount := by
  cases publisher with
  | caller thread => exact wellFormed.caller stamped
  | monitor =>
      obtain ⟨count, stands⟩ := stamped
      have known := wellFormed.monitor
      rw [stands] at known
      exact known.2

/-- What a pass appends is its retry. -/
theorem WellFormed.retried (wellFormed : state.WellFormed)
    {original request : ApplyRequest} {next : Unit → ManagerProgram Bool}
    {ready : List ApplyRequest}
    (running : state.worker =
      .running original (.call (.appendApplyRequest request) next) ready) :
    request = original.retry ∧ request.WellFormed state.attacherCount := by
  obtain ⟨held, allowed, _⟩ := wellFormed.running _ _ _ running
  refine ⟨allowed.1, ?_⟩
  rw [allowed.1]
  exact held.retry allowed.2

theorem queued_of_moves (wellFormed : state.WellFormed)
    (moves : state.Moves label target) :
    ∀ request ∈ target.shared.applyRequests,
      request.WellFormed target.attacherCount := by
  intro request member
  refine ApplyRequest.WellFormed.mono ?_ (attachers_grow moves)
  rcases queued_origin moves member with
    old | ⟨_, stamped⟩ | ⟨_, _, _, running⟩
  · exact wellFormed.queued request old
  · exact wellFormed.stamped stamped
  · exact (wellFormed.retried running).2

theorem ready_of_moves (wellFormed : state.WellFormed)
    (moves : state.Moves label target) :
    ∀ request ∈ target.worker.ready,
      request.WellFormed target.attacherCount := by
  intro request member
  refine ApplyRequest.WellFormed.mono ?_ (attachers_grow moves)
  rcases ready_origin moves member with queued | ready
  · exact wellFormed.queued request queued
  · exact wellFormed.ready request ready

theorem running_of_moves (wellFormed : state.WellFormed)
    (moves : state.Moves label target) (request : ApplyRequest)
    (program : ManagerProgram Bool) (ready : List ApplyRequest)
    (runs : target.worker = .running request program ready) :
    request.WellFormed target.attacherCount ∧
      program.Uses (RetryOp request) := by
  have grown := attachers_grow moves
  cases running_origin moves runs with
  | kept running =>
      obtain ⟨held, uses⟩ := wellFormed.running _ _ _ running
      exact ⟨held.mono grown, uses⟩
  | started taken =>
      exact ⟨(wellFormed.ready request taken).mono grown,
        pass_retryOp request⟩
  | advanced running advanced =>
      obtain ⟨held, uses⟩ := wellFormed.running _ _ _ running
      exact ⟨held.mono grown, (uses.advance advanced).2⟩

theorem wellFormed_of_moves (wellFormed : state.WellFormed)
    (moves : state.Moves label target) : target.WellFormed where
  ids := ids_of_moves wellFormed moves
  callers := callers_of_moves wellFormed moves
  monitor := monitor_of_moves wellFormed moves
  queued := queued_of_moves wellFormed moves
  ready := ready_of_moves wellFormed moves
  running := running_of_moves wellFormed moves

theorem wellFormed_of_initial (initial : state.Initial) :
    state.WellFormed where
  ids index attacher found := by
    rw [initial.attachers] at found
    cases found
  callers thread := by
    rw [initial.callers thread]
    trivial
  monitor := by
    rw [initial.monitor]
    trivial
  queued request member := by
    rw [Keyed.mem_def, initial.applyRequests] at member
    cases member
  ready request member := by
    rw [initial.worker] at member
    cases member
  running request program ready running := by
    rw [initial.worker] at running
    cases running

theorem wellFormed_reachable (reached : reconciler.Reachable state) :
    state.WellFormed :=
  reached.invariant (fun _ initial => wellFormed_of_initial initial)
    fun _ _ _ wellFormed stepped =>
      wellFormed_of_moves wellFormed (moves_of_step stepped)

end Reconciler

def ReconcilerEvent.finishes (id : Nat) : ReconcilerEvent → Bool
  | .passFinished other _ => other = id
  | _ => false

def ReconcilerEvent.requests (id : Nat) : ReconcilerEvent → Bool
  | .requested _ other => other = id
  | _ => false

/-- Whether the worker executes a pass of the attacher, as a number. -/
def WorkerState.runs (id : Nat) : WorkerState → Nat
  | .running request _ _ => if request.id = id then 1 else 0
  | _ => 0

/-- The passes of an attacher executed so far, the running one included. -/
def Reconciler.passes (state : Reconciler) (id : Nat) : Nat :=
  state.history.countP (ReconcilerEvent.finishes id) + state.worker.runs id

/-- The requests made for an attacher after a change of its policy or of the
interfaces. -/
def Reconciler.freshRequests (state : Reconciler) (id : Nat) : Nat :=
  state.history.countP (ReconcilerEvent.requests id)

/-- What the worker may still append and start comes to `left` at most. -/
def WorkerState.Owes (worker : WorkerState) (id left : Nat) : Prop :=
  match worker with
  | .running _ program ready =>
      ∃ bound, program.CostsAtMost (retryCost id) bound ∧
        left = bound + budget id ready
  | _ => left = budget id worker.ready

/-- Every executed or possible pass of the attacher is covered by a fresh
request. -/
def Reconciler.Funded (id : Nat) (state : Reconciler) : Prop :=
  ∃ left, state.worker.Owes id left ∧
    state.passes id + budget id state.shared.applyRequests.items + left ≤
      (maxRetryCount + 1) * state.freshRequests id

namespace Reconciler

variable {state target : Reconciler} {label : ReconcilerStep} {id : Nat}

theorem allowanceFor_le (request : ApplyRequest) :
    request.allowanceFor id ≤
      (maxRetryCount + 1) * (if request.id = id then 1 else 0) := by
  unfold ApplyRequest.allowanceFor ApplyRequest.allowance
  split
  · omega
  · exact Nat.zero_le _

/-- A fresh request pays for the allowance it brings. -/
theorem Funded.append (funded : state.Funded id) {request : ApplyRequest}
    {publisher : Publisher} (worker : target.worker = state.worker)
    (appended : target.shared = state.append request)
    (recorded : target.history =
      .requested publisher request.id :: state.history) :
    target.Funded id := by
  obtain ⟨left, owes, covered⟩ := funded
  refine ⟨left, by rw [worker]; exact owes, ?_⟩
  have added := budget_append id request state.shared.applyRequests
  have paid : request.allowanceFor id ≤ _ := allowanceFor_le request
  have samePasses : target.passes id = state.passes id := by
    simp [passes, worker, recorded, ReconcilerEvent.finishes]
  have requests : target.freshRequests id =
      state.freshRequests id + if request.id = id then 1 else 0 := by
    simp [freshRequests, recorded, List.countP_cons,
      ReconcilerEvent.requests]
  rw [samePasses, requests, appended, Nat.mul_add]
  simp only [Reconciler.append]
  omega

/-- Scheduling hands requests from the queue to the worker. -/
theorem collect_budget {now : Int} {order : List ApplyRequest}
    (collected : state.collect now order = some target) :
    budget id target.shared.applyRequests.items +
        budget id target.worker.ready =
      budget id state.shared.applyRequests.items := by
  simp only [Reconciler.collect] at collected
  split at collected
  · rename_i permuted
    cases collected
    have held : budget id
        (if (state.toSchedule.collect now).restartLoader then
          WorkerState.restarting order
        else if order = [] then
          .sleeping (state.toSchedule.collect now).schedule.wakeAt
        else .applying order).ready =
          budget id (state.toSchedule.collect now).ready.items := by
      rw [← budget_perm permuted]
      split
      · rfl
      · split
        · rename_i empty
          rw [empty]
          rfl
        · rfl
    simp only [held]
    exact budget_filter_add _ _
  · cases collected

theorem owes_of_resting {worker : WorkerState} {left : Nat}
    (resting : ∀ request program ready,
      worker ≠ .running request program ready) :
    worker.Owes id left ↔ left = budget id worker.ready := by
  cases worker with
  | running request program ready => exact absurd rfl (resting _ _ _)
  | _ => exact Iff.rfl

theorem runs_of_resting {worker : WorkerState}
    (resting : ∀ request program ready,
      worker ≠ .running request program ready) : worker.runs id = 0 := by
  cases worker with
  | running request program ready => exact absurd rfl (resting _ _ _)
  | _ => rfl

/-- The worker goes on without touching its requests. -/
theorem Funded.of_resting (funded : state.Funded id)
    (wasResting : ∀ request program ready,
      state.worker ≠ .running request program ready)
    (resting : ∀ request program ready,
      target.worker ≠ .running request program ready)
    (ready : target.worker.ready = state.worker.ready)
    (queue : target.shared.applyRequests = state.shared.applyRequests)
    (history : target.history = state.history) : target.Funded id := by
  obtain ⟨left, owes, covered⟩ := funded
  rw [owes_of_resting wasResting] at owes
  refine ⟨left, (owes_of_resting resting).mpr (by rw [ready]; exact owes), ?_⟩
  simp only [passes, freshRequests, runs_of_resting resting,
    runs_of_resting wasResting, queue, history] at covered ⊢
  exact covered

theorem Funded.schedule (funded : state.Funded id) {now : Int}
    {order : List ApplyRequest}
    (waits : state.worker = .waiting ∨
      ∃ wakeAt, state.worker = .sleeping wakeAt)
    (collected : state.collect now order = some target) :
    target.Funded id := by
  obtain ⟨left, owes, covered⟩ := funded
  have moved : _ = budget id state.shared.applyRequests.items :=
    collect_budget collected
  obtain ⟨queue, restart, worker, rfl, _, resting⟩ := collect_frame collected
  have wasResting : state.worker.runs id = 0 := by
    rcases waits with waiting | ⟨wakeAt, sleeping⟩
    · rw [waiting]
      rfl
    · rw [sleeping]
      rfl
  refine ⟨budget id worker.ready, (owes_of_resting resting).mpr rfl, ?_⟩
  simp only [passes, freshRequests, wasResting, runs_of_resting resting]
    at covered ⊢
  simp only at moved
  omega

/-- A pass uses up one unit of the allowance of its request. -/
theorem Funded.startPass (funded : state.Funded id) {request : ApplyRequest}
    {ready : List ApplyRequest} (wellFormed : state.WellFormed)
    (applying : state.worker = .applying (request :: ready)) :
    ({ state with
      worker := .running request (applyTargetsPolicyPerAttacher request)
        ready } : Reconciler).Funded id := by
  obtain ⟨left, owes, covered⟩ := funded
  refine ⟨request.allowanceFor id - 1 + budget id ready,
    ⟨_, pass_costs request id, rfl⟩, ?_⟩
  have held : request.WellFormed state.attacherCount := by
    refine wellFormed.ready request ?_
    rw [applying]
    exact List.mem_cons_self
  simp only [applying, WorkerState.Owes, WorkerState.ready,
    budget_cons] at owes
  simp only [passes, freshRequests, applying, WorkerState.runs]
    at covered ⊢
  by_cases same : request.id = id
  · have available : 0 < request.allowanceFor id := by
      rw [← same]
      exact held.allowance_pos
    simp only [same, if_true]
    omega
  · have unrelated : request.allowanceFor id = 0 := if_neg same
    simp only [same, if_false]
    omega

/-- What a pass appends was set aside for it. -/
theorem Funded.passOperation (funded : state.Funded id) {outcome : TcOutcome}
    {request : ApplyRequest} {program rest : ManagerProgram Bool}
    {ready : List ApplyRequest} {later : Shared}
    {event : Program.Event ManagerOp ManagerOp.Answer}
    (running : state.worker = .running request program ready)
    (advanced : program.advance managerHandler state.shared outcome =
      some (rest, later, event)) :
    ({ state with
      shared := later
      worker := .running request rest ready
      history := readEvents request.id event.1 ++ state.history } :
        Reconciler).Funded id := by
  obtain ⟨left, owes, covered⟩ := funded
  rw [running] at owes
  obtain ⟨bound, costs, rfl⟩ := owes
  obtain ⟨affordable, remaining⟩ := costs.advance advanced
  refine ⟨bound - retryCost id event.1 + budget id ready,
    ⟨_, remaining, rfl⟩, ?_⟩
  have queue : budget id later.applyRequests.items ≤
      budget id state.shared.applyRequests.items + retryCost id event.1 := by
    obtain ⟨_, answered, _, _⟩ := Program.advance_eq_some advanced
    rcases answer_applyRequests answered with
      ⟨unchanged, _⟩ | ⟨appended, isAppend, changed⟩
    · rw [unchanged]
      exact Nat.le_add_right _ _
    · rw [changed, isAppend]
      exact budget_append id appended _
  have neutral : ∀ test : ReconcilerEvent → Bool,
      (∀ view, test (.read view request.id) = false) →
      (readEvents request.id event.1 ++ state.history).countP test =
        state.history.countP test := by
    intro test unread
    cases event.1 <;> simp [readEvents, unread]
  simp only [passes, freshRequests, running, WorkerState.runs] at covered ⊢
  rw [neutral _ fun _ => rfl, neutral _ fun _ => rfl]
  omega

theorem Funded.finishPass (funded : state.Funded id) {request : ApplyRequest}
    {success : Bool} {ready : List ApplyRequest}
    (running : state.worker = .running request (.done success) ready) :
    ({ state with
      worker := .applying ready
      history := .passFinished request.id success :: state.history } :
        Reconciler).Funded id := by
  obtain ⟨left, owes, covered⟩ := funded
  rw [running] at owes
  obtain ⟨bound, _, rfl⟩ := owes
  refine ⟨budget id ready, rfl, ?_⟩
  simp only [passes, freshRequests, running, WorkerState.runs,
    List.countP_cons, ReconcilerEvent.finishes, ReconcilerEvent.requests,
    decide_eq_true_eq, Bool.false_eq_true, if_false, Nat.add_zero]
    at covered ⊢
  omega

theorem funded_of_moves (wellFormed : state.WellFormed)
    (funded : state.Funded id) (moves : state.Moves label target) :
    target.Funded id := by
  cases moves with
  | publishPolicy => simpa [Funded, passes, freshRequests,
      ReconcilerEvent.finishes, ReconcilerEvent.requests] using funded
  | publishInterfaces => simpa [Funded, passes, freshRequests,
      ReconcilerEvent.finishes, ReconcilerEvent.requests] using funded
  | appendPolicy => exact funded.append rfl rfl rfl
  | appendInterfaces => exact funded.append rfl rfl rfl
  | schedule waits collected => exact funded.schedule waits collected
  | @restartMonitor success ready restarting =>
      refine funded.of_resting (by simp [restarting]) ?_ ?_ rfl rfl
      · intro request program rest
        split <;> simp
      · rw [restarting]
        split <;> rfl
  | rerequestMonitor rerequesting =>
      refine funded.of_resting (by simp [rerequesting]) (by simp) ?_ rfl rfl
      rw [rerequesting]
      rfl
  | startPass applying => exact funded.startPass wellFormed applying
  | passOperation running advanced =>
      exact funded.passOperation running advanced
  | finishPass running => exact funded.finishPass running
  | waitAgain applying =>
      refine funded.of_resting (by simp [applying]) (by simp) ?_ rfl rfl
      rw [applying]
      rfl
  | _ => exact funded

theorem funded_reachable (reached : reconciler.Reachable state) (id : Nat) :
    state.Funded id := by
  refine reached.invariant_with (fun _ => wellFormed_reachable) ?_ ?_
  · intro start begins
    refine ⟨0, ?_, ?_⟩
    · rw [begins.worker]
      rfl
    · simp [passes, freshRequests, begins.history, begins.worker,
        begins.applyRequests, WorkerState.runs, budget]
  · intro state label target wellFormed funded stepped
    exact funded_of_moves wellFormed funded (moves_of_step stepped)

/-- The worker has taken the request and not finished its pass. -/
def Holds (state : Reconciler) (request : ApplyRequest) : Prop :=
  request ∈ state.worker.ready ∨
    ∃ program ready, state.worker = .running request program ready

theorem WellFormed.outstanding (wellFormed : state.WellFormed)
    {request : ApplyRequest}
    (outstanding : request ∈ state.shared.applyRequests ∨
      state.Holds request) :
    request.WellFormed state.attacherCount := by
  rcases outstanding with queued | ready | ⟨program, ready, running⟩
  · exact wellFormed.queued request queued
  · exact wellFormed.ready request ready
  · exact (wellFormed.running request program ready running).1

end Reconciler

/-- Queued and held requests belong to the attacher of their id and are
within their retries, no id is queued twice, and every pass of an attacher is
covered by one of the six of a fresh request. -/
theorem retries_bounded {state : Reconciler}
    (reached : reconciler.Reachable state) :
    (∀ request,
        request ∈ state.shared.applyRequests ∨ state.Holds request →
        (∃ attacher, state.shared.attachers[request.id]? = some attacher ∧
          attacher.id = request.id) ∧
          request.retryCount ≤ 5 ∧
          (request.isImmediate = true ↔ request.retryCount = 0)) ∧
      (state.shared.applyRequests.items.map ApplyRequest.id).Nodup ∧
      ∀ id, state.passes id ≤ 6 * state.freshRequests id := by
  have wellFormed := Reconciler.wellFormed_reachable reached
  refine ⟨fun request outstanding => ?_, state.shared.applyRequests.distinct,
    fun id => ?_⟩
  · have held := wellFormed.outstanding outstanding
    obtain ⟨attacher, found⟩ : ∃ attacher,
        state.shared.attachers[request.id]? = some attacher :=
      ⟨_, List.getElem?_eq_getElem held.known⟩
    exact ⟨⟨attacher, found, wellFormed.ids _ _ found⟩, held.retries,
      held.immediate⟩
  · obtain ⟨left, _, covered⟩ := Reconciler.funded_reachable reached id
    have six : maxRetryCount + 1 = 6 := rfl
    rw [six] at covered
    omega

/-- A target is added, and the pass fails because no qdisc can be
created. -/
def failedPassRun : List ReconcilerStep :=
  ([.createAttacher sampleProgram {}, .mutate 7 0 (.addTarget "eth0"),
    .publishPolicy 7, .stampPolicy 7 10, .appendPolicy 7,
    .schedule 20 [.fresh 0 10], .startPass] : List ReconcilerStep) ++
  List.replicate 3 (ReconcilerStep.passOperation (.faithful ⟨1, 1⟩)) ++
  ([.passOperation (.failing (-1)), .passOperation (.faithful ⟨1, 1⟩),
    .finishPass] : List ReconcilerStep)

theorem failedPassRun_enabled :
    (reconciler.runWhere (fun _ _ => True) sampleReconciler
      failedPassRun).isSome = true := by
  decide +kernel

def failedReconciler : Reconciler :=
  reconciler.finish sampleReconciler failedPassRun failedPassRun_enabled

theorem retries_bounded_failed :
    failedReconciler.shared.applyRequests.items =
        [(ApplyRequest.fresh 0 10).retry] ∧
      (∃ attacher, failedReconciler.shared.attachers[0]? = some attacher ∧
        attacher.id = 0) ∧
      failedReconciler.passes 0 = 1 ∧
      failedReconciler.passes 0 ≤ 6 * failedReconciler.freshRequests 0 := by
  have bounded := retries_bounded (Machine.reachable_finish
    sampleReconciler_initial failedPassRun_enabled)
  have queued : (ApplyRequest.fresh 0 10).retry ∈
      failedReconciler.shared.applyRequests := List.mem_cons_self
  exact ⟨rfl, (bounded.1 _ (.inl queued)).1, rfl, bounded.2.2 0⟩

end LibbpfControl.BpfTool
