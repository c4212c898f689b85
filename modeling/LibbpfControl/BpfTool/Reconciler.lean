import LibbpfControl.Machine
import LibbpfControl.BpfTool.Filter

/-!
# The reconciler as a machine

Three kinds of threads work on the manager: callers of attacher operations,
the monitor which publishes interface snapshots, and the worker which turns
requests into passes.  Every critical section and every atomic operation of
them is one step; a step which the code cannot take in a state is not
enabled.

Requests are stamped before the lock of the queue is taken, so stamping and
appending are different steps.  A history records publications, appends,
reads and finished passes; it is not read by any step.
-/

namespace LibbpfControl.BpfTool

open NicCheck

/-- A thread inside an operation of an attacher. -/
inductive CallerState where
  | idle
  /-- The attacher was changed, `change_policy` is next. -/
  | mutated (id : Nat)
  /-- The policy was published, `attacher_policy_change_process` is next. -/
  | published (id : Nat)
  | stamped (request : ApplyRequest)
  deriving DecidableEq

/-- The monitor thread between two refreshes, or in
`interface_change_process`. -/
inductive NotifierState where
  | idle
  | published
  /-- The ids below `next` have been appended. -/
  | notifying (count next : Nat)
  | stamped (count : Nat) (request : ApplyRequest)
  deriving DecidableEq

inductive WorkerState where
  /-- Blocked until there is a request. -/
  | waiting
  | sleeping (wakeAt : Int)
  | restarting (ready : List ApplyRequest)
  /-- The restart failed and is about to be requested again. -/
  | rerequesting (ready : List ApplyRequest)
  | applying (ready : List ApplyRequest)
  | running (request : ApplyRequest) (program : ManagerProgram Bool)
      (ready : List ApplyRequest)

/-- The requests which the worker has taken and not yet started. -/
def WorkerState.ready : WorkerState → List ApplyRequest
  | .waiting => []
  | .sleeping _ => []
  | .restarting ready => ready
  | .rerequesting ready => ready
  | .applying ready => ready
  | .running _ _ ready => ready

/-- The two things a pass reads. -/
inductive View where
  | policy
  | interfaces
  deriving DecidableEq

inductive Publisher where
  | caller (thread : Nat)
  | monitor
  deriving DecidableEq

inductive ReconcilerEvent where
  | policyPublished (thread id : Nat)
  /-- `count` is the number of attachers which exist at that point. -/
  | interfacesPublished (count : Nat)
  | requested (publisher : Publisher) (id : Nat)
  | read (view : View) (id : Nat)
  | passFinished (id : Nat) (success : Bool)
  deriving DecidableEq

structure Reconciler where
  shared : Shared
  loaderRestartRequested : Bool
  loaderRestartTime : Int
  callers : Nat → CallerState
  monitor : NotifierState
  worker : WorkerState
  /-- Newest first. -/
  history : List ReconcilerEvent

inductive ReconcilerStep where
  | createAttacher (prog : BpfProgram) (spec : AttachSpec)
  | mutate (thread id : Nat) (op : AttacherOp)
  | publishPolicy (thread : Nat)
  | stampPolicy (thread : Nat) (now : Int)
  | appendPolicy (thread : Nat)
  | publishInterfaces (next : InterfaceMap)
  | countAttachers
  | stampInterfaces (now : Int)
  | appendInterfaces
  | finishInterfaces
  /-- One iteration of the inner loop; `order` is the order in which the
  ready requests will be iterated. -/
  | schedule (now : Int) (order : List ApplyRequest)
  | restartMonitor (success : Bool)
  | rerequestMonitor (now : Int)
  /-- `request_interface_monitor_restart` by the failed monitor. -/
  | failMonitor (now : Int)
  | startPass
  | passOperation (outcome : TcOutcome)
  | finishPass
  | waitAgain
  /-- Other software changes the state of the kernel. -/
  | changeKernel (kernel : TcKernel)

/-- The clock reading of a step. -/
def ReconcilerStep.reading : ReconcilerStep → Option Int
  | .stampPolicy _ now => some now
  | .stampInterfaces now => some now
  | .schedule now _ => some now
  | .rerequestMonitor now => some now
  | .failMonitor now => some now
  | _ => none

namespace Reconciler

def requestRestart (state : Reconciler) (now : Int) : Reconciler :=
  { state with
    loaderRestartRequested := true
    loaderRestartTime := now + monitorRestartDelay }

def append (state : Reconciler) (request : ApplyRequest) : Shared :=
  { state.shared with
    applyRequests :=
      (appendApplyRequest request state.shared.applyRequests).1 }

def toSchedule (state : Reconciler) : Schedule where
  applyRequests := state.shared.applyRequests
  restartRequested := state.loaderRestartRequested
  restartTime := state.loaderRestartTime

/-- The predicate of the untimed wait, while no stop is requested. -/
def hasWork (state : Reconciler) : Bool :=
  !state.shared.applyRequests.items.isEmpty || state.loaderRestartRequested

/-- One iteration of the inner loop of the worker. -/
def collect (state : Reconciler) (now : Int) (order : List ApplyRequest) :
    Option Reconciler :=
  let collected := state.toSchedule.collect now
  if order.Perm collected.ready.items then
    some { state with
      shared := { state.shared with
        applyRequests := collected.schedule.applyRequests }
      loaderRestartRequested := collected.schedule.restartRequested
      worker :=
        if collected.restartLoader then .restarting order
        else if order = [] then .sleeping collected.schedule.wakeAt
        else .applying order }
  else none

/-- The reads of a pass are recorded. -/
def readEvents (id : Nat) : ManagerOp → List ReconcilerEvent
  | .getAttacher _ => [.read .policy id]
  | .snapshot => [.read .interfaces id]
  | _ => []

def step (state : Reconciler) : ReconcilerStep → Option Reconciler
  | .createAttacher prog spec =>
      if 0 ≤ prog.fd ∧ prog.progId ≠ 0 then
        let attachers := state.shared.attachers
        some { state with
          shared := { state.shared with
            attachers := attachers ++
              [{ id := attachers.length, prog := prog, attachSpec := spec }] } }
      else none
  | .mutate thread id op =>
      match state.callers thread, state.shared.attachers[id]? with
      | .idle, some attacher =>
          let mutated := attacher.mutate op
          some { state with
            shared := { state.shared with
              attachers := state.shared.attachers.set id mutated.1 }
            callers := Function.update state.callers thread
              (if mutated.2 then .mutated id else .idle) }
      | _, _ => none
  | .publishPolicy thread =>
      match state.callers thread with
      | .mutated id =>
          state.shared.attachers[id]?.map fun attacher =>
            { state with
              shared := { state.shared with
                attachers :=
                  state.shared.attachers.set id attacher.changePolicy }
              callers := Function.update state.callers thread (.published id)
              history := .policyPublished thread id :: state.history }
      | _ => none
  | .stampPolicy thread now =>
      match state.callers thread with
      | .published id =>
          some { state with
            callers := Function.update state.callers thread
              (.stamped (.fresh id now)) }
      | _ => none
  | .appendPolicy thread =>
      match state.callers thread with
      | .stamped request =>
          some { state with
            shared := state.append request
            callers := Function.update state.callers thread .idle
            history := .requested (.caller thread) request.id ::
              state.history }
      | _ => none
  | .publishInterfaces next =>
      match state.monitor with
      | .idle =>
          some { state with
            shared := { state.shared with interfaces := next }
            monitor := .published
            history := .interfacesPublished state.shared.attachers.length ::
              state.history }
      | _ => none
  | .countAttachers =>
      match state.monitor with
      | .published =>
          some { state with
            monitor := .notifying state.shared.attachers.length 0 }
      | _ => none
  | .stampInterfaces now =>
      match state.monitor with
      | .notifying count next =>
          if next < count then
            some { state with monitor := .stamped count (.fresh next now) }
          else none
      | _ => none
  | .appendInterfaces =>
      match state.monitor with
      | .stamped count request =>
          some { state with
            shared := state.append request
            monitor := .notifying count (request.id + 1)
            history := .requested .monitor request.id :: state.history }
      | _ => none
  | .finishInterfaces =>
      match state.monitor with
      | .notifying count next =>
          if next < count then none else some { state with monitor := .idle }
      | _ => none
  | .schedule now order =>
      match state.worker with
      | .waiting => if state.hasWork then state.collect now order else none
      | .sleeping _ => state.collect now order
      | _ => none
  | .restartMonitor success =>
      match state.worker with
      | .restarting ready =>
          some { state with
            worker := if success then .applying ready
              else .rerequesting ready }
      | _ => none
  | .rerequestMonitor now =>
      match state.worker with
      | .rerequesting ready =>
          some { state.requestRestart now with worker := .applying ready }
      | _ => none
  | .failMonitor now => some (state.requestRestart now)
  | .startPass =>
      match state.worker with
      | .applying (request :: ready) =>
          some { state with
            worker := .running request
              (applyTargetsPolicyPerAttacher request) ready }
      | _ => none
  | .passOperation outcome =>
      match state.worker with
      | .running request program ready =>
          (program.advance managerHandler state.shared outcome).map
            fun (rest, later, event) =>
              { state with
                shared := later
                worker := .running request rest ready
                history := readEvents request.id event.1 ++ state.history }
      | _ => none
  | .finishPass =>
      match state.worker with
      | .running request (.done success) ready =>
          some { state with
            worker := .applying ready
            history := .passFinished request.id success :: state.history }
      | _ => none
  | .waitAgain =>
      match state.worker with
      | .applying [] => some { state with worker := .waiting }
      | _ => none
  | .changeKernel kernel =>
      some { state with shared := { state.shared with kernel := kernel } }

end Reconciler

/-- The steps as a relation, one constructor for each way a step can be
taken. -/
inductive Reconciler.Moves (state : Reconciler) :
    ReconcilerStep → Reconciler → Prop where
  | createAttacher {prog : BpfProgram} {spec : AttachSpec} :
      0 ≤ prog.fd → prog.progId ≠ 0 →
      Moves state (.createAttacher prog spec)
        { state with
          shared := { state.shared with
            attachers := state.shared.attachers ++
              [{ id := state.shared.attachers.length
                 prog := prog
                 attachSpec := spec }] } }
  | mutate {thread id : Nat} {op : AttacherOp} {attacher : Attacher} :
      state.callers thread = .idle →
      state.shared.attachers[id]? = some attacher →
      Moves state (.mutate thread id op)
        { state with
          shared := { state.shared with
            attachers :=
              state.shared.attachers.set id (attacher.mutate op).1 }
          callers := Function.update state.callers thread
            (if (attacher.mutate op).2 then .mutated id else .idle) }
  | publishPolicy {thread id : Nat} {attacher : Attacher} :
      state.callers thread = .mutated id →
      state.shared.attachers[id]? = some attacher →
      Moves state (.publishPolicy thread)
        { state with
          shared := { state.shared with
            attachers := state.shared.attachers.set id attacher.changePolicy }
          callers := Function.update state.callers thread (.published id)
          history := .policyPublished thread id :: state.history }
  | stampPolicy {thread id : Nat} {now : Int} :
      state.callers thread = .published id →
      Moves state (.stampPolicy thread now)
        { state with
          callers := Function.update state.callers thread
            (.stamped (.fresh id now)) }
  | appendPolicy {thread : Nat} {request : ApplyRequest} :
      state.callers thread = .stamped request →
      Moves state (.appendPolicy thread)
        { state with
          shared := state.append request
          callers := Function.update state.callers thread .idle
          history := .requested (.caller thread) request.id ::
            state.history }
  | publishInterfaces {next : InterfaceMap} :
      state.monitor = .idle →
      Moves state (.publishInterfaces next)
        { state with
          shared := { state.shared with interfaces := next }
          monitor := .published
          history := .interfacesPublished state.shared.attachers.length ::
            state.history }
  | countAttachers :
      state.monitor = .published →
      Moves state .countAttachers
        { state with
          monitor := .notifying state.shared.attachers.length 0 }
  | stampInterfaces {now : Int} {count next : Nat} :
      state.monitor = .notifying count next → next < count →
      Moves state (.stampInterfaces now)
        { state with monitor := .stamped count (.fresh next now) }
  | appendInterfaces {count : Nat} {request : ApplyRequest} :
      state.monitor = .stamped count request →
      Moves state .appendInterfaces
        { state with
          shared := state.append request
          monitor := .notifying count (request.id + 1)
          history := .requested .monitor request.id :: state.history }
  | finishInterfaces {count next : Nat} :
      state.monitor = .notifying count next → ¬next < count →
      Moves state .finishInterfaces { state with monitor := .idle }
  | schedule {now : Int} {order : List ApplyRequest} {target : Reconciler} :
      (state.worker = .waiting ∨ ∃ wakeAt, state.worker = .sleeping wakeAt) →
      state.collect now order = some target →
      Moves state (.schedule now order) target
  | restartMonitor {success : Bool} {ready : List ApplyRequest} :
      state.worker = .restarting ready →
      Moves state (.restartMonitor success)
        { state with
          worker := if success then .applying ready
            else .rerequesting ready }
  | rerequestMonitor {now : Int} {ready : List ApplyRequest} :
      state.worker = .rerequesting ready →
      Moves state (.rerequestMonitor now)
        { state.requestRestart now with worker := .applying ready }
  | failMonitor {now : Int} :
      Moves state (.failMonitor now) (state.requestRestart now)
  | startPass {request : ApplyRequest} {ready : List ApplyRequest} :
      state.worker = .applying (request :: ready) →
      Moves state .startPass
        { state with
          worker := .running request (applyTargetsPolicyPerAttacher request)
            ready }
  | passOperation {outcome : TcOutcome} {request : ApplyRequest}
      {program rest : ManagerProgram Bool} {ready : List ApplyRequest}
      {later : Shared} {event : Program.Event ManagerOp ManagerOp.Answer} :
      state.worker = .running request program ready →
      program.advance managerHandler state.shared outcome =
        some (rest, later, event) →
      Moves state (.passOperation outcome)
        { state with
          shared := later
          worker := .running request rest ready
          history := readEvents request.id event.1 ++ state.history }
  | finishPass {request : ApplyRequest} {success : Bool}
      {ready : List ApplyRequest} :
      state.worker = .running request (.done success) ready →
      Moves state .finishPass
        { state with
          worker := .applying ready
          history := .passFinished request.id success :: state.history }
  | waitAgain :
      state.worker = .applying [] →
      Moves state .waitAgain { state with worker := .waiting }
  | changeKernel {kernel : TcKernel} :
      Moves state (.changeKernel kernel)
        { state with shared := { state.shared with kernel := kernel } }

/-- The steps of the worker. -/
def ReconcilerStep.ofWorker : ReconcilerStep → Bool
  | .schedule _ _ => true
  | .restartMonitor _ => true
  | .rerequestMonitor _ => true
  | .startPass => true
  | .passOperation _ => true
  | .finishPass => true
  | .waitAgain => true
  | _ => false

theorem Reconciler.moves_of_ofWorker {state target : Reconciler}
    {label : ReconcilerStep} (worker : label.ofWorker = true)
    (stepped : state.step label = some target) :
    state.Moves label target := by
  cases label with
  | schedule now order =>
      simp only [Reconciler.step] at stepped
      split at stepped
      · rename_i waiting
        split at stepped
        · exact .schedule (Or.inl waiting) stepped
        · cases stepped
      · rename_i wakeAt sleeping
        exact .schedule (Or.inr ⟨wakeAt, sleeping⟩) stepped
      · cases stepped
  | restartMonitor success =>
      simp only [Reconciler.step] at stepped
      split at stepped
      · cases stepped
        exact .restartMonitor ‹_›
      · cases stepped
  | rerequestMonitor now =>
      simp only [Reconciler.step] at stepped
      split at stepped
      · cases stepped
        exact .rerequestMonitor ‹_›
      · cases stepped
  | startPass =>
      simp only [Reconciler.step] at stepped
      split at stepped
      · cases stepped
        exact .startPass ‹_›
      · cases stepped
  | passOperation outcome =>
      simp only [Reconciler.step] at stepped
      split at stepped
      · rename_i running
        obtain ⟨⟨rest, later, event⟩, advanced, rfl⟩ :=
          Option.map_eq_some_iff.mp stepped
        exact .passOperation running advanced
      · cases stepped
  | finishPass =>
      simp only [Reconciler.step] at stepped
      split at stepped
      · cases stepped
        exact .finishPass ‹_›
      · cases stepped
  | waitAgain =>
      simp only [Reconciler.step] at stepped
      split at stepped
      · cases stepped
        exact .waitAgain ‹_›
      · cases stepped
  | _ => cases worker

theorem Reconciler.moves_of_step {state target : Reconciler}
    {label : ReconcilerStep} (stepped : state.step label = some target) :
    state.Moves label target := by
  cases label with
  | createAttacher prog spec =>
      simp only [Reconciler.step] at stepped
      split at stepped
      · rename_i accepted
        cases stepped
        exact .createAttacher accepted.1 accepted.2
      · cases stepped
  | mutate thread id op =>
      simp only [Reconciler.step] at stepped
      split at stepped
      · rename_i idle found
        cases stepped
        exact .mutate idle found
      · cases stepped
  | publishPolicy thread =>
      simp only [Reconciler.step] at stepped
      split at stepped
      · rename_i mutated
        obtain ⟨attacher, found, rfl⟩ := Option.map_eq_some_iff.mp stepped
        exact .publishPolicy mutated found
      · cases stepped
  | stampPolicy thread now =>
      simp only [Reconciler.step] at stepped
      split at stepped
      · cases stepped
        exact .stampPolicy ‹_›
      · cases stepped
  | appendPolicy thread =>
      simp only [Reconciler.step] at stepped
      split at stepped
      · cases stepped
        exact .appendPolicy ‹_›
      · cases stepped
  | publishInterfaces next =>
      simp only [Reconciler.step] at stepped
      split at stepped
      · cases stepped
        exact .publishInterfaces ‹_›
      · cases stepped
  | countAttachers =>
      simp only [Reconciler.step] at stepped
      split at stepped
      · cases stepped
        exact .countAttachers ‹_›
      · cases stepped
  | stampInterfaces now =>
      simp only [Reconciler.step] at stepped
      split at stepped
      · split at stepped
        · cases stepped
          exact .stampInterfaces ‹_› ‹_›
        · cases stepped
      · cases stepped
  | appendInterfaces =>
      simp only [Reconciler.step] at stepped
      split at stepped
      · cases stepped
        exact .appendInterfaces ‹_›
      · cases stepped
  | finishInterfaces =>
      simp only [Reconciler.step] at stepped
      split at stepped
      · split at stepped
        · cases stepped
        · cases stepped
          exact .finishInterfaces ‹_› ‹_›
      · cases stepped
  | failMonitor now =>
      simp only [Reconciler.step] at stepped
      cases stepped
      exact .failMonitor
  | changeKernel kernel =>
      simp only [Reconciler.step] at stepped
      cases stepped
      exact .changeKernel
  | _ => exact moves_of_ofWorker rfl stepped

/-- Scheduling moves requests from the queue to the worker and touches
nothing else but the restart flag. -/
theorem Reconciler.collect_frame {state target : Reconciler} {now : Int}
    {order : List ApplyRequest}
    (collected : state.collect now order = some target) :
    ∃ applyRequests restart worker,
      target = { state with
        shared := { state.shared with applyRequests := applyRequests }
        loaderRestartRequested := restart
        worker := worker } ∧
      (∀ request, request ∈ state.shared.applyRequests ↔
        request ∈ applyRequests ∨ request ∈ worker.ready) ∧
      ∀ request program ready, worker ≠ .running request program ready := by
  simp only [Reconciler.collect] at collected
  split at collected
  · rename_i permuted
    cases collected
    refine ⟨_, _, _, rfl, ?_, ?_⟩
    · intro request
      have ordered : request ∈ order ↔
          request ∈ (state.toSchedule.collect now).ready :=
        permuted.mem_iff
      have parted := collect_partition state.toSchedule now request
      rw [← ordered] at parted
      refine parted.trans (or_congr_right ?_)
      split
      · exact Iff.rfl
      · split
        · rename_i empty
          simp [empty, WorkerState.ready]
        · exact Iff.rfl
    · intro request program ready running
      split at running
      · cases running
      · split at running <;> cases running
  · cases collected

/-- The publisher has stamped a request and not yet appended it. -/
def Reconciler.Stamped (state : Reconciler) (request : ApplyRequest) :
    Publisher → Prop
  | .caller thread => state.callers thread = .stamped request
  | .monitor => ∃ count, state.monitor = .stamped count request

namespace Reconciler

variable {state target : Reconciler} {label : ReconcilerStep}
  {request : ApplyRequest}

theorem stamped_of_caller (moves : state.Moves label target) {thread : Nat}
    (stamped : target.callers thread = .stamped request) :
    state.callers thread = .stamped request ∨
      ∃ id now, label.reading = some now ∧ request = .fresh id now := by
  have moved {mover : Nat} {now : CallerState}
      (there : Function.update state.callers mover now thread =
        .stamped request) :
      state.callers thread = .stamped request ∨ now = .stamped request := by
    rw [Function.update_apply] at there
    split at there
    · exact .inr there
    · exact .inl there
  cases moves with
  | mutate idle found =>
      refine .inl ((moved stamped).resolve_right ?_)
      split
      · simp
      · simp
  | publishPolicy => exact .inl ((moved stamped).resolve_right (by simp))
  | @stampPolicy mover id now published =>
      rcases moved stamped with before | stamps
      · exact .inl before
      · cases stamps
        exact .inr ⟨id, now, rfl, rfl⟩
  | appendPolicy => exact .inl ((moved stamped).resolve_right (by simp))
  | schedule _ collected =>
      obtain ⟨_, _, _, rfl, _⟩ := collect_frame collected
      exact .inl stamped
  | _ => exact .inl stamped

theorem stamped_of_monitor (moves : state.Moves label target) {count : Nat}
    (stamped : target.monitor = .stamped count request) :
    state.monitor = .stamped count request ∨
      ∃ id now, label.reading = some now ∧ request = .fresh id now := by
  cases moves with
  | publishInterfaces => cases stamped
  | countAttachers => cases stamped
  | @stampInterfaces now count next notifying below =>
      cases stamped
      exact .inr ⟨next, now, rfl, rfl⟩
  | appendInterfaces => cases stamped
  | finishInterfaces => cases stamped
  | schedule _ collected =>
      obtain ⟨_, _, _, rfl, _⟩ := collect_frame collected
      exact .inl stamped
  | _ => exact .inl stamped

theorem stamped_origin (moves : state.Moves label target)
    {publisher : Publisher} (stamped : target.Stamped request publisher) :
    state.Stamped request publisher ∨
      ∃ id now, label.reading = some now ∧ request = .fresh id now := by
  cases publisher with
  | caller thread => exact stamped_of_caller moves stamped
  | monitor =>
      obtain ⟨count, stands⟩ := stamped
      rcases stamped_of_monitor moves stands with before | stamps
      · exact .inl ⟨count, before⟩
      · exact .inr stamps

/-- A request enters the queue from a publisher or from a pass. -/
theorem queued_origin (moves : state.Moves label target)
    (queued : request ∈ target.shared.applyRequests) :
    request ∈ state.shared.applyRequests ∨
      (∃ publisher, state.Stamped request publisher) ∨
      ∃ original next ready, state.worker =
        .running original (.call (.appendApplyRequest request) next)
          ready := by
  have appended {added : ApplyRequest}
      (member : request ∈ (state.append added).applyRequests) :
      request ∈ state.shared.applyRequests ∨ request = added := by
    rcases mem_appendApplyRequest.mp member with
      ⟨old, _⟩ | ⟨same, _⟩ | ⟨old, _⟩
    · exact .inl old
    · exact .inr same
    · exact .inl old
  cases moves with
  | @appendPolicy thread added stamped =>
      rcases appended queued with old | rfl
      · exact .inl old
      · exact .inr (.inl ⟨.caller thread, stamped⟩)
  | @appendInterfaces count added stamped =>
      rcases appended queued with old | rfl
      · exact .inl old
      · exact .inr (.inl ⟨.monitor, count, stamped⟩)
  | schedule _ collected =>
      obtain ⟨_, _, _, rfl, parted, _⟩ := collect_frame collected
      exact .inl ((parted request).mpr (.inl queued))
  | @passOperation _ _ _ _ _ _ event running advanced =>
      obtain ⟨next, answered, pending, _⟩ := Program.advance_eq_some advanced
      obtain ⟨operation, answer⟩ := event
      rcases answer_applyRequests answered with
        ⟨unchanged, _⟩ | ⟨added, isAppend, changed⟩
      · simp only [unchanged] at queued
        exact .inl queued
      · simp only [changed] at queued
        rcases appended queued with old | rfl
        · exact .inl old
        · cases isAppend
          rw [pending] at running
          exact .inr (.inr ⟨_, _, _, running⟩)
  | _ => exact .inl queued

/-- The worker takes its requests from the queue. -/
theorem ready_origin (moves : state.Moves label target)
    (member : request ∈ target.worker.ready) :
    request ∈ state.shared.applyRequests ∨ request ∈ state.worker.ready := by
  cases moves with
  | schedule _ collected =>
      obtain ⟨_, _, _, rfl, parted, _⟩ := collect_frame collected
      exact .inl ((parted request).mpr (.inr member))
  | restartMonitor restarting =>
      rw [restarting]
      refine .inr ?_
      revert member
      split
      · exact id
      · exact id
  | rerequestMonitor rerequesting =>
      rw [rerequesting]
      exact .inr member
  | startPass applying =>
      rw [applying]
      exact .inr (List.mem_cons_of_mem _ member)
  | passOperation running =>
      rw [running]
      exact .inr member
  | finishPass running =>
      rw [running]
      exact .inr member
  | waitAgain => cases member
  | _ => exact .inr member

/-- No step takes an attacher away. -/
theorem attachers_grow (moves : state.Moves label target) :
    state.shared.attachers.length ≤ target.shared.attachers.length := by
  cases moves with
  | createAttacher _ _ => simp
  | mutate _ _ => simp
  | publishPolicy _ _ => simp
  | schedule _ collected =>
      obtain ⟨_, _, _, rfl, _⟩ := collect_frame collected
      exact Nat.le_refl _
  | passOperation _ advanced =>
      obtain ⟨_, answered, _, _⟩ := Program.advance_eq_some advanced
      dsimp only
      rw [(answer_frame answered).1]
  | _ => exact Nat.le_refl _

/-- How the worker comes to the point of a pass where it stands. -/
inductive RunningOrigin (state : Reconciler) (label : ReconcilerStep)
    (request : ApplyRequest) (ready : List ApplyRequest)
    (target : Reconciler) : ManagerProgram Bool → Prop where
  | kept {program : ManagerProgram Bool}
      (running : state.worker = .running request program ready)
      (other : ¬∃ outcome, label = .passOperation outcome) :
      RunningOrigin state label request ready target program
  | started (taken : request ∈ state.worker.ready) :
      RunningOrigin state label request ready target
        (applyTargetsPolicyPerAttacher request)
  | advanced {before program : ManagerProgram Bool} {outcome : TcOutcome}
      {later : Shared} {event : Program.Event ManagerOp ManagerOp.Answer}
      (running : state.worker = .running request before ready)
      (advanced : before.advance managerHandler state.shared outcome =
        some (program, later, event))
      (reached : target = { state with
        shared := later
        worker := .running request program ready
        history := readEvents request.id event.1 ++ state.history }) :
      RunningOrigin state label request ready target program

theorem running_origin (moves : state.Moves label target)
    {program : ManagerProgram Bool} {ready : List ApplyRequest}
    (runs : target.worker = .running request program ready) :
    RunningOrigin state label request ready target program := by
  cases moves with
  | schedule _ collected =>
      obtain ⟨_, _, _, rfl, _, notRunning⟩ := collect_frame collected
      exact absurd runs (notRunning _ _ _)
  | restartMonitor =>
      simp only at runs
      split at runs
      · cases runs
      · cases runs
  | rerequestMonitor => cases runs
  | startPass applying =>
      cases runs
      refine .started ?_
      rw [applying]
      exact List.mem_cons_self
  | passOperation running advanced =>
      cases runs
      exact .advanced running advanced rfl
  | finishPass => cases runs
  | waitAgain => cases runs
  | _ => exact .kept runs (by simp)

end Reconciler

/-- Runs begin with any snapshot and kernel, without attachers. -/
structure Reconciler.Initial (state : Reconciler) : Prop where
  attachers : state.shared.attachers = []
  applyRequests : state.shared.applyRequests.items = []
  restart : state.loaderRestartRequested = false
  callers : ∀ thread, state.callers thread = .idle
  monitor : state.monitor = .idle
  worker : state.worker = .waiting
  history : state.history = []

def reconciler : Machine Reconciler ReconcilerStep where
  initial := Reconciler.Initial
  step := Reconciler.step

/-- A manager with one interface and nothing to do. -/
def sampleReconciler : Reconciler where
  shared :=
    { attachers := []
      interfaces := singleInterface "eth0" 2
      applyRequests := Keyed.empty
      kernel := sampleKernel }
  loaderRestartRequested := false
  loaderRestartTime := 0
  callers _ := .idle
  monitor := .idle
  worker := .waiting
  history := []

theorem sampleReconciler_initial : reconciler.initial sampleReconciler :=
  ⟨rfl, rfl, rfl, fun _ => rfl, rfl, rfl, rfl⟩

end LibbpfControl.BpfTool
