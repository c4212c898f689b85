import Mathlib.Algebra.Order.BigOperators.Group.Finset
import LibbpfControl.Liveness
import LibbpfControl.BpfTool.PassReversal
import LibbpfControl.BpfTool.Quiescence
import LibbpfControl.BpfTool.Scheduling

/-!
# The reconciler comes to rest as it is wanted

Once the publishers have appended their requests and nobody changes a policy,
the interfaces or the kernel any more, only the worker is left.  Whatever the
kernel answers to it, the worker comes to rest: a fresh request pays for six
passes, so passes cannot go on forever.  This holds in every reachable state.

Once the kernel no longer fails, the worker comes to rest with the filters as
the policies want them.  This needs runs in which nobody else writes to the
slots of an attacher, the admissible ones.

Nothing here rests on what happened before: calls may have failed, retries may
be due in any order, and a pass may be in the middle of its calls.
-/

namespace LibbpfControl.BpfTool

open NicCheck

/-- The steps of the worker while nobody else acts on the manager and the
monitor can be started.  An iteration of the inner loop which finds nothing
only goes back to sleep and is left out. -/
def WorkerAlone (permitted : TcOutcome → Bool) (state : Reconciler) :
    ReconcilerStep → Prop
  | .schedule now order => order ≠ [] ∨ state.RestartDue now
  | .restartMonitor success => success = true
  | .rerequestMonitor _ => True
  | .startPass => True
  | .passOperation outcome => permitted outcome = true
  | .finishPass => True
  | .waitAgain => True
  | _ => False

namespace Reconciler

variable {managed : Int32 → Prop} {permitted : TcOutcome → Bool}
  {state target : Reconciler} {label : ReconcilerStep} {id : Nat}

/-- What the steps of the worker do not change. -/
structure WorksOn (state target : Reconciler) : Prop where
  callers : target.callers = state.callers
  monitor : target.monitor = state.monitor
  attachers : target.shared.attachers = state.shared.attachers
  interfaces : target.shared.interfaces = state.shared.interfaces
  fresh : ∀ id, target.freshRequests id = state.freshRequests id

theorem readEvents_counts (reader : Nat) (operation : ManagerOp) :
    (readEvents reader operation).countP (ReconcilerEvent.requests id) = 0 ∧
      (readEvents reader operation).countP
        (ReconcilerEvent.finishes id) = 0 := by
  cases operation <;> exact ⟨rfl, rfl⟩

theorem worksOn_of_moves (alone : WorkerAlone permitted state label)
    (moves : state.Moves label target) : state.WorksOn target := by
  cases moves with
  | schedule _ collected =>
      obtain ⟨_, _, _, rfl, _⟩ := collect_frame collected
      exact ⟨rfl, rfl, rfl, rfl, fun _ => rfl⟩
  | restartMonitor => exact ⟨rfl, rfl, rfl, rfl, fun _ => rfl⟩
  | rerequestMonitor => exact ⟨rfl, rfl, rfl, rfl, fun _ => rfl⟩
  | startPass => exact ⟨rfl, rfl, rfl, rfl, fun _ => rfl⟩
  | passOperation _ advanced =>
      obtain ⟨_, answered, _, _⟩ := Program.advance_eq_some advanced
      obtain ⟨attachers, interfaces, _⟩ := answer_frame answered
      refine ⟨rfl, rfl, attachers, interfaces, fun id => ?_⟩
      simp [freshRequests, (readEvents_counts _ _).1]
  | finishPass =>
      refine ⟨rfl, rfl, rfl, rfl, fun id => ?_⟩
      simp [freshRequests, ReconcilerEvent.requests]
  | waitAgain => exact ⟨rfl, rfl, rfl, rfl, fun _ => rfl⟩
  | _ => exact alone.elim

/-- Every publication has been followed by its requests. -/
def Announced (state : Reconciler) : Prop :=
  ∀ publisher id, ¬state.Publishing id publisher

theorem WorksOn.announced (works : state.WorksOn target)
    (announced : state.Announced) : target.Announced := by
  intro publisher id
  have before := announced publisher id
  cases publisher with
  | caller thread => rwa [Publishing, works.callers]
  | monitor => rwa [Publishing, works.monitor, works.attachers]

theorem admissible_of_alone (alone : WorkerAlone permitted state label) :
    Admissible managed state label := by
  apply admissible_of_plain
  cases label with
  | createAttacher => exact alone.elim
  | publishInterfaces => exact alone.elim
  | changeKernel => exact alone.elim
  | _ => rfl

/-- A reachable state in which the worker is left alone. -/
structure Left (state : Reconciler) : Prop where
  reached : reconciler.Reachable state
  announced : state.Announced

theorem Left.step (left : state.Left)
    (alone : WorkerAlone permitted state label)
    (stepped : state.step label = some target) : target.Left :=
  ⟨.next left.reached trivial stepped,
    (worksOn_of_moves alone (moves_of_step stepped)).announced
      left.announced⟩

theorem Left.wellFormed (left : state.Left) : state.WellFormed :=
  wellFormed_reachable left.reached

/-- The same in an admissible run. -/
structure LeftManaged (managed : Int32 → Prop) (state : Reconciler) :
    Prop where
  reached : (managedReconciler managed).ReachableWhere (Admissible managed)
    state
  announced : state.Announced

namespace LeftManaged

theorem left (leftManaged : state.LeftManaged managed) : state.Left :=
  ⟨reachable_of_managed leftManaged.reached, leftManaged.announced⟩

theorem step (leftManaged : state.LeftManaged managed)
    (alone : WorkerAlone permitted state label)
    (stepped : state.step label = some target) :
    target.LeftManaged managed :=
  ⟨.next leftManaged.reached (admissible_of_alone alone) stepped,
    (leftManaged.left.step alone stepped).announced⟩

theorem consistent (leftManaged : state.LeftManaged managed) :
    state.Consistent managed :=
  consistent_reachable leftManaged.reached

end LeftManaged

/-- The passes which the fresh requests of an attacher still pay for. -/
def credit (state : Reconciler) (id : Nat) : Nat :=
  (maxRetryCount + 1) * state.freshRequests id - state.passes id

def credits (state : Reconciler) : Nat :=
  ∑ id ∈ Finset.range state.attacherCount, state.credit id

/-- How far the worker is from its next pass or from its wait.  A requested
restart sends it once more around its loop. -/
def distance (restartRequested : Bool) : WorkerState → Nat
  | .waiting => 1 + 4 * restartRequested.toNat
  | .sleeping _ => 1 + 4 * restartRequested.toNat
  | .applying [] => 2 + 4 * restartRequested.toNat
  | .applying (_ :: _) => 0
  | .restarting _ => 3 + 4 * restartRequested.toNat
  | .running _ _ _ => 3 + 4 * restartRequested.toNat
  | .rerequesting _ => 7

def remaining (state : Reconciler) : Nat :=
  12 * state.credits + distance state.loaderRestartRequested state.worker

theorem distance_lt (restartRequested : Bool) (worker : WorkerState) :
    distance restartRequested worker < 12 := by
  cases restartRequested <;> cases worker with
  | applying ready => cases ready <;> simp [distance]
  | _ => simp [distance]

theorem distance_applying_le (restartRequested : Bool)
    (ready : List ApplyRequest) :
    distance restartRequested (.applying ready) ≤
      2 + 4 * restartRequested.toNat := by
  cases ready with
  | nil => exact Nat.le_refl _
  | cons request ready => exact Nat.zero_le _

theorem credits_congr
    (attachers : target.shared.attachers = state.shared.attachers)
    (fresh : ∀ id, target.freshRequests id = state.freshRequests id)
    (passes : ∀ id, target.passes id = state.passes id) :
    target.credits = state.credits := by
  simp [credits, credit, attacherCount, attachers, fresh, passes]

theorem remaining_lt_of_distance (credits : target.credits = state.credits)
    (closer : distance target.loaderRestartRequested target.worker <
      distance state.loaderRestartRequested state.worker) :
    target.remaining < state.remaining := by
  unfold remaining
  omega

/-- A pass uses up a unit of the credit of its attacher. -/
theorem credits_startPass {request : ApplyRequest}
    {ready : List ApplyRequest} (left : state.Left)
    (applying : state.worker = .applying (request :: ready))
    (startedLeft : ({ state with
      worker := .running request (applyTargetsPolicyPerAttacher request)
        ready } : Reconciler).Left) :
    ({ state with
      worker := .running request (applyTargetsPolicyPerAttacher request)
        ready } : Reconciler).credits < state.credits := by
  have held : request.WellFormed state.attacherCount := by
    refine left.wellFormed.ready request ?_
    rw [applying]
    exact List.mem_cons_self
  apply Finset.sum_lt_sum
  · intro id _
    simp only [credit, passes, freshRequests, applying, WorkerState.runs]
    omega
  · refine ⟨request.id, Finset.mem_range.mpr held.known, ?_⟩
    obtain ⟨_, _, covered⟩ :=
      funded_reachable startedLeft.reached request.id
    simp only [credit, passes, freshRequests, applying, WorkerState.runs,
      if_true] at covered ⊢
    omega

/-- States in which every call of a running pass has a permitted answer, and
which the worker does not leave. -/
structure Working (permitted : TcOutcome → Bool)
    (holds : Reconciler → Prop) : Prop where
  left : ∀ state, holds state → state.Left
  kept : ∀ state label target, holds state →
    WorkerAlone permitted state label → state.step label = some target →
    holds target
  answered : ∀ state request operation next ready, holds state →
    state.worker = .running request (.call operation next) ready →
    ∃ outcome after answer, permitted outcome = true ∧
      managerHandler.answer state.shared operation outcome =
        some (after, answer)

/-- Every kernel call can fail with EPERM. -/
theorem working_left : Working (fun _ => true) Left where
  left _ left := left
  kept _ _ _ left := left.step
  answered state request operation next ready left running := by
    obtain ⟨held, made, _⟩ := left.wellFormed.running _ _ _ running
    refine ⟨.failing (-1), ?_⟩
    cases operation with
    | getAttacher id =>
        obtain rfl : id = request.id := made
        have found := List.getElem?_eq_getElem held.known
        refine ⟨state.shared, ?_⟩
        simp only [managerHandler, found, Option.map_some]
        exact ⟨_, trivial, rfl⟩
    | _ => exact ⟨_, _, rfl, rfl⟩

/-- A request which is queued becomes due. -/
theorem exists_schedule
    (waits : state.worker = .waiting ∨
      ∃ wakeAt, state.worker = .sleeping wakeAt)
    {request : ApplyRequest}
    (queued : request ∈ state.shared.applyRequests) :
    ∃ now order target, order ≠ [] ∧
      state.step (.schedule now order) = some target := by
  have taken : request ∈
      (state.toSchedule.collect request.due).ready.items := by
    change request ∈ (state.toSchedule.collect request.due).ready
    simp [Schedule.collect, toSchedule, queued, ApplyRequest.isReady]
  have work : state.hasWork = true := by
    have nonempty : state.shared.applyRequests.items ≠ [] :=
      List.ne_nil_of_mem queued
    simp [hasWork, nonempty]
  have collects : (state.collect request.due
      (state.toSchedule.collect request.due).ready.items).isSome := by
    simp [collect]
  obtain ⟨target, collected⟩ := Option.isSome_iff_exists.mp collects
  refine ⟨request.due, _, target, List.ne_nil_of_mem taken, ?_⟩
  rcases waits with waiting | ⟨wakeAt, sleeping⟩
  · simp [step, waiting, work, collected]
  · simp [step, sleeping, collected]

/-- The kind of step which the worker takes next. -/
def takes : WorkerState → ReconcilerStep → Prop
  | .waiting, .schedule _ _ => True
  | .sleeping _, .schedule _ _ => True
  | .restarting _, .restartMonitor _ => True
  | .rerequesting _, .rerequestMonitor _ => True
  | .applying [], .waitAgain => True
  | .applying (_ :: _), .startPass => True
  | .running _ (.done _) _, .finishPass => True
  | .running _ (.call _ _) _, .passOperation _ => True
  | _, _ => False

theorem takes_of_moves (alone : WorkerAlone permitted state label)
    (moves : state.Moves label target) : takes state.worker label := by
  cases moves with
  | schedule waits =>
      rcases waits with waiting | ⟨wakeAt, sleeping⟩
      · rw [waiting]
        trivial
      · rw [sleeping]
        trivial
  | restartMonitor restarting =>
      rw [restarting]
      trivial
  | rerequestMonitor rerequesting =>
      rw [rerequesting]
      trivial
  | startPass applying =>
      rw [applying]
      trivial
  | passOperation running advanced =>
      obtain ⟨_, _, rfl, _⟩ := Program.advance_eq_some advanced
      rw [running]
      trivial
  | finishPass running =>
      rw [running]
      trivial
  | waitAgain applying =>
      rw [applying]
      trivial
  | _ => exact alone.elim

/-- The rest of a pass, whatever its calls are answered. -/
theorem pass_ends {holds : Reconciler → Prop}
    (working : Working permitted holds) {request : ApplyRequest}
    {ready : List ApplyRequest} (program : ManagerProgram Bool)
    (held : holds state)
    (running : state.worker = .running request program ready) :
    reconciler.Inevitable (WorkerAlone permitted)
      (fun target => holds target ∧ target.remaining < state.remaining)
      state := by
  induction program generalizing state with
  | done success =>
      have finish : state.step .finishPass = some { state with
          worker := .applying ready
          history := .passFinished request.id success :: state.history } := by
        simp [step, running]
      refine .next ⟨.finishPass, _, trivial, finish⟩ ?_
      intro label target alone stepped
      refine .here ⟨working.kept _ _ _ held alone stepped, ?_⟩
      have moves := moves_of_step stepped
      have works := worksOn_of_moves alone moves
      have taken := takes_of_moves alone moves
      rw [running] at taken
      cases label with
      | finishPass =>
          cases finish.symm.trans stepped
          apply remaining_lt_of_distance
          · refine credits_congr rfl works.fresh fun id => ?_
            simp only [passes, running, WorkerState.runs,
              List.countP_cons, ReconcilerEvent.finishes,
              decide_eq_true_eq]
            omega
          · refine Nat.lt_of_le_of_lt (distance_applying_le _ _) ?_
            rw [running]
            exact Nat.add_lt_add_right (Nat.lt_succ_self 2) _
      | _ => exact taken.elim
  | call operation next induction =>
      obtain ⟨outcome, _, _, permits, answered⟩ :=
        working.answered _ _ _ _ _ held running
      have goes : ∃ first,
          state.step (.passOperation outcome) = some first := by
        simp [step, running, Program.advance, answered]
      refine .next ⟨.passOperation outcome, goes.imp fun _ => .intro permits⟩
        ?_
      intro label target alone stepped
      have after := working.kept _ _ _ held alone stepped
      have moves := moves_of_step stepped
      have works := worksOn_of_moves alone moves
      have taken := takes_of_moves alone moves
      rw [running] at taken
      cases moves with
      | passOperation runs advanced =>
          cases running.symm.trans runs
          obtain ⟨_, _, pending, rfl⟩ := Program.advance_eq_some advanced
          cases pending
          refine (induction _ after rfl).mono ?_
          rintro last ⟨lastHeld, smaller⟩
          refine ⟨lastHeld, Nat.lt_of_lt_of_eq smaller ?_⟩
          unfold remaining
          rw [credits_congr works.attachers works.fresh, running]
          · rfl
          · intro id
            simp [passes, running, WorkerState.runs,
              (readEvents_counts _ _).2]
      | _ => exact taken.elim

/-- Between two passes the worker comes closer to the next one or to its
wait. -/
theorem turn_ends (left : state.Left)
    (notRunning : ∀ request program ready,
      state.worker ≠ .running request program ready)
    (alone : WorkerAlone permitted state label)
    (stepped : state.step label = some target) :
    target.remaining < state.remaining := by
  have after := left.step alone stepped
  have moves := moves_of_step stepped
  have kept (resting : ∀ request program ready,
      target.worker ≠ .running request program ready)
      (history : target.history = state.history) :
      target.credits = state.credits := by
    have works := worksOn_of_moves alone moves
    refine credits_congr works.attachers works.fresh fun id => ?_
    simp only [passes, history, runs_of_resting notRunning,
      runs_of_resting resting]
  cases moves with
  | @schedule now order _ waits collected =>
      have leaves := leaves_of_collect collected alone
      obtain ⟨_, _, _, shape, _, resting⟩ := collect_frame collected
      have sameHistory : target.history = state.history := by rw [shape]
      have notRunning : ∀ request program ready,
          target.worker ≠ .running request program ready := by
        rw [shape]
        exact resting
      have before : distance state.loaderRestartRequested state.worker =
          1 + 4 * state.loaderRestartRequested.toNat := by
        rcases waits with waiting | ⟨wakeAt, sleeping⟩
        · rw [waiting]
          rfl
        · rw [sleeping]
          rfl
      apply remaining_lt_of_distance (kept notRunning sameHistory)
      rw [before]
      rcases leaves.restart with ⟨due, worker, cleared⟩ |
        ⟨notDue, worker, _⟩
      · simp [worker, cleared, due.1, distance]
      · obtain ⟨request, rest, rfl⟩ := List.exists_cons_of_ne_nil
          (alone.resolve_right notDue)
        rw [worker]
        simp only [distance]
        omega
  | restartMonitor restarting =>
      cases alone
      apply remaining_lt_of_distance (kept (by simp) rfl)
      have closer := distance_applying_le state.loaderRestartRequested
        (state.worker.ready)
      simp only [restarting, WorkerState.ready, if_true] at closer ⊢
      simp only [distance] at closer ⊢
      omega
  | rerequestMonitor rerequesting =>
      apply remaining_lt_of_distance (kept (by simp) rfl)
      have closer := distance_applying_le true state.worker.ready
      simp only [rerequesting, WorkerState.ready] at closer ⊢
      simp only [requestRestart, distance]
      exact Nat.lt_succ_of_le closer
  | @startPass request ready applying =>
      have spent := credits_startPass left applying after
      have bounded := distance_lt state.loaderRestartRequested
        (.running request (applyTargetsPolicyPerAttacher request) ready)
      unfold remaining
      dsimp only
      omega
  | waitAgain applying =>
      apply remaining_lt_of_distance (kept (by simp) rfl)
      simp only [applying, distance]
      omega
  | passOperation running => exact absurd running (notRunning _ _ _)
  | finishPass running => exact absurd running (notRunning _ _ _)
  | _ => exact alone.elim

/-- A worker which is not in a pass has a next step, unless nothing is to be
done. -/
theorem exists_turn (left : state.Left)
    (notRunning : ∀ request program ready,
      state.worker ≠ .running request program ready)
    (active : ¬state.Quiescent) :
    ∃ label target, WorkerAlone permitted state label ∧
      state.step label = some target := by
  have wakes (waits : state.worker = .waiting ∨
        ∃ wakeAt, state.worker = .sleeping wakeAt) :
      ∃ label target, WorkerAlone permitted state label ∧
        state.step label = some target := by
    have resting : state.worker.ready = [] := by
      rcases waits with waiting | ⟨wakeAt, sleeping⟩
      · rw [waiting]
        rfl
      · rw [sleeping]
        rfl
    cases queue : state.shared.applyRequests.items with
    | nil => exact absurd ⟨queue, resting, notRunning, left.announced⟩ active
    | cons request rest =>
        have queued : request ∈ state.shared.applyRequests := by
          rw [Keyed.mem_def, queue]
          exact List.mem_cons_self
        obtain ⟨now, order, target, found, stepped⟩ :=
          exists_schedule waits queued
        exact ⟨.schedule now order, target, .inl found, stepped⟩
  cases worker : state.worker with
  | waiting => exact wakes (.inl worker)
  | sleeping wakeAt => exact wakes (.inr ⟨wakeAt, worker⟩)
  | restarting ready =>
      exact ⟨.restartMonitor true, _, rfl, by simp only [step, worker]; rfl⟩
  | rerequesting ready =>
      exact ⟨.rerequestMonitor 0, _, trivial, by simp only [step, worker]; rfl⟩
  | applying ready =>
      cases ready with
      | nil => exact ⟨.waitAgain, _, trivial, by simp only [step, worker]; rfl⟩
      | cons request ready =>
          exact ⟨.startPass, _, trivial, by simp only [step, worker]; rfl⟩
  | running request program ready =>
      exact absurd worker (notRunning _ _ _)

theorem Working.comes_to_rest {holds : Reconciler → Prop}
    (working : Working permitted holds) (held : holds state) :
    reconciler.Inevitable (WorkerAlone permitted) Quiescent state := by
  refine Machine.Inevitable.induct holds remaining ?_ held
  intro state held active
  have left := working.left state held
  by_cases inPass : ∃ request program ready,
      state.worker = .running request program ready
  · obtain ⟨request, program, ready, running⟩ := inPass
    exact pass_ends working program held running
  · have notRunning : ∀ request program ready,
        state.worker ≠ .running request program ready :=
      fun request program ready running =>
        inPass ⟨request, program, ready, running⟩
    refine .next (exists_turn left notRunning active) ?_
    intro label target alone stepped
    exact .here ⟨working.kept _ _ _ held alone stepped,
      turn_ends left notRunning alone stepped⟩

end Reconciler

section Succeeds

variable {spec : AttachSpec} {prog : BpfProgram} {policy : PolicyType}

/-- A filter can be attached to every interface: its index is positive as the
signed number which libbpf takes. -/
def Attachable (interfaces : InterfaceMap) : Prop :=
  ∀ entry ∈ interfaces, 0 < entry.2.ifindex.toInt32

theorem applyInterfaces_succeeds
    {entries : List (String × InterfaceInfo)} {shared : Shared}
    (addressable : spec.opts.addressable = true)
    (loaded : shared.kernel.program prog.fd = some prog.progId)
    (attachable : Attachable shared.interfaces)
    (within : ∀ entry ∈ entries, entry ∈ shared.interfaces) :
    (applyInterfaces policy spec prog entries true).Meets
      (managerHandler.restrict TcOutcome.isFaithful) (· = ·)
      (fun _ _ => True) (fun success _ => success = true) shared := by
  induction entries generalizing shared with
  | nil => exact fun _ _ => rfl
  | cons entry rest induction =>
      obtain ⟨nicName, info⟩ := entry
      have member := within _ List.mem_cons_self
      refine Program.Meets.bind (fun _ => rfl)
        (applyInterface_alone policy shared addressable loaded) ?_
      intro applied later result
      have index : publishedIndex shared.interfaces nicName =
          info.ifindex.toInt32 := by
        rw [publishedIndex, getIfindexByIfname_of_mem member]
      have succeeded : applied = true := by
        refine result.succeeds onlyFaithful_isFaithful ?_
        rw [index]
        exact attachable _ member
      rw [succeeded, Bool.and_true]
      apply induction
      · rw [result.effect.programs]
        exact loaded
      · rw [result.interfaces]
        exact attachable
      · intro other otherMember
        rw [result.interfaces]
        exact within other (List.mem_cons_of_mem _ otherMember)

theorem pass_succeeds {request : ApplyRequest} {attacher : Attacher}
    {shared : Shared}
    (found : shared.attachers[request.id]? = some attacher)
    (accepted : attacher.attachSpec.Accepted)
    (loaded : shared.kernel.program attacher.prog.fd =
      some attacher.prog.progId)
    (attachable : Attachable shared.interfaces) :
    (applyTargetsPolicyPerAttacher request).Meets
      (managerHandler.restrict TcOutcome.isFaithful) (· = ·)
      (fun _ _ => True) (fun success _ => success = true) shared := by
  refine Program.Meets.call_restrict trivial ?_
  intro choice after answer _ answered
  obtain ⟨rfl, other, otherFound, rfl⟩ := answer_getAttacher answered
  cases found.symm.trans otherFound
  refine Program.Meets.call_restrict trivial ?_
  intro choice later interfaces _ answered
  obtain ⟨rfl, rfl⟩ := answer_snapshot answered
  refine Program.Meets.bind (fun _ => rfl)
    (applyInterfaces_succeeds accepted.addressable loaded
      attachable fun _ member => member) ?_
  rintro success final rfl
  exact fun _ _ => rfl

end Succeeds

/-- Nobody but the worker takes requests of the attacher out of the queue. -/
def StaysQueued (id : Nat) (first second : Shared) : Prop :=
  Queued first.applyRequests id → Queued second.applyRequests id

/-- A pass which has retries left succeeds or is queued again. -/
theorem pass_requeues {request : ApplyRequest}
    (retries : request.retryCount < maxRetryCount) (shared : Shared) :
    (applyTargetsPolicyPerAttacher request).Meets managerHandler
      (StaysQueued request.id) (fun _ _ => True)
      (fun success final => success = true ∨
        Queued final.applyRequests request.id) shared := by
  intro first _
  refine ⟨trivial, fun _ second _ _ => ?_⟩
  intro third _
  refine ⟨trivial, fun _ fourth _ _ => ?_⟩
  refine Program.Meets.bind (fun _ => id)
    (Program.meets_trivial _ _) ?_
  intro isApplySuccess env _
  unfold finishPass
  split
  · exact fun _ _ => .inl rfl
  · dsimp only
    split
    · omega
    · intro later _
      refine ⟨trivial, fun _ after _ answered => ?_⟩
      simp only [managerHandler, Option.some.injEq, Prod.mk.injEq]
        at answered
      obtain ⟨rfl, _⟩ := answered
      intro final stays
      exact .inr (stays (queued_append_self _ _))

namespace Reconciler

variable {managed : Int32 → Prop} {state target : Reconciler}
  {label : ReconcilerStep} {id : Nat}

/-- A running pass which has retries left. -/
def Requeues (state : Reconciler) : Prop :=
  ∀ request program ready,
    state.worker = .running request program ready →
    request.retryCount < maxRetryCount →
    program.Meets managerHandler (StaysQueued request.id) (fun _ _ => True)
      (fun success final => success = true ∨
        Queued final.applyRequests request.id) state.shared

theorem requeues_of_moves (requeues : state.Requeues)
    (moves : state.Moves label target) : target.Requeues := by
  intro request program ready runs retries
  have kept {shared : Shared}
      (running : state.worker = .running request program ready)
      (stays : StaysQueued request.id state.shared shared) :
      program.Meets managerHandler (StaysQueued request.id)
        (fun _ _ => True)
        (fun success final => success = true ∨
          Queued final.applyRequests request.id) shared :=
    (requeues _ _ _ running retries).interfere
      (fun _ _ _ first second queued => second (first queued)) stays
  cases moves with
  | appendPolicy => exact kept runs queued_append
  | appendInterfaces => exact kept runs queued_append
  | schedule _ collected =>
      obtain ⟨_, _, _, rfl, _, notRunning⟩ := collect_frame collected
      exact absurd runs (notRunning _ _ _)
  | restartMonitor =>
      simp only at runs
      split at runs
      · cases runs
      · cases runs
  | rerequestMonitor => cases runs
  | startPass =>
      cases runs
      exact pass_requeues retries _
  | passOperation running advanced =>
      cases runs
      exact ((requeues _ _ _ running retries).advance (fun _ => id)
        advanced).2
  | finishPass => cases runs
  | waitAgain => cases runs
  | _ => exact kept runs id

theorem requeues_reachable (reached : reconciler.Reachable state) :
    state.Requeues := by
  refine reached.invariant ?_ fun _ _ _ requeues stepped =>
    requeues_of_moves requeues (moves_of_step stepped)
  intro state initial request program ready running
  rw [initial.worker] at running
  cases running

/-- A request of the attacher is queued or held, its pass has retries left,
or its last pass was successful. -/
def WillApply (state : Reconciler) (id : Nat) : Prop :=
  Queued state.shared.applyRequests id ∨
    (∃ request ∈ state.worker.ready, request.id = id) ∨
    (∃ request program ready,
      state.worker = .running request program ready ∧ request.id = id ∧
        request.retryCount < maxRetryCount) ∨
    lastPass id state.history = some true ∧ state.worker.Rests id

/-- The same while the kernel does not fail: then a running pass succeeds, or
is queued again because of what had failed before. -/
inductive OnTheWay (state : Reconciler) (id : Nat) : Prop where
  | queued (queued : Queued state.shared.applyRequests id)
  | ready {request : ApplyRequest} (member : request ∈ state.worker.ready)
      (same : request.id = id)
  | running {request : ApplyRequest} {program : ManagerProgram Bool}
      {ready : List ApplyRequest}
      (running : state.worker = .running request program ready)
      (same : request.id = id)
      (meets : program.Meets (managerHandler.restrict TcOutcome.isFaithful)
        (· = ·) (fun _ _ => True)
        (fun success final => success = true ∨
          Queued final.applyRequests id) state.shared)
  | applied (last : lastPass id state.history = some true)
      (rests : state.worker.Rests id)

theorem WillApply.onTheWay (reached : reconciler.Reachable state)
    (willApply : state.WillApply id) : state.OnTheWay id := by
  rcases willApply with queued | ⟨request, member, same⟩ |
    ⟨request, program, ready, running, rfl, retries⟩ | ⟨last, rests⟩
  · exact .queued queued
  · exact .ready member same
  · refine .running running rfl ?_
    exact ((requeues_reachable reached _ _ _ running retries).restrict
      (by rintro first _ rfl; exact id)).restrict_choices
  · exact .applied last rests

/-- A pass which is started now succeeds. -/
theorem onTheWay_of_startPass (leftManaged : state.LeftManaged managed)
    (attachable : Attachable state.shared.interfaces)
    {request : ApplyRequest} {ready : List ApplyRequest}
    (applying : state.worker = .applying (request :: ready)) :
    ({ state with
      worker := .running request (applyTargetsPolicyPerAttacher request)
        ready } : Reconciler).OnTheWay request.id := by
  have held : request.WellFormed state.attacherCount := by
    refine leftManaged.left.wellFormed.ready request ?_
    rw [applying]
    exact List.mem_cons_self
  have found := List.getElem?_eq_getElem held.known
  obtain ⟨accepted, loaded⟩ :=
    leftManaged.consistent.sound.accepted _ _ found
  refine .running rfl rfl ?_
  exact (pass_succeeds found accepted loaded attachable).mono
    (fun _ _ _ => trivial) (fun _ _ succeeded => .inl succeeded)

theorem onTheWay_of_ready (leftManaged : state.LeftManaged managed)
    (attachable : Attachable state.shared.interfaces)
    (alone : WorkerAlone TcOutcome.isFaithful state label)
    (moves : state.Moves label target) {request : ApplyRequest}
    (member : request ∈ state.worker.ready) :
    target.OnTheWay request.id := by
  cases moves with
  | schedule waits =>
      rcases waits with waiting | ⟨wakeAt, sleeping⟩
      · rw [waiting] at member
        cases member
      · rw [sleeping] at member
        cases member
  | restartMonitor restarting =>
      cases alone
      rw [restarting] at member
      exact .ready member rfl
  | rerequestMonitor rerequesting =>
      rw [rerequesting] at member
      exact .ready member rfl
  | startPass applying =>
      rw [applying] at member
      rcases List.mem_cons.mp member with rfl | later
      · exact onTheWay_of_startPass leftManaged attachable applying
      · exact .ready later rfl
  | passOperation running =>
      rw [running] at member
      exact .ready member rfl
  | finishPass running =>
      rw [running] at member
      exact .ready member rfl
  | waitAgain applying =>
      rw [applying] at member
      cases member
  | _ => exact alone.elim

theorem onTheWay_of_running
    (alone : WorkerAlone TcOutcome.isFaithful state label)
    (moves : state.Moves label target) {request : ApplyRequest}
    {program : ManagerProgram Bool} {ready : List ApplyRequest}
    (running : state.worker = .running request program ready)
    (meets : program.Meets (managerHandler.restrict TcOutcome.isFaithful)
      (· = ·) (fun _ _ => True)
      (fun success final => success = true ∨
        Queued final.applyRequests request.id) state.shared) :
    target.OnTheWay request.id := by
  have taken := takes_of_moves alone moves
  rw [running] at taken
  cases moves with
  | passOperation runs advanced =>
      cases running.symm.trans runs
      rw [← Program.advance_restrict alone] at advanced
      exact .running rfl rfl (meets.advance (fun _ => rfl) advanced).2
  | finishPass runs =>
      cases running.symm.trans runs
      rcases meets.finish fun _ => rfl with rfl | queued
      · exact .applied (by simp [lastPass]) (by simp [WorkerState.Rests])
      · exact .queued queued
  | _ =>
      cases program with
      | done => exact taken.elim
      | call => exact taken.elim

theorem onTheWay_of_applied (leftManaged : state.LeftManaged managed)
    (attachable : Attachable state.shared.interfaces)
    (alone : WorkerAlone TcOutcome.isFaithful state label)
    (moves : state.Moves label target)
    (last : lastPass id state.history = some true)
    (rests : state.worker.Rests id) : target.OnTheWay id := by
  have same := lastPass_step moves rests
  rw [last] at same
  cases moves with
  | schedule _ collected =>
      obtain ⟨_, _, _, rfl, _, notRunning⟩ := collect_frame collected
      exact .applied same fun _ _ _ runs => absurd runs (notRunning _ _ _)
  | restartMonitor =>
      cases alone
      exact .applied same (by simp [WorkerState.Rests])
  | rerequestMonitor => exact .applied same (by simp [WorkerState.Rests])
  | @startPass request ready applying =>
      by_cases own : request.id = id
      · subst own
        exact onTheWay_of_startPass leftManaged attachable applying
      · refine .applied same ?_
        intro other program rest runs
        cases runs
        exact own
  | passOperation running =>
      refine .applied same ?_
      intro other program rest runs
      cases runs
      exact rests _ _ _ running
  | finishPass => exact .applied same (by simp [WorkerState.Rests])
  | waitAgain => exact .applied same (by simp [WorkerState.Rests])
  | _ => exact alone.elim

theorem onTheWay_of_moves (leftManaged : state.LeftManaged managed)
    (attachable : Attachable state.shared.interfaces)
    (alone : WorkerAlone TcOutcome.isFaithful state label)
    (moves : state.Moves label target) (onTheWay : state.OnTheWay id) :
    target.OnTheWay id := by
  cases onTheWay with
  | queued queued =>
      rcases queued_step queued moves with stays | ⟨request, member, same⟩
      · exact .queued stays
      · exact .ready member same
  | ready member same =>
      subst same
      exact onTheWay_of_ready leftManaged attachable alone moves member
  | running running same meets =>
      subst same
      exact onTheWay_of_running alone moves running meets
  | applied last rests =>
      exact onTheWay_of_applied leftManaged attachable alone moves last
        rests

/-- Where the worker rests, what was on its way has been applied. -/
theorem OnTheWay.asWanted (leftManaged : state.LeftManaged managed)
    (quiescent : state.Quiescent) (onTheWay : state.OnTheWay id)
    {attacher : Attacher}
    (found : state.shared.attachers[id]? = some attacher) :
    state.AsWanted attacher := by
  cases onTheWay with
  | queued queued =>
      obtain ⟨request, member, _⟩ := queued
      rw [Keyed.mem_def, quiescent.applyRequests] at member
      cases member
  | ready member =>
      rw [quiescent.ready] at member
      cases member
  | running running => exact absurd running (quiescent.notRunning _ _ _)
  | applied last rests =>
      have consistent := leftManaged.consistent
      obtain ⟨_, reads⟩ :=
        consistent.finished id true (passFinished_of_lastPass last)
      have upToDate := upToDate_of_quiescent leftManaged.left.reached
        quiescent reads
      exact consistent.reconciled id attacher found last upToDate rests

/-- A state after steps of the worker from `start`, with a kernel which does
not fail. -/
structure Follows (managed : Int32 → Prop) (start state : Reconciler) :
    Prop where
  leftManaged : state.LeftManaged managed
  attachers : state.shared.attachers = start.shared.attachers
  interfaces : state.shared.interfaces = start.shared.interfaces
  onTheWay : ∀ id, start.WillApply id → state.OnTheWay id

theorem Follows.step {start : Reconciler}
    (attachable : Attachable start.shared.interfaces)
    (follows : Follows managed start state)
    (alone : WorkerAlone TcOutcome.isFaithful state label)
    (stepped : state.step label = some target) :
    Follows managed start target := by
  have moves := moves_of_step stepped
  have works := worksOn_of_moves alone moves
  refine ⟨follows.leftManaged.step alone stepped,
    works.attachers.trans follows.attachers,
    works.interfaces.trans follows.interfaces, ?_⟩
  intro id willApply
  refine onTheWay_of_moves follows.leftManaged ?_ alone moves
    (follows.onTheWay id willApply)
  rw [follows.interfaces]
  exact attachable

end Reconciler

/-- Once all publications are announced, every run of the worker comes to a
state in which nothing is queued, held or running, whatever the kernel
answers. -/
theorem worker_comes_to_rest {state : Reconciler}
    (reached : reconciler.Reachable state) (announced : state.Announced) :
    reconciler.Inevitable (WorkerAlone fun _ => true) Reconciler.Quiescent
      state :=
  Reconciler.working_left.comes_to_rest ⟨reached, announced⟩

/-- A target is added, and the pass for it fails at the qdisc. -/
def failingRun : List ReconcilerStep :=
  ([.mutate 7 0 (.addTarget "eth0"), .publishPolicy 7, .stampPolicy 7 10,
    .appendPolicy 7, .schedule 20 [.fresh 0 10],
    .startPass] : List ReconcilerStep) ++
  List.replicate 3 (.passOperation (.faithful ⟨1, 1⟩)) ++
  [.passOperation (.failing (-1))]

theorem failingRun_enabled :
    ((managedReconciler fun _ => True).runWhere
      (fun _ label => label.plain = true) sampleWithAttacher
      failingRun).isSome = true := by
  decide +kernel

def failingReconciler : Reconciler :=
  (managedReconciler fun _ => True).finishWhere
    (fun _ label => label.plain = true) sampleWithAttacher failingRun
    failingRun_enabled

theorem failingReconciler_reachable :
    (managedReconciler fun _ => True).ReachableWhere
      (Admissible fun _ => True) failingReconciler :=
  sampleWithAttacher_reachable.finishWhere admissible_of_plain
    failingRun_enabled

theorem failingReconciler_announced : failingReconciler.Announced := by
  have shape : failingReconciler.callers =
      Function.update
        (Function.update
          (Function.update
            (Function.update (fun _ => .idle) 7 (.mutated 0))
            7 (.published 0))
          7 (.stamped (.fresh 0 10)))
        7 .idle := rfl
  intro publisher id publishing
  cases publisher with
  | monitor => exact publishing
  | caller thread =>
      rw [Reconciler.Publishing, shape] at publishing
      by_cases same : thread = 7
      · rw [same, Function.update_self] at publishing
        exact publishing
      · simp only [Function.update_of_ne same] at publishing
        exact publishing

/-- The worker comes to rest even if no call ever succeeds again. -/
theorem worker_comes_to_rest_failing :
    reconciler.Inevitable (WorkerAlone fun _ => true) Reconciler.Quiescent
      failingReconciler :=
  worker_comes_to_rest (reachable_of_managed failingReconciler_reachable)
    failingReconciler_announced

end LibbpfControl.BpfTool
