import LibbpfControl.BpfTool.Attacher
import LibbpfControl.BpfTool.RequestQueue
import LibbpfControl.NicCheck.Interface
import LibbpfControl.Program

/-!
# Filter operations and the reconcile pass

The functions of the manager which talk to the kernel, as programs over the
atomic operations they are made of.  Every lookup of an index reads the
snapshot which is published at that instant, so a refresh may fall between
any two operations.
-/

namespace LibbpfControl.BpfTool

open NicCheck

inductive ManagerOp where
  /-- The critical section at the start of a pass. -/
  | getAttacher (id : Nat)
  | snapshot
  | getIfindexByIfname (nicName : String)
  | tcHookCreate (hook : TcHook)
  | tcQuery (hook : TcHook) (opts : TcOpts)
  | tcAttach (hook : TcHook) (opts : TcOpts) (progFd : Int32)
      (replace : Bool)
  | tcDetach (hook : TcHook) (opts : TcOpts)
  | appendApplyRequest (request : ApplyRequest)
  deriving DecidableEq

@[reducible] def ManagerOp.Answer : ManagerOp → Type
  | .getAttacher _ => PolicyType × AttachSpec × BpfProgram
  | .snapshot => InterfaceMap
  | .getIfindexByIfname _ => UInt32
  | .tcHookCreate _ => Int
  | .tcQuery _ _ => Int × UInt32
  | .tcAttach _ _ _ _ => Int
  | .tcDetach _ _ => Int
  | .appendApplyRequest _ => Unit

abbrev ManagerProgram (α : Type) : Type :=
  Program ManagerOp ManagerOp.Answer α

/-- The operations made so far, with their answers. -/
abbrev ManagerTrace : Type :=
  List (Program.Event ManagerOp ManagerOp.Answer)

inductive FilterState where
  | ourProgram
  | otherProgram
  /-- There is a `clsact`, but no filter at the handle and priority. -/
  | notFound
  /-- There is no `clsact`, hence nothing can be attached. -/
  | noHook
  | error
  deriving DecidableEq, Repr

structure FilterQueryResult where
  state : FilterState
  error : Int
  deriving DecidableEq, Repr

/-- The interpretation of the answer of `bpf_tc_query`. -/
def classifyQuery (prog : BpfProgram) (answer : Int × UInt32) :
    FilterQueryResult :=
  if answer.1 = -eNOENT then ⟨.notFound, 0⟩
  else if answer.1 = -eINVAL then ⟨.noHook, 0⟩
  else if answer.1 ≠ 0 then ⟨.error, answer.1⟩
  else if answer.2 = prog.progId then ⟨.ourProgram, 0⟩
  else ⟨.otherProgram, 0⟩

def queryFilter (nicName : String) (prog : BpfProgram) (spec : AttachSpec) :
    ManagerProgram FilterQueryResult :=
  .call (.getIfindexByIfname nicName) fun index : UInt32 =>
    let ifindex := index.toInt32
    if ifindex ≤ 0 then .done ⟨.error, -eNODEV⟩
    else
      .call (.tcQuery (spec.hook ifindex) spec.opts)
        fun answer : Int × UInt32 => .done (classifyQuery prog answer)

def attachFilter (nicName : String) (prog : BpfProgram) (spec : AttachSpec) :
    ManagerProgram Bool :=
  .call (.getIfindexByIfname nicName) fun index : UInt32 =>
    let ifindex := index.toInt32
    if ifindex ≤ 0 then .done false
    else
      let hook := spec.hook ifindex
      -- the qdisc is secured first, a query without it cannot succeed
      .call (.tcHookCreate hook) fun rc : Int =>
        if rc ≠ 0 ∧ rc ≠ -eEXIST then .done false
        else do
          let query ← queryFilter nicName prog spec
          if query.state = .ourProgram then return true
          else if query.state = .error then return false
          else
            .call (.tcAttach hook spec.opts prog.fd
                (decide (query.state = .otherProgram)))
              fun rc : Int => .done (decide (rc = 0))

def detachFilter (nicName : String) (prog : BpfProgram) (spec : AttachSpec) :
    ManagerProgram Bool := do
  let query ← queryFilter nicName prog spec
  if query.state = .error then return false
  else if query.state ≠ .ourProgram then return true
  else
    .call (.getIfindexByIfname nicName) fun index : UInt32 =>
      let ifindex := index.toInt32
      if ifindex ≤ 0 then .done false
      else
        .call (.tcDetach (spec.hook ifindex) spec.opts)
          fun rc : Int => .done (decide (rc = 0 ∨ rc = -eNOENT))

/-- One interface of a pass. -/
def applyInterface (policy : PolicyType) (spec : AttachSpec)
    (prog : BpfProgram) (nicName : String) : ManagerProgram Bool :=
  if policy.selects nicName then attachFilter nicName prog spec
  else detachFilter nicName prog spec

/-- The loop of a pass over the entries of the snapshot. -/
def applyInterfaces (policy : PolicyType) (spec : AttachSpec)
    (prog : BpfProgram) :
    List (String × InterfaceInfo) → Bool → ManagerProgram Bool
  | [], isApplySuccess => .done isApplySuccess
  | (nicName, _) :: rest, isApplySuccess => do
      let applied ← applyInterface policy spec prog nicName
      applyInterfaces policy spec prog rest (isApplySuccess && applied)

/-- The end of a pass: a failed pass is queued again until its retries are
used up. -/
def finishPass (request : ApplyRequest) (isApplySuccess : Bool) :
    ManagerProgram Bool :=
  if isApplySuccess then .done true
  else
    let retry := { request with
      isImmediate := false
      retryCount := request.retryCount + 1 }
    if maxRetryCount < retry.retryCount then .done false
    else .call (.appendApplyRequest retry) fun _ => .done false

/-- The part of a pass which follows the two reads. -/
def passBody (request : ApplyRequest)
    (attacher : PolicyType × AttachSpec × BpfProgram)
    (interfaces : InterfaceMap) : ManagerProgram Bool := do
  let isApplySuccess ←
    applyInterfaces attacher.1 attacher.2.1 attacher.2.2 interfaces.items true
  finishPass request isApplySuccess

def applyTargetsPolicyPerAttacher (request : ApplyRequest) :
    ManagerProgram Bool :=
  .call (.getAttacher request.id)
    fun attacher : PolicyType × AttachSpec × BpfProgram =>
      .call .snapshot fun interfaces : InterfaceMap =>
        passBody request attacher interfaces

/-- What the operations of a pass act on: the data of the manager and of its
loader, and the kernel. -/
structure Shared where
  attachers : List Attacher
  interfaces : InterfaceMap
  applyRequests : ApplyRequestQueue
  kernel : TcKernel

def managerHandler :
    Program.Handler ManagerOp ManagerOp.Answer Shared TcOutcome where
  answer shared operation outcome :=
    match operation with
    | .getAttacher id =>
        shared.attachers[id]?.map fun attacher =>
          (shared, attacher.getTargets, attacher.attachSpec, attacher.prog)
    | .snapshot => some (shared, shared.interfaces)
    | .getIfindexByIfname nicName =>
        some (shared, (getIfindexByIfname shared.interfaces nicName).1)
    | .tcHookCreate hook =>
        (shared.kernel.hookCreate hook outcome).map fun (kernel, rc) =>
          ({ shared with kernel := kernel }, rc)
    | .tcQuery hook opts =>
        (shared.kernel.query hook opts outcome).map fun (kernel, answer) =>
          ({ shared with kernel := kernel }, answer)
    | .tcAttach hook opts progFd replace =>
        (shared.kernel.attach hook opts progFd replace outcome).map
          fun (kernel, rc) => ({ shared with kernel := kernel }, rc)
    | .tcDetach hook opts =>
        (shared.kernel.detach hook opts outcome).map fun (kernel, rc) =>
          ({ shared with kernel := kernel }, rc)
    | .appendApplyRequest request =>
        some ({ shared with
          applyRequests :=
            (appendApplyRequest request shared.applyRequests).1 }, ())

/-- The operations of a pass change neither attachers nor the snapshot, nor
what descriptors stand for. -/
theorem answer_frame {shared later : Shared} {operation : ManagerOp}
    {outcome : TcOutcome} {answer : operation.Answer}
    (answered : managerHandler.answer shared operation outcome =
      some (later, answer)) :
    later.attachers = shared.attachers ∧
      later.interfaces = shared.interfaces ∧
      later.kernel.program = shared.kernel.program := by
  cases operation <;>
    simp only [managerHandler, Option.map_eq_some_iff, Option.some.injEq,
      Prod.mk.injEq] at answered
  case appendApplyRequest request =>
    obtain ⟨rfl, _⟩ := answered
    exact ⟨rfl, rfl, rfl⟩
  case snapshot =>
    obtain ⟨rfl, _⟩ := answered
    exact ⟨rfl, rfl, rfl⟩
  case getIfindexByIfname nicName =>
    obtain ⟨rfl, _⟩ := answered
    exact ⟨rfl, rfl, rfl⟩
  case getAttacher id =>
    obtain ⟨_, _, rfl, _⟩ := answered
    exact ⟨rfl, rfl, rfl⟩
  case tcHookCreate hook =>
    obtain ⟨_, created, rfl, _⟩ := answered
    exact ⟨rfl, rfl, (TcKernel.hookCreate_effect created).2.1⟩
  case tcQuery hook opts =>
    obtain ⟨_, queried, rfl, _⟩ := answered
    refine ⟨rfl, rfl, ?_⟩
    rw [(TcKernel.query_effect queried).1]
  case tcAttach hook opts progFd replace =>
    obtain ⟨_, attached, rfl, _⟩ := answered
    exact ⟨rfl, rfl, TcKernel.attach_program attached⟩
  case tcDetach hook opts =>
    obtain ⟨_, detached, rfl, _⟩ := answered
    refine ⟨rfl, rfl, ?_⟩
    rcases TcKernel.detach_effect detached with
      ⟨_, same⟩ | ⟨_, _, same⟩ | ⟨_, _, same⟩ <;> rw [same]
    rfl

/-- The queue is changed by an append only. -/
theorem answer_applyRequests {shared later : Shared} {operation : ManagerOp}
    {outcome : TcOutcome} {answer : operation.Answer}
    (answered : managerHandler.answer shared operation outcome =
      some (later, answer)) :
    later.applyRequests = shared.applyRequests ∧
        (∀ request, operation ≠ .appendApplyRequest request) ∨
      ∃ request, operation = .appendApplyRequest request ∧
        later.applyRequests =
          (appendApplyRequest request shared.applyRequests).1 := by
  cases operation <;>
    simp only [managerHandler, Option.map_eq_some_iff, Option.some.injEq,
      Prod.mk.injEq] at answered
  case appendApplyRequest request =>
    obtain ⟨rfl, _⟩ := answered
    exact .inr ⟨request, rfl, rfl⟩
  case snapshot =>
    obtain ⟨rfl, _⟩ := answered
    exact .inl ⟨rfl, by simp⟩
  case getIfindexByIfname nicName =>
    obtain ⟨rfl, _⟩ := answered
    exact .inl ⟨rfl, by simp⟩
  all_goals
    obtain ⟨_, _, rfl, _⟩ := answered
    exact .inl ⟨rfl, by simp⟩

/-- Kernel calls are made with the direction, handle, priority and program of
the attacher, and only its own request is queued again. -/
def BodyOp (spec : AttachSpec) (prog : BpfProgram) (id : Nat) :
    ManagerOp → Prop
  | .getAttacher _ => False
  | .snapshot => False
  | .getIfindexByIfname _ => True
  | .tcHookCreate hook => hook.isIngress = spec.isIngress
  | .tcQuery hook opts => hook.isIngress = spec.isIngress ∧ opts = spec.opts
  | .tcAttach hook opts progFd _ =>
      hook.isIngress = spec.isIngress ∧ opts = spec.opts ∧ progFd = prog.fd
  | .tcDetach hook opts => hook.isIngress = spec.isIngress ∧ opts = spec.opts
  | .appendApplyRequest request => request.id = id

/-- Kernel calls made for the attacher, and lookups of an index. -/
def KernelOp (spec : AttachSpec) (prog : BpfProgram) : ManagerOp → Prop
  | .getAttacher _ => False
  | .snapshot => False
  | .appendApplyRequest _ => False
  | operation => BodyOp spec prog 0 operation

theorem KernelOp.bodyOp {spec : AttachSpec} {prog : BpfProgram}
    (id : Nat) {operation : ManagerOp} (made : KernelOp spec prog operation) :
    BodyOp spec prog id operation := by
  cases operation with
  | appendApplyRequest request => exact made.elim
  | _ => exact made

section Uses

variable {spec : AttachSpec} {prog : BpfProgram}

theorem queryFilter_uses (nicName : String) :
    (queryFilter nicName prog spec).Uses (KernelOp spec prog) := by
  refine ⟨trivial, fun index => ?_⟩
  dsimp only
  split
  · trivial
  · exact ⟨⟨rfl, rfl⟩, fun _ => trivial⟩

theorem attachFilter_uses (nicName : String) :
    (attachFilter nicName prog spec).Uses (KernelOp spec prog) := by
  refine ⟨trivial, fun index => ?_⟩
  dsimp only
  split
  · trivial
  · refine ⟨rfl, fun rc => ?_⟩
    dsimp only
    split
    · trivial
    · refine (queryFilter_uses nicName).bind fun query => ?_
      split
      · trivial
      · split
        · trivial
        · exact ⟨⟨rfl, rfl, rfl⟩, fun _ => trivial⟩

theorem detachFilter_uses (nicName : String) :
    (detachFilter nicName prog spec).Uses (KernelOp spec prog) := by
  refine (queryFilter_uses nicName).bind fun query => ?_
  split
  · trivial
  · split
    · trivial
    · refine ⟨trivial, fun index => ?_⟩
      dsimp only
      split
      · trivial
      · exact ⟨⟨rfl, rfl⟩, fun _ => trivial⟩

/-- The loop of a pass queues nothing. -/
theorem applyInterfaces_kernelOp (policy : PolicyType)
    (entries : List (String × InterfaceInfo)) (isApplySuccess : Bool) :
    (applyInterfaces policy spec prog entries isApplySuccess).Uses
      (KernelOp spec prog) := by
  induction entries generalizing isApplySuccess with
  | nil => trivial
  | cons entry rest induction =>
      refine Program.Uses.bind ?_ fun applied => induction _
      unfold applyInterface
      split
      · exact attachFilter_uses entry.1
      · exact detachFilter_uses entry.1

theorem applyInterfaces_uses (policy : PolicyType) (id : Nat)
    (entries : List (String × InterfaceInfo)) (isApplySuccess : Bool) :
    (applyInterfaces policy spec prog entries isApplySuccess).Uses
      (BodyOp spec prog id) :=
  (applyInterfaces_kernelOp policy entries isApplySuccess).mono
    fun _ => KernelOp.bodyOp id

theorem finishPass_uses (request : ApplyRequest) (isApplySuccess : Bool) :
    (finishPass request isApplySuccess).Uses
      (BodyOp spec prog request.id) := by
  unfold finishPass
  split
  · trivial
  · dsimp only
    split
    · trivial
    · exact ⟨rfl, fun _ => trivial⟩

theorem passBody_uses (request : ApplyRequest) (policy : PolicyType)
    (interfaces : InterfaceMap) :
    (passBody request (policy, spec, prog) interfaces).Uses
      (BodyOp spec prog request.id) :=
  (applyInterfaces_uses policy request.id interfaces.items true).bind
    (finishPass_uses request)

end Uses

end LibbpfControl.BpfTool
