import Mathlib.Data.Finset.Basic
import LibbpfControl.BpfTool.TcKernel

/-!
# Attachers

An attacher keeps the interfaces a user asked for and publishes an immutable
policy snapshot.  Every operation which changes the policy has two critical
sections: the first changes the attacher and decides whether the published
policy is affected, the second rebuilds the snapshot in `change_policy`.
-/

namespace LibbpfControl.BpfTool

inductive AttachMode where
  | attachAll
  | attachSelective
  deriving DecidableEq, Repr

/-- `std::unordered_set<std::string>`. -/
abbrev FilterTargets : Type := Finset String

structure PolicyType where
  policy : FilterTargets := ∅
  isAll : Bool := false
  deriving DecidableEq

/-- The test by which a pass decides between attaching and detaching. -/
def PolicyType.selects (policy : PolicyType) (nicName : String) : Bool :=
  decide (nicName ∈ policy.policy) || policy.isAll

theorem PolicyType.selects_iff {policy : PolicyType} {nicName : String} :
    policy.selects nicName = true ↔
      policy.isAll = true ∨ nicName ∈ policy.policy := by
  rw [selects, Bool.or_eq_true, decide_eq_true_eq, or_comm]

structure Attacher where
  id : Nat
  prog : BpfProgram
  attachSpec : AttachSpec
  mode : AttachMode := .attachSelective
  targetNics : FilterTargets := ∅
  policySnapshot : PolicyType := {}
  deriving DecidableEq

namespace Attacher

/-- The common first critical section of the three target operations: the
targets change when `applies`, and the policy is affected when they changed
in selective mode. -/
def editTargets (applies : FilterTargets → Bool)
    (edit : FilterTargets → FilterTargets) (attacher : Attacher) :
    Attacher × Bool :=
  let policyChanged := applies attacher.targetNics
  ({ attacher with
      targetNics :=
        if policyChanged then edit attacher.targetNics
        else attacher.targetNics },
    decide (attacher.mode = .attachSelective) && policyChanged)

def addTarget (nicName : String) : Attacher → Attacher × Bool :=
  editTargets (fun targets => decide (nicName ∉ targets)) (insert nicName ·)

def removeTarget (nicName : String) : Attacher → Attacher × Bool :=
  editTargets (fun targets => decide (nicName ∈ targets)) (·.erase nicName)

def clearTargets : Attacher → Attacher × Bool :=
  editTargets (fun targets => decide (targets ≠ ∅)) (fun _ => ∅)

def setMode (mode : AttachMode) (attacher : Attacher) : Attacher × Bool :=
  ({ attacher with mode := mode }, decide (attacher.mode ≠ mode))

/-- The critical section of `change_policy`. -/
def changePolicy (attacher : Attacher) : Attacher :=
  { attacher with
    policySnapshot :=
      { policy := attacher.targetNics
        isAll := decide (attacher.mode = .attachAll) } }

def getTargets (attacher : Attacher) : PolicyType :=
  attacher.policySnapshot

end Attacher

inductive AttacherOp where
  | addTarget (nicName : String)
  | removeTarget (nicName : String)
  | clearTargets
  | setMode (mode : AttachMode)
  deriving DecidableEq, Repr

/-- The first critical section of an operation, and whether the operation
goes on to `change_policy`. -/
def Attacher.mutate (attacher : Attacher) : AttacherOp → Attacher × Bool
  | .addTarget nicName => attacher.addTarget nicName
  | .removeTarget nicName => attacher.removeTarget nicName
  | .clearTargets => attacher.clearTargets
  | .setMode mode => attacher.setMode mode

theorem Attacher.mutate_id (attacher : Attacher) (op : AttacherOp) :
    (attacher.mutate op).1.id = attacher.id := by
  cases op <;> rfl

/-- The first critical section never touches what a pass reads. -/
theorem Attacher.mutate_frame (attacher : Attacher) (op : AttacherOp) :
    (attacher.mutate op).1.prog = attacher.prog ∧
      (attacher.mutate op).1.attachSpec = attacher.attachSpec ∧
      (attacher.mutate op).1.policySnapshot = attacher.policySnapshot := by
  cases op <;>
    simp [Attacher.mutate, Attacher.addTarget, Attacher.removeTarget,
      Attacher.clearTargets, Attacher.setMode, Attacher.editTargets]

end LibbpfControl.BpfTool
