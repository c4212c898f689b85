import Mathlib.Data.Fintype.EquivFin
import LibbpfControl.BpfTool.PolicyPublication

/-!
# The callback of an attacher

One thread operates on an attacher.  The purpose of the attacher is stated as
an abstract state, a mode and a set of names, in which an operation is a plain
update and the desired names are all names or the set.  The attacher refines
it: its snapshot selects the desired names after every operation, and the
callback is invoked for the operations which change them.

A switch of the mode always changes them, because there are more names than
targets.
-/

namespace LibbpfControl.BpfTool

/-- An invocation of the callback: its argument, and what `get_targets`
returns to it. -/
structure CallbackCall where
  id : Nat
  targets : PolicyType
  deriving DecidableEq

/-- The attacher which `create_attacher` makes. -/
def Attacher.construct (id : Nat) (prog : BpfProgram) (spec : AttachSpec) :
    Attacher :=
  { id, prog, attachSpec := spec }

/-- An operation from its first critical section to its return, on an
attacher with a callback. -/
def Attacher.perform (attacher : Attacher) (op : AttacherOp) :
    Attacher × List CallbackCall :=
  let mutated := attacher.mutate op
  if mutated.2 then
    let published := mutated.1.changePolicy
    (published, [⟨published.id, published.getTargets⟩])
  else (mutated.1, [])

def Attacher.performAll (attacher : Attacher) (ops : List AttacherOp) :
    Attacher :=
  ops.foldl (fun attacher op => (attacher.perform op).1) attacher

/-- A mode and a set of names. -/
structure DesiredPolicy where
  mode : AttachMode
  targets : Set String

namespace DesiredPolicy

def names (policy : DesiredPolicy) : Set String :=
  match policy.mode with
  | .attachAll => Set.univ
  | .attachSelective => policy.targets

def apply (policy : DesiredPolicy) : AttacherOp → DesiredPolicy
  | .addTarget nicName =>
      { policy with targets := insert nicName policy.targets }
  | .removeTarget nicName =>
      { policy with targets := policy.targets \ {nicName} }
  | .clearTargets => { policy with targets := ∅ }
  | .setMode mode => { policy with mode := mode }

/-- The operations replayed from the start. -/
def replay (ops : List AttacherOp) : DesiredPolicy :=
  ops.foldl apply { mode := .attachSelective, targets := ∅ }

end DesiredPolicy

/-- The abstract state of an attacher: its mode and its targets. -/
def Attacher.desired (attacher : Attacher) : DesiredPolicy where
  mode := attacher.mode
  targets := ↑attacher.targetNics

namespace Attacher

variable {attacher : Attacher} {op : AttacherOp}

theorem mem_names_iff (attacher : Attacher) (nicName : String) :
    nicName ∈ attacher.desired.names ↔ attacher.selects nicName = true := by
  rw [DesiredPolicy.names, selects, desired]
  cases attacher.mode with
  | attachAll => simp
  | attachSelective => simp

theorem changePolicy_desired (attacher : Attacher) :
    attacher.changePolicy.desired = attacher.desired :=
  rfl

/-- The first critical section is the update of the abstract state. -/
theorem mutate_desired (attacher : Attacher) (op : AttacherOp) :
    (attacher.mutate op).1.desired = attacher.desired.apply op := by
  cases op with
  | addTarget nicName =>
      by_cases present : nicName ∈ attacher.targetNics
      · simp [mutate, addTarget, editTargets, desired, DesiredPolicy.apply,
          present]
      · simp [mutate, addTarget, editTargets, desired, DesiredPolicy.apply,
          present]
  | removeTarget nicName =>
      by_cases present : nicName ∈ attacher.targetNics
      · simp [mutate, removeTarget, editTargets, desired,
          DesiredPolicy.apply, present]
      · simp [mutate, removeTarget, editTargets, desired,
          DesiredPolicy.apply, present]
  | clearTargets =>
      by_cases empty : attacher.targetNics = ∅
      · simp [mutate, clearTargets, editTargets, desired,
          DesiredPolicy.apply, empty]
      · simp [mutate, clearTargets, editTargets, desired,
          DesiredPolicy.apply, empty]
  | setMode mode => rfl

theorem perform_desired (attacher : Attacher) (op : AttacherOp) :
    (attacher.perform op).1.desired = attacher.desired.apply op := by
  rw [← mutate_desired, perform]
  dsimp only
  split
  · rw [changePolicy_desired]
  · rfl

theorem names_eq_of_selects {first second : Attacher}
    (same : ∀ nicName, first.selects nicName = second.selects nicName) :
    first.desired.names = second.desired.names := by
  ext nicName
  rw [mem_names_iff, mem_names_iff, same nicName]

/-- An edit which is applied in selective mode changes them. -/
theorem editTargets_names_ne {applies : FilterTargets → Bool}
    {edit : FilterTargets → FilterTargets}
    (effective : ∀ targets, applies targets = true →
      edit targets ≠ targets)
    (affected : (attacher.editTargets applies edit).2 = true) :
    (attacher.editTargets applies edit).1.desired.names ≠
      attacher.desired.names := by
  simp only [editTargets, Bool.and_eq_true, decide_eq_true_eq] at affected
  obtain ⟨selective, applied⟩ := affected
  have different := effective attacher.targetNics applied
  simpa [editTargets, desired, DesiredPolicy.names, selective, applied]
    using different

/-- Finitely many targets are not all names. -/
theorem coe_targets_ne_univ (targets : FilterTargets) :
    (targets : Set String) ≠ Set.univ := by
  obtain ⟨nicName, absent⟩ := Infinite.exists_notMem_finset targets
  intro all
  have present : nicName ∈ (targets : Set String) := by
    rw [all]
    trivial
  exact absent present

theorem setMode_names_ne {mode : AttachMode} (other : attacher.mode ≠ mode) :
    (attacher.setMode mode).1.desired.names ≠ attacher.desired.names := by
  have finite := coe_targets_ne_univ attacher.targetNics
  cases current : attacher.mode with
  | attachAll =>
      cases mode with
      | attachAll => exact absurd current other
      | attachSelective =>
          simpa [setMode, desired, DesiredPolicy.names, current] using finite
  | attachSelective =>
      cases mode with
      | attachAll =>
          simpa [setMode, desired, DesiredPolicy.names, current]
            using finite.symm
      | attachSelective => exact absurd current other

theorem mutate_names_ne (affected : (attacher.mutate op).2 = true) :
    (attacher.mutate op).1.desired.names ≠ attacher.desired.names := by
  cases op with
  | addTarget nicName =>
      apply editTargets_names_ne ?_ affected
      intro targets absent unchanged
      simp only [decide_eq_true_eq] at absent
      exact absent (Finset.insert_eq_self.mp unchanged)
  | removeTarget nicName =>
      apply editTargets_names_ne ?_ affected
      intro targets present unchanged
      simp only [decide_eq_true_eq] at present
      exact Finset.erase_eq_self.mp unchanged present
  | clearTargets =>
      apply editTargets_names_ne ?_ affected
      intro targets nonempty unchanged
      simp only [decide_eq_true_eq] at nonempty
      exact nonempty unchanged.symm
  | setMode mode =>
      exact setMode_names_ne (of_decide_eq_true affected)

/-- The snapshot selects the desired names. -/
def Published (attacher : Attacher) : Prop :=
  ∀ nicName, attacher.getTargets.selects nicName = true ↔
    nicName ∈ attacher.desired.names

theorem published_changePolicy (attacher : Attacher) :
    attacher.changePolicy.Published := by
  intro nicName
  rw [mem_names_iff, ← changePolicy_selects]
  rfl

/-- Exactly the effective operations invoke the callback, once, with the id
of the attacher and a snapshot which selects the new names. -/
structure Notifies (attacher : Attacher) (op : AttacherOp) : Prop where
  effective : (attacher.perform op).1.desired.names ≠
      attacher.desired.names →
    (attacher.perform op).2 =
      [⟨attacher.id, (attacher.perform op).1.getTargets⟩]
  ineffective : (attacher.perform op).1.desired.names =
      attacher.desired.names →
    (attacher.perform op).2 = []
  reads : ∀ call ∈ (attacher.perform op).2, ∀ nicName,
    call.targets.selects nicName = true ↔
      nicName ∈ (attacher.perform op).1.desired.names

theorem notifies_perform (attacher : Attacher) (op : AttacherOp) :
    attacher.Notifies op := by
  cases affected : (attacher.mutate op).2 with
  | true =>
      have performed : attacher.perform op =
          ((attacher.mutate op).1.changePolicy,
            [⟨attacher.id,
              (attacher.mutate op).1.changePolicy.getTargets⟩]) := by
        rw [perform, ← attacher.mutate_id op]
        simp only [affected, if_true]
        rfl
      constructor
      · intro _
        rw [performed]
      · intro same
        rw [performed, changePolicy_desired] at same
        exact absurd same (mutate_names_ne affected)
      · rw [performed]
        intro call member
        rw [List.mem_singleton.mp member]
        exact published_changePolicy _
  | false =>
      have performed : attacher.perform op =
          ((attacher.mutate op).1, []) := by
        simp [perform, affected]
      have same := names_eq_of_selects (mutate_selects affected)
      constructor
      · intro different
        rw [performed] at different
        exact absurd same different
      · intro _
        rw [performed]
      · rw [performed]
        intro call member
        cases member

theorem published_perform (published : attacher.Published) (op : AttacherOp) :
    (attacher.perform op).1.Published := by
  cases affected : (attacher.mutate op).2 with
  | true =>
      have performed : (attacher.perform op).1 =
          (attacher.mutate op).1.changePolicy := by
        simp [perform, affected]
      rw [performed]
      exact published_changePolicy _
  | false =>
      have performed : (attacher.perform op).1 = (attacher.mutate op).1 := by
        simp [perform, affected]
      intro nicName
      have kept := (attacher.mutate_frame op).2.2
      have same := names_eq_of_selects (mutate_selects affected)
      rw [performed, same, getTargets, kept]
      exact published nicName

theorem perform_id (attacher : Attacher) (op : AttacherOp) :
    (attacher.perform op).1.id = attacher.id := by
  rw [← attacher.mutate_id op, perform]
  dsimp only
  split
  · rfl
  · rfl

/-- A run keeps the id, replays on the abstract state and leaves the snapshot
published. -/
theorem performAll_refines (published : attacher.Published)
    (ops : List AttacherOp) :
    (attacher.performAll ops).id = attacher.id ∧
      (attacher.performAll ops).desired =
        ops.foldl DesiredPolicy.apply attacher.desired ∧
      (attacher.performAll ops).Published := by
  induction ops generalizing attacher with
  | nil => exact ⟨rfl, rfl, published⟩
  | cons op ops induction =>
      obtain ⟨sameId, replayed, stillPublished⟩ :=
        induction (published_perform published op)
      rw [perform_id] at sameId
      rw [perform_desired] at replayed
      exact ⟨sameId, replayed, stillPublished⟩

end Attacher

/-- In every run of operations from the construction on, the next operation
invokes the callback exactly if it changes the desired names, with the id of
the attacher and a snapshot which selects the new ones; after the run the
snapshot selects the names of the replayed abstract state. -/
theorem callback_on_effective_changes (id : Nat) (prog : BpfProgram)
    (spec : AttachSpec) (ops : List AttacherOp) :
    (∀ op, ((Attacher.construct id prog spec).performAll ops).Notifies op) ∧
      ((Attacher.construct id prog spec).performAll ops).id = id ∧
      ∀ nicName,
        ((Attacher.construct id prog spec).performAll
            ops).getTargets.selects nicName = true ↔
          nicName ∈ (DesiredPolicy.replay ops).names := by
  have initially : (Attacher.construct id prog spec).Published := by
    intro nicName
    simp [Attacher.construct, Attacher.getTargets, PolicyType.selects,
      Attacher.desired, DesiredPolicy.names]
  have fresh : (Attacher.construct id prog spec).desired =
      { mode := .attachSelective, targets := ∅ } := by
    simp [Attacher.construct, Attacher.desired]
  obtain ⟨sameId, replayed, published⟩ :=
    Attacher.performAll_refines initially ops
  refine ⟨fun op => Attacher.notifies_perform _ op, sameId, ?_⟩
  intro nicName
  rw [published nicName, replayed, fresh]
  rfl

end LibbpfControl.BpfTool
