import LibbpfControl.Machine
import LibbpfControl.BpfTool.Filter

/-!
# Refreshes during `detach_filter`

`query_filter` and `detach_filter` resolve the name of the interface
separately, each in the snapshot which is published at that instant.  The
machine below runs one call of `detach_filter` on an arbitrary kernel, with
refreshes at arbitrary points.

A foreign filter is safe in every run in which the second lookup finds the
index of the first one.  A refresh between the two lookups which moves the
name to another interface makes the call detach whatever sits in the slot of
that interface.
-/

namespace LibbpfControl.BpfTool

open NicCheck

structure DetachState where
  shared : Shared
  program : ManagerProgram Bool
  trace : ManagerTrace

inductive DetachStep where
  /-- The monitor publishes a new snapshot. -/
  | refresh (next : InterfaceMap)
  | operation (outcome : TcOutcome)

def DetachState.step (state : DetachState) : DetachStep → Option DetachState
  | .refresh next =>
      some { state with shared := { state.shared with interfaces := next } }
  | .operation outcome =>
      (state.program.advance managerHandler state.shared outcome).map
        fun (rest, later, event) =>
          { shared := later, program := rest, trace := state.trace ++ [event] }

/-- One call of `detach_filter`, with `kernel` as the kernel found by it. -/
def detachMachine (nicName : String) (prog : BpfProgram) (spec : AttachSpec)
    (kernel : TcKernel) : Machine DetachState DetachStep where
  initial state :=
    state.program = detachFilter nicName prog spec ∧ state.trace = [] ∧
      state.shared.kernel = kernel
  step := DetachState.step

/-- The slot which is about to be detached is empty or ours, and the filters
of other owners are where they were. -/
structure ForeignSafe (prog : BpfProgram) (kernel : TcKernel)
    (state : DetachState) : Prop where
  pending : ∀ hook opts next,
    state.program = .call (.tcDetach hook opts) next →
    state.shared.kernel.filter ⟨hook, opts⟩ = none ∨
      state.shared.kernel.filter ⟨hook, opts⟩ = some prog.progId
  kept : ∀ slot progId, kernel.filter slot = some progId →
    progId ≠ prog.progId → state.shared.kernel.filter slot = some progId

/-- The indexes found by the lookups made so far. -/
def lookedUp : ManagerTrace → List UInt32
  | [] => []
  | ⟨.getIfindexByIfname _, index⟩ :: rest => index :: lookedUp rest
  | _ :: rest => lookedUp rest

/-- When the name is looked up for the second time, it is published with the
index found by the first lookup. -/
def SameIndexAgain (nicName : String) (state : DetachState) :
    DetachStep → Prop
  | .refresh _ => True
  | .operation _ =>
      match state.program, lookedUp state.trace with
      | .call (.getIfindexByIfname _) _, [first] =>
          (getIfindexByIfname state.shared.interfaces nicName).1 = first
      | _, _ => True

instance (nicName : String) (state : DetachState) (label : DetachStep) :
    Decidable (SameIndexAgain nicName state label) := by
  unfold SameIndexAgain
  split
  · infer_instance
  · split <;> infer_instance

/-- `detach_filter` after its second lookup. -/
def detachResolved (spec : AttachSpec) (index : UInt32) :
    ManagerProgram Bool :=
  let ifindex := index.toInt32
  if ifindex ≤ 0 then .done false
  else
    .call (.tcDetach (spec.hook ifindex) spec.opts)
      fun rc : Int => .done (decide (rc = 0 ∨ rc = -eNOENT))

/-- `detach_filter` after the query. -/
def detachQueried (nicName : String) (spec : AttachSpec)
    (query : FilterQueryResult) : ManagerProgram Bool :=
  if query.state = .error then .done false
  else if query.state ≠ .ourProgram then .done true
  else .call (.getIfindexByIfname nicName) (detachResolved spec)

/-- `detach_filter` after the lookup made by the query. -/
def detachLooked (nicName : String) (prog : BpfProgram) (spec : AttachSpec)
    (index : UInt32) : ManagerProgram Bool :=
  let ifindex := index.toInt32
  if ifindex ≤ 0 then detachQueried nicName spec ⟨.error, -eNODEV⟩
  else
    .call (.tcQuery (spec.hook ifindex) spec.opts)
      fun answer : Int × UInt32 =>
        detachQueried nicName spec (classifyQuery prog answer)

theorem detachFilter_eq (nicName : String) (prog : BpfProgram)
    (spec : AttachSpec) :
    detachFilter nicName prog spec =
      .call (.getIfindexByIfname nicName)
        (detachLooked nicName prog spec) := by
  unfold detachFilter queryFilter
  rw [Program.call_bind]
  congr 1
  funext index
  unfold detachLooked
  dsimp only
  split <;> rfl

/-- The program which remains, the lookups made and the kernel, at each
point of a call whose two lookups agree. -/
inductive DetachPhase (nicName : String) (prog : BpfProgram)
    (spec : AttachSpec) (kernel : TcKernel) :
    ManagerProgram Bool → List UInt32 → TcKernel → Prop where
  | start :
      DetachPhase nicName prog spec kernel
        (.call (.getIfindexByIfname nicName)
          (detachLooked nicName prog spec))
        [] kernel
  | querying (index : UInt32) :
      DetachPhase nicName prog spec kernel
        (.call (.tcQuery (spec.hook index.toInt32) spec.opts)
          fun answer : Int × UInt32 =>
            detachQueried nicName spec (classifyQuery prog answer))
        [index] kernel
  | resolving {index : UInt32} :
      kernel.filter (spec.slot index.toInt32) = some prog.progId →
      DetachPhase nicName prog spec kernel
        (.call (.getIfindexByIfname nicName) (detachResolved spec))
        [index] kernel
  | detaching {index : UInt32} :
      kernel.filter (spec.slot index.toInt32) = some prog.progId →
      DetachPhase nicName prog spec kernel
        (.call (.tcDetach (spec.hook index.toInt32) spec.opts)
          fun rc : Int => .done (decide (rc = 0 ∨ rc = -eNOENT)))
        [index, index] kernel
  | finished {lookups : List UInt32} {after : TcKernel} (success : Bool) :
      (∀ slot progId, kernel.filter slot = some progId →
        progId ≠ prog.progId → after.filter slot = some progId) →
      DetachPhase nicName prog spec kernel (.done success) lookups after

theorem lookedUp_append (trace : ManagerTrace)
    (event : Program.Event ManagerOp ManagerOp.Answer) :
    lookedUp (trace ++ [event]) = lookedUp trace ++ lookedUp [event] := by
  induction trace with
  | nil => rfl
  | cons first rest induction =>
      obtain ⟨operation, answer⟩ := first
      cases operation <;> simp [lookedUp, induction]

section Phases

variable {nicName : String} {prog : BpfProgram} {spec : AttachSpec}
  {kernel : TcKernel}

/-- After the first lookup the call either gives up or queries the slot. -/
theorem detachPhase_of_lookup (index : UInt32) :
    DetachPhase nicName prog spec kernel
      (detachLooked nicName prog spec index) [index] kernel := by
  unfold detachLooked
  dsimp only
  split
  · exact .finished false (fun _ _ held _ => held)
  · exact .querying index

/-- Only a slot which holds our program is looked up again. -/
theorem detachPhase_of_query {index : UInt32} {after : TcKernel}
    {outcome : TcOutcome} {answer : Int × UInt32}
    (queried : kernel.query (spec.hook index.toInt32) spec.opts outcome =
      some (after, answer)) :
    DetachPhase nicName prog spec kernel
      (detachQueried nicName spec (classifyQuery prog answer)) [index]
      after := by
  obtain ⟨rfl, reported⟩ := TcKernel.query_effect queried
  unfold detachQueried
  split
  · exact .finished false (fun _ _ held _ => held)
  · split
    · exact .finished true (fun _ _ held _ => held)
    · rename_i notError ours
      apply DetachPhase.resolving
      have zero : answer.1 = 0 ∧ answer.2 = prog.progId := by
        revert ours
        unfold classifyQuery
        repeat' split
        all_goals simp_all
      rw [← zero.2]
      exact reported zero.1

theorem detachPhase_of_second_lookup {index : UInt32}
    (ours : kernel.filter (spec.slot index.toInt32) = some prog.progId) :
    DetachPhase nicName prog spec kernel (detachResolved spec index)
      [index, index] kernel := by
  unfold detachResolved
  dsimp only
  split
  · exact .finished false (fun _ _ held _ => held)
  · exact .detaching ours

/-- Detaching from our slot leaves every other program. -/
theorem detachPhase_of_detach {index : UInt32} {after : TcKernel}
    {outcome : TcOutcome} {rc : Int} {lookups : List UInt32}
    (ours : kernel.filter (spec.slot index.toInt32) = some prog.progId)
    (detached : kernel.detach (spec.hook index.toInt32) spec.opts outcome =
      some (after, rc)) :
    DetachPhase nicName prog spec kernel
      (.done (decide (rc = 0 ∨ rc = -eNOENT))) lookups after := by
  apply DetachPhase.finished
  intro slot progId held foreign
  rcases TcKernel.detach_effect detached with
    ⟨_, rfl⟩ | ⟨_, _, rfl⟩ | ⟨_, _, rfl⟩
  · have different : slot ≠ spec.slot index.toInt32 := by
      intro same
      rw [same, ours] at held
      exact foreign (Option.some.inj held).symm
    rw [← held]
    exact TcKernel.remove_other kernel different
  · exact held
  · exact held

end Phases

def AtPhase (nicName : String) (prog : BpfProgram) (spec : AttachSpec)
    (kernel : TcKernel) (state : DetachState) : Prop :=
  DetachPhase nicName prog spec kernel state.program (lookedUp state.trace)
    state.shared.kernel

theorem atPhase_step {nicName : String} {prog : BpfProgram}
    {spec : AttachSpec} {kernel : TcKernel} {state target : DetachState}
    {label : DetachStep}
    (phase : AtPhase nicName prog spec kernel state)
    (sameIndex : SameIndexAgain nicName state label)
    (stepped : state.step label = some target) :
    AtPhase nicName prog spec kernel target := by
  obtain ⟨shared, program, trace⟩ := state
  cases label with
  | refresh next =>
      simp only [DetachState.step, Option.some.injEq] at stepped
      subst target
      exact phase
  | operation outcome =>
      simp only [DetachState.step, Option.map_eq_some_iff] at stepped
      obtain ⟨⟨rest, later, event⟩, advanced, rfl⟩ := stepped
      obtain ⟨next, answered, rfl, rfl⟩ := Program.advance_eq_some advanced
      obtain ⟨operation, answer⟩ := event
      simp only [AtPhase, lookedUp_append] at phase ⊢
      simp only [SameIndexAgain] at sameIndex
      generalize lookedUp trace = lookups at phase sameIndex ⊢
      generalize found : shared.kernel = current at phase
      cases phase with
      | start =>
          simp only [managerHandler, Option.some.injEq, Prod.mk.injEq]
            at answered
          obtain ⟨rfl, rfl⟩ := answered
          rw [found]
          exact detachPhase_of_lookup _
      | querying index =>
          simp only [managerHandler, Option.map_eq_some_iff] at answered
          obtain ⟨⟨after, result⟩, queried, packed⟩ := answered
          simp only [Prod.mk.injEq] at packed
          obtain ⟨rfl, rfl⟩ := packed
          rw [found] at queried
          exact detachPhase_of_query queried
      | resolving ours =>
          simp only [managerHandler, Option.some.injEq, Prod.mk.injEq]
            at answered
          obtain ⟨rfl, rfl⟩ := answered
          rw [found, sameIndex]
          exact detachPhase_of_second_lookup ours
      | detaching ours =>
          simp only [managerHandler, Option.map_eq_some_iff] at answered
          obtain ⟨⟨after, rc⟩, detached, packed⟩ := answered
          simp only [Prod.mk.injEq] at packed
          obtain ⟨rfl, rfl⟩ := packed
          rw [found] at detached
          exact detachPhase_of_detach ours detached

theorem foreignSafe_of_atPhase {nicName : String} {prog : BpfProgram}
    {spec : AttachSpec} {kernel : TcKernel} {state : DetachState}
    (phase : AtPhase nicName prog spec kernel state) :
    ForeignSafe prog kernel state := by
  obtain ⟨shared, program, trace⟩ := state
  simp only [AtPhase] at phase
  generalize lookedUp trace = lookups at phase
  constructor
  · intro hook opts next waiting
    dsimp only at waiting ⊢
    subst program
    generalize shared.kernel = current at phase ⊢
    cases phase with
    | detaching ours => exact Or.inr ours
  · intro slot progId held foreign
    dsimp only
    generalize shared.kernel = current at phase ⊢
    cases phase with
    | start => exact held
    | querying index => exact held
    | resolving ours => exact held
    | detaching ours => exact held
    | finished success kept => exact kept slot progId held foreign

/-- A foreign filter is never detached, in any run in which every second
lookup finds the index of the first one. -/
theorem detach_foreignSafe {nicName : String} {prog : BpfProgram}
    {spec : AttachSpec} {kernel : TcKernel} {state : DetachState}
    (reached : (detachMachine nicName prog spec kernel).ReachableWhere
      (SameIndexAgain nicName) state) :
    ForeignSafe prog kernel state := by
  have phase : AtPhase nicName prog spec kernel state := by
    apply reached.invariant
    · intro start begins
      obtain ⟨program, trace, found⟩ := begins
      rw [AtPhase, program, trace, found, detachFilter_eq]
      exact .start
    · intro state label target phase sameIndex stepped
      exact atPhase_step phase sameIndex stepped
  exact foreignSafe_of_atPhase phase

/-- Our program on the interface with index 2 and another owner's on the one
with index 3, in equal slots. -/
def hostKernel : TcKernel where
  clsact _ := true
  filter slot :=
    if slot = ({} : AttachSpec).slot 2 then some 1
    else if slot = ({} : AttachSpec).slot 3 then some 9
    else none
  program fd := if fd = 3 then some 1 else none
  hooked _ _ := rfl

def hostState : DetachState where
  shared :=
    { attachers := []
      interfaces := singleInterface "eth0" 2
      applyRequests := Keyed.empty
      kernel := hostKernel }
  program := detachFilter "eth0" sampleProgram {}
  trace := []

/-- The refresh comes after the second lookup. -/
def lateRefresh : List DetachStep :=
  [.operation (.faithful ⟨1, 1⟩), .operation (.faithful ⟨1, 1⟩),
    .operation (.faithful ⟨1, 1⟩), .refresh (singleInterface "eth0" 3)]

/-- The refresh comes between the query and the second lookup. -/
def earlyRefresh : List DetachStep :=
  [.operation (.faithful ⟨1, 1⟩), .operation (.faithful ⟨1, 1⟩),
    .refresh (singleInterface "eth0" 3), .operation (.faithful ⟨1, 1⟩)]

def hostMachine : Machine DetachState DetachStep :=
  detachMachine "eth0" sampleProgram {} hostKernel

theorem hostMachine_initial : hostMachine.initial hostState :=
  ⟨rfl, rfl, rfl⟩

theorem lateRefresh_enabled :
    (hostMachine.runWhere (SameIndexAgain "eth0") hostState
      lateRefresh).isSome = true := by
  decide +kernel

theorem earlyRefresh_enabled :
    (hostMachine.runWhere (fun _ _ => True) hostState
      earlyRefresh).isSome = true := by
  decide +kernel

theorem detach_foreignSafe_lateRefresh :
    ForeignSafe sampleProgram hostKernel
      (hostMachine.finishWhere (SameIndexAgain "eth0") hostState lateRefresh
        lateRefresh_enabled) :=
  detach_foreignSafe
    (Machine.ReachableWhere.finishWhere (fun _ _ allowed => allowed)
      (.initial hostMachine_initial) lateRefresh_enabled)

/-- With the refresh between the lookups, the call is about to detach the
other owner's program, and does so in its next step. -/
theorem detach_removes_foreign :
    ∃ state, hostMachine.Reachable state ∧
      ¬ForeignSafe sampleProgram hostKernel state ∧
      hostKernel.filter (({} : AttachSpec).slot 3) = some 9 ∧
      ((state.step (.operation (.faithful ⟨1, 1⟩))).map fun after =>
        after.shared.kernel.filter (({} : AttachSpec).slot 3)) =
          some none := by
  refine ⟨hostMachine.finish hostState earlyRefresh earlyRefresh_enabled,
    Machine.reachable_finish hostMachine_initial earlyRefresh_enabled, ?_,
    by decide +kernel, by decide +kernel⟩
  intro safe
  have pending := safe.pending ⟨3, true⟩ ⟨1, 100⟩ _ rfl
  revert pending
  decide +kernel

end LibbpfControl.BpfTool
