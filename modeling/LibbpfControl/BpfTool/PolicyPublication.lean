import LibbpfControl.Machine
import LibbpfControl.BpfTool.Attacher

/-!
# The published policy under concurrent calls

Any number of threads operate on one attacher.  A call changes the attacher in
its first critical section; if the policy is affected, it publishes a new
snapshot in its second one and invokes the callback outside the lock.

Between its two sections a call is pending.  A stale snapshot always has a
pending call: a change which makes none pending does not affect the
selection, and whoever publishes repairs the changes of everybody.
-/

namespace LibbpfControl.BpfTool

/-- The interfaces which an attacher is to be attached to. -/
def Attacher.selects (attacher : Attacher) (nicName : String) : Bool :=
  decide (attacher.mode = .attachAll) || decide (nicName ∈ attacher.targetNics)

/-- A thread which operates on the attacher; calls are numbered. -/
inductive CallStage where
  | idle
  /-- Between the two critical sections. -/
  | pending (call : Nat)
  /-- The snapshot is published, the callback is next. -/
  | notifying (call : Nat)
  deriving DecidableEq, Repr

inductive PublicationEvent where
  | published (thread call : Nat)
  | invoked (thread call : Nat)
  deriving DecidableEq, Repr

structure Publication where
  attacher : Attacher
  /-- Whether `notify_change_policy_` holds a function. -/
  hasCallback : Bool
  threads : Nat → CallStage
  /-- The calls begun so far. -/
  calls : Nat
  /-- Newest first. -/
  history : List PublicationEvent

inductive PublicationStep where
  | mutate (thread : Nat) (op : AttacherOp)
  | changePolicy (thread : Nat)
  /-- `notify_change_policy_(id_)`, if there is a callback. -/
  | notifyChangePolicy (thread : Nat)
  deriving DecidableEq, Repr

namespace Publication

def setThread (state : Publication) (thread : Nat) (stage : CallStage) :
    Publication :=
  { state with threads := Function.update state.threads thread stage }

def step (state : Publication) : PublicationStep → Option Publication
  | .mutate thread op =>
      match state.threads thread with
      | .idle =>
          let mutated := state.attacher.mutate op
          some { state.setThread thread
              (if mutated.2 then .pending state.calls else .idle) with
            attacher := mutated.1
            calls := state.calls + 1 }
      | _ => none
  | .changePolicy thread =>
      match state.threads thread with
      | .pending call =>
          some { state.setThread thread (.notifying call) with
            attacher := state.attacher.changePolicy
            history := .published thread call :: state.history }
      | _ => none
  | .notifyChangePolicy thread =>
      match state.threads thread with
      | .notifying call =>
          some { state.setThread thread .idle with
            history :=
              if state.hasCallback then .invoked thread call :: state.history
              else state.history }
      | _ => none

/-- A constructed attacher on which no thread operates yet. -/
structure Initial (state : Publication) : Prop where
  mode : state.attacher.mode = .attachSelective
  targetNics : state.attacher.targetNics = ∅
  policySnapshot : state.attacher.policySnapshot = {}
  threads : ∀ thread, state.threads thread = .idle
  history : state.history = []

inductive Moves (state : Publication) :
    PublicationStep → Publication → Prop where
  | mutate {thread : Nat} {op : AttacherOp} :
      state.threads thread = .idle →
      Moves state (.mutate thread op)
        { state.setThread thread
            (if (state.attacher.mutate op).2 then .pending state.calls
            else .idle) with
          attacher := (state.attacher.mutate op).1
          calls := state.calls + 1 }
  | changePolicy {thread call : Nat} :
      state.threads thread = .pending call →
      Moves state (.changePolicy thread)
        { state.setThread thread (.notifying call) with
          attacher := state.attacher.changePolicy
          history := .published thread call :: state.history }
  | notifyChangePolicy {thread call : Nat} :
      state.threads thread = .notifying call →
      Moves state (.notifyChangePolicy thread)
        { state.setThread thread .idle with
          history :=
            if state.hasCallback then .invoked thread call :: state.history
            else state.history }

theorem moves_of_step {state target : Publication} {label : PublicationStep}
    (stepped : state.step label = some target) :
    state.Moves label target := by
  cases label with
  | mutate thread op =>
      simp only [step] at stepped
      split at stepped
      · rename_i idle
        cases stepped
        exact .mutate idle
      · cases stepped
  | changePolicy thread =>
      simp only [step] at stepped
      split at stepped
      · rename_i pending
        cases stepped
        exact .changePolicy pending
      · cases stepped
  | notifyChangePolicy thread =>
      simp only [step] at stepped
      split at stepped
      · rename_i notifying
        cases stepped
        exact .notifyChangePolicy notifying
      · cases stepped

end Publication

def publicationMachine : Machine Publication PublicationStep where
  initial := Publication.Initial
  step := Publication.step

theorem Attacher.editTargets_selects {attacher : Attacher}
    {applies : FilterTargets → Bool} {edit : FilterTargets → FilterTargets}
    (unaffected : (attacher.editTargets applies edit).2 = false)
    (nicName : String) :
    (attacher.editTargets applies edit).1.selects nicName =
      attacher.selects nicName := by
  cases changed : applies attacher.targetNics with
  | false => simp [editTargets, changed, selects]
  | true =>
      -- the targets changed, so the mode is the one which ignores them
      have attachesAll : attacher.mode = .attachAll := by
        cases mode : attacher.mode with
        | attachAll => rfl
        | attachSelective => simp [editTargets, changed, mode] at unaffected
      simp [editTargets, selects, attachesAll]

/-- A change which does not go on to `change_policy` selects the same
interfaces. -/
theorem Attacher.mutate_selects {attacher : Attacher} {op : AttacherOp}
    (unaffected : (attacher.mutate op).2 = false) (nicName : String) :
    (attacher.mutate op).1.selects nicName = attacher.selects nicName := by
  cases op with
  | addTarget added => exact editTargets_selects unaffected nicName
  | removeTarget removed => exact editTargets_selects unaffected nicName
  | clearTargets => exact editTargets_selects unaffected nicName
  | setMode mode =>
      have same : attacher.mode = mode := by
        simpa [mutate, setMode] using unaffected
      simp [mutate, setMode, selects, same]

theorem Attacher.changePolicy_selects (attacher : Attacher)
    (nicName : String) :
    attacher.changePolicy.policySnapshot.selects nicName =
      attacher.changePolicy.selects nicName :=
  Bool.or_comm _ _

namespace Publication

variable {state target : Publication} {label : PublicationStep}

/-- The published snapshot selects what the attacher selects. -/
def UpToDate (state : Publication) : Prop :=
  ∀ nicName, state.attacher.policySnapshot.selects nicName =
    state.attacher.selects nicName

def Pending (state : Publication) : Prop :=
  ∃ thread call, state.threads thread = .pending call

/-- A stale snapshot has a pending call. -/
theorem converging_of_moves (converging : state.Pending ∨ state.UpToDate)
    (moves : state.Moves label target) :
    target.Pending ∨ target.UpToDate := by
  cases moves with
  | @mutate thread op idle =>
      cases affected : (state.attacher.mutate op).2 with
      | true =>
          refine .inl ⟨thread, state.calls, ?_⟩
          simp [setThread]
      | false =>
          rcases converging with ⟨other, call, pending⟩ | upToDate
          · refine .inl ⟨other, call, ?_⟩
            have different : other ≠ thread := by
              rintro rfl
              rw [idle] at pending
              cases pending
            simpa [setThread, Function.update_of_ne different] using pending
          · refine .inr fun nicName => ?_
            have kept := (state.attacher.mutate_frame op).2.2
            simp only [kept, upToDate nicName]
            exact (Attacher.mutate_selects affected nicName).symm
  | changePolicy =>
      exact .inr state.attacher.changePolicy_selects
  | @notifyChangePolicy thread call notifying =>
      rcases converging with ⟨other, otherCall, pending⟩ | upToDate
      · refine .inl ⟨other, otherCall, ?_⟩
        have different : other ≠ thread := by
          rintro rfl
          rw [notifying] at pending
          cases pending
        simpa [setThread, Function.update_of_ne different] using pending
      · exact .inr upToDate

/-- Every call which has published is about to invoke the callback or has
invoked it since. -/
def Announced (state : Publication) : Prop :=
  ∀ thread call later earlier,
    state.history = later ++ .published thread call :: earlier →
    state.threads thread = .notifying call ∨
      (state.hasCallback = true → .invoked thread call ∈ later)

/-- A thread which is not about to invoke the callback keeps what it
promises of its earlier publications. -/
theorem Announced.invoked (announced : state.Announced)
    {thread call : Nat} {later earlier : List PublicationEvent}
    (elsewhere : ∀ other, state.threads thread ≠ .notifying other)
    (since : state.history = later ++ .published thread call :: earlier)
    (hasCallback : state.hasCallback = true) :
    .invoked thread call ∈ later := by
  rcases announced thread call later earlier since with notifying | invoked
  · exact absurd notifying (elsewhere call)
  · exact invoked hasCallback

theorem announced_of_moves (announced : state.Announced)
    (moves : state.Moves label target) : target.Announced := by
  intro thread call later earlier since
  cases moves with
  | @mutate mutator op idle =>
      by_cases same : thread = mutator
      · subst same
        exact .inr (announced.invoked (by simp [idle]) since)
      · simp only [setThread, Function.update_of_ne same]
        exact announced thread call later earlier since
  | @changePolicy publisher published pending =>
      cases later with
      | nil =>
          -- the step is the publication itself
          simp only [List.nil_append, List.cons.injEq,
            PublicationEvent.published.injEq] at since
          obtain ⟨⟨rfl, rfl⟩, _⟩ := since
          exact .inl (Function.update_self _ _ _)
      | cons newest later =>
          have older := (List.cons.inj since).2
          by_cases same : thread = publisher
          · subst same
            refine .inr fun hasCallback => List.mem_cons_of_mem _ ?_
            exact announced.invoked (by simp [pending]) older hasCallback
          · simp only [setThread, Function.update_of_ne same]
            exact (announced thread call later earlier older).imp_right
              fun invoked hasCallback =>
                List.mem_cons_of_mem _ (invoked hasCallback)
  | @notifyChangePolicy notifier notified notifying =>
      cases callback : state.hasCallback with
      | false =>
          refine .inr fun hasCallback => ?_
          exact absurd (callback.symm.trans hasCallback) (by decide)
      | true =>
          simp only [callback, if_true] at since
          cases later with
          | nil => cases (List.cons.inj since).1
          | cons newest later =>
              obtain ⟨rfl, older⟩ := List.cons.inj since
              rcases announced thread call later earlier older with
                before | invoked
              · by_cases same : thread = notifier
                · subst same
                  rw [notifying] at before
                  cases before
                  exact .inr fun _ => List.mem_cons_self
                · simp only [setThread, Function.update_of_ne same]
                  exact .inl before
              · exact .inr fun hasCallback =>
                  List.mem_cons_of_mem _ (invoked hasCallback)

theorem upToDate_of_initial (initial : state.Initial) : state.UpToDate := by
  intro nicName
  simp [Attacher.selects, PolicyType.selects, initial.mode,
    initial.targetNics, initial.policySnapshot]

theorem converging_reachable (reached : publicationMachine.Reachable state) :
    state.Pending ∨ state.UpToDate :=
  reached.invariant
    (fun _ initial => .inr (upToDate_of_initial initial))
    fun _ _ _ converging stepped =>
      converging_of_moves converging (moves_of_step stepped)

theorem announced_reachable (reached : publicationMachine.Reachable state) :
    state.Announced := by
  refine reached.invariant ?_ ?_
  · intro start begins thread call later earlier since
    rw [begins.history] at since
    exact absurd since (by simp)
  · intro state label target announced stepped
    exact announced_of_moves announced (moves_of_step stepped)

end Publication

/-- When no call is between its two critical sections, the snapshot selects
what the attacher selects; and no call which published a snapshot ends
without having invoked the callback since. -/
theorem policy_convergence {state : Publication}
    (reached : publicationMachine.Reachable state) :
    ((∀ thread call, state.threads thread ≠ .pending call) →
        ∀ nicName, state.attacher.policySnapshot.selects nicName =
          state.attacher.selects nicName) ∧
      ∀ thread call later earlier,
        state.history = later ++ .published thread call :: earlier →
        state.threads thread = .notifying call ∨
          (state.hasCallback = true → .invoked thread call ∈ later) := by
  refine ⟨fun quiet => ?_, Publication.announced_reachable reached⟩
  rcases Publication.converging_reachable reached with
    ⟨thread, call, pending⟩ | upToDate
  · exact absurd pending (quiet thread call)
  · exact upToDate

/-- Two threads switch the mode while a third adds a target, which is not
published by itself. -/
def modeSwitches : List PublicationStep :=
  [.mutate 0 (.setMode .attachAll), .mutate 1 (.addTarget "eth0"),
    .mutate 2 (.setMode .attachSelective), .changePolicy 2,
    .notifyChangePolicy 2, .changePolicy 0]

def samplePublication : Publication where
  attacher := { id := 0, prog := sampleProgram, attachSpec := {} }
  hasCallback := true
  threads := fun _ => .idle
  calls := 0
  history := []

theorem samplePublication_initial : samplePublication.Initial :=
  ⟨rfl, rfl, rfl, fun _ => rfl, rfl⟩

theorem modeSwitches_enabled :
    (publicationMachine.runWhere (fun _ _ => True) samplePublication
      modeSwitches).isSome = true := by
  decide

def switchedPublication : Publication :=
  publicationMachine.finish samplePublication modeSwitches
    modeSwitches_enabled

theorem policy_convergence_switched :
    switchedPublication.attacher.policySnapshot.selects "eth0" = true ∧
      (switchedPublication.attacher.policySnapshot.selects "eth1" =
        switchedPublication.attacher.selects "eth1") ∧
      (switchedPublication.threads 2 = .notifying 2 ∨
        (switchedPublication.hasCallback = true →
          .invoked 2 2 ∈
            [PublicationEvent.published 0 0, .invoked 2 2])) := by
  have converged := policy_convergence (Machine.reachable_finish
    samplePublication_initial modeSwitches_enabled)
  refine ⟨by decide, converged.1 ?_ "eth1",
    converged.2 2 2 [.published 0 0, .invoked 2 2] [] rfl⟩
  have threads : switchedPublication.threads = Function.update
      (Function.update (Function.update (Function.update (Function.update
        (Function.update (fun _ => .idle) 0 (.pending 0)) 1 .idle)
        2 (.pending 2)) 2 (.notifying 2)) 2 .idle) 0 (.notifying 0) := rfl
  intro thread call
  change switchedPublication.threads thread ≠ _
  rw [threads]
  simp only [Function.update_apply]
  repeat' split
  all_goals simp

end LibbpfControl.BpfTool
