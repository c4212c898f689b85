import LibbpfControl.BpfTool.NoLostUpdate
import LibbpfControl.BpfTool.Pass

/-!
# Quiescent consistency

When nothing is queued, held or about to be appended, and the most recent
pass of an attacher succeeded, the kernel is as the policy of the attacher
wants it on every interface of the current snapshot.

Two facts are combined.  Nothing is lost, so a quiescent attacher has read
both its policy and the snapshot since they were last published.  And a pass
which has read what is still current leaves the kernel reconciled, which only
a publication or a pass of the same attacher can undo.
-/

namespace LibbpfControl.BpfTool

open NicCheck

/-- A snapshot with pairwise distinct nonzero indexes, all of them
managed. -/
structure Usable (managed : Int32 → Prop) (interfaces : InterfaceMap) :
    Prop where
  distinct : (interfaces.items.map fun entry => entry.2.ifindex).Nodup
  nonzero : ∀ entry ∈ interfaces, entry.2.ifindex ≠ 0
  covered : ∀ entry ∈ interfaces, managed entry.2.ifindex.toInt32

/-- The runs considered: attachers have different specifications and loaded
programs, snapshots are usable, and other software leaves the filters of
managed interfaces and the descriptors of attachers alone. -/
def Admissible (managed : Int32 → Prop) (state : Reconciler) :
    ReconcilerStep → Prop
  | .createAttacher prog spec =>
      spec.Accepted ∧
        state.shared.kernel.program prog.fd = some prog.progId ∧
        ∀ attacher ∈ state.shared.attachers, attacher.attachSpec ≠ spec
  | .publishInterfaces next => Usable managed next
  | .changeKernel kernel =>
      (∀ slot : Slot, managed slot.hook.ifindex →
        kernel.filter slot = state.shared.kernel.filter slot) ∧
      ∀ attacher ∈ state.shared.attachers,
        kernel.program attacher.prog.fd =
          state.shared.kernel.program attacher.prog.fd
  | _ => True

/-- The reconciler started with a usable snapshot. -/
def managedReconciler (managed : Int32 → Prop) :
    Machine Reconciler ReconcilerStep where
  initial state := state.Initial ∧ Usable managed state.shared.interfaces
  step := Reconciler.step

/-- No request is queued or held, and no thread is between publishing and
appending. -/
structure Reconciler.Quiescent (state : Reconciler) : Prop where
  applyRequests : state.shared.applyRequests.items = []
  ready : state.worker.ready = []
  notRunning : ∀ request program ready,
    state.worker ≠ .running request program ready
  publishing : ∀ publisher id, ¬state.Publishing id publisher

/-- The result of the most recent pass of an attacher. -/
def lastPass (id : Nat) : List ReconcilerEvent → Option Bool
  | [] => none
  | .passFinished other success :: rest =>
      if other = id then some success else lastPass id rest
  | _ :: rest => lastPass id rest

/-- The attacher has read the view since it was last published. -/
def readSince (view : View) (id : Nat) : List ReconcilerEvent → Bool
  | [] => false
  | event :: rest =>
      if event = .read view id then true
      else if event.publication view id ≠ none then false
      else readSince view id rest

section History

variable {id : Nat} {view : View} {history : List ReconcilerEvent}

theorem passFinished_of_lastPass {success : Bool}
    (last : lastPass id history = some success) :
    .passFinished id success ∈ history := by
  induction history with
  | nil => cases last
  | cons event rest induction =>
      cases event with
      | passFinished other result =>
          simp only [lastPass] at last
          split at last
          · rename_i same
            cases last
            rw [same]
            exact List.mem_cons_self
          · exact List.mem_cons_of_mem _ (induction last)
      | _ => exact List.mem_cons_of_mem _ (induction last)

/-- A view which was read and is not current was published after the
read. -/
theorem publication_of_not_readSince
    (read : .read view id ∈ history)
    (stale : readSince view id history = false) :
    ∃ event publisher later earlier,
      history = later ++ event :: earlier ∧
      event.publication view id = some publisher ∧
      .read view id ∉ later := by
  induction history with
  | nil => cases read
  | cons event rest induction =>
      simp only [readSince] at stale
      split at stale
      · cases stale
      · rename_i notRead
        split at stale
        · rename_i publishes
          obtain ⟨publisher, published⟩ := Option.ne_none_iff_exists'.mp publishes
          exact ⟨event, publisher, [], rest, rfl, published, List.not_mem_nil⟩
        · have older : .read view id ∈ rest := by
            rcases List.mem_cons.mp read with first | later
            · exact (notRead first.symm).elim
            · exact later
          obtain ⟨found, publisher, later, earlier, split, published,
            unread⟩ := induction older stale
          refine ⟨found, publisher, event :: later, earlier, ?_, published, ?_⟩
          · rw [split]
            rfl
          · simp only [List.mem_cons, not_or]
            exact ⟨Ne.symm notRead, unread⟩

theorem readSince_of_cons {event : ReconcilerEvent}
    (notRead : event ≠ .read view id)
    (current : readSince view id (event :: history) = true) :
    event.publication view id = none ∧
      readSince view id history = true := by
  simp only [readSince, notRead, if_false] at current
  split at current
  · cases current
  · rename_i notPublished
    exact ⟨not_not.mp notPublished, current⟩

end History

/-- The slots which an attacher works on. -/
def OwnSlot (managed : Int32 → Prop) (spec : AttachSpec) (slot : Slot) :
    Prop :=
  managed slot.hook.ifindex ∧ slot.hook.isIngress = spec.isIngress ∧
    slot.opts = spec.opts

/-- Different specifications have no slot in common. -/
theorem ownSlot_disjoint {managed : Int32 → Prop} {left right : AttachSpec}
    {slot : Slot} (different : left ≠ right)
    (own : OwnSlot managed left slot) :
    ¬(slot.hook.isIngress = right.isIngress ∧ slot.opts = right.opts) := by
  intro other
  obtain ⟨_, leftIngress, leftOpts⟩ := own
  apply different
  have sameIngress := leftIngress.symm.trans other.1
  have sameOpts := leftOpts.symm.trans other.2
  have sameHandle :=
    congrArg (fun opts => opts.handle.toInt32) sameOpts
  have samePriority :=
    congrArg (fun opts => opts.priority.toInt32) sameOpts
  obtain ⟨leftPriority, leftHandle, leftIsIngress⟩ := left
  obtain ⟨rightPriority, rightHandle, rightIsIngress⟩ := right
  simp only [AttachSpec.opts] at sameHandle samePriority
  have handles : leftHandle = rightHandle := sameHandle
  have priorities : leftPriority = rightPriority := samePriority
  rw [handles, priorities, show leftIsIngress = rightIsIngress from
    sameIngress]

/-- An operation of a pass leaves descriptors and the slots of other
specifications as they are. -/
theorem bodyOp_kernel {spec : AttachSpec} {prog : BpfProgram} {id : Nat}
    {shared later : Shared} {operation : ManagerOp} {outcome : TcOutcome}
    {answer : operation.Answer} (addressable : spec.opts.addressable = true)
    (made : BodyOp spec prog id operation)
    (answered : managerHandler.answer shared operation outcome =
      some (later, answer)) :
    later.kernel.program = shared.kernel.program ∧
      ∀ slot : Slot,
        ¬(slot.hook.isIngress = spec.isIngress ∧ slot.opts = spec.opts) →
        later.kernel.filter slot = shared.kernel.filter slot := by
  cases operation with
  | getAttacher other => exact made.elim
  | snapshot => exact made.elim
  | getIfindexByIfname nicName =>
      simp only [managerHandler, Option.some.injEq, Prod.mk.injEq] at answered
      obtain ⟨rfl, _⟩ := answered
      exact ⟨rfl, fun _ _ => rfl⟩
  | appendApplyRequest request =>
      simp only [managerHandler, Option.some.injEq, Prod.mk.injEq] at answered
      obtain ⟨rfl, _⟩ := answered
      exact ⟨rfl, fun _ _ => rfl⟩
  | tcHookCreate hook =>
      simp only [managerHandler, Option.map_eq_some_iff] at answered
      obtain ⟨⟨kernel, rc⟩, created, packed⟩ := answered
      cases packed
      obtain ⟨sameFilter, samePrograms, _⟩ :=
        TcKernel.hookCreate_effect created
      exact ⟨samePrograms, fun slot _ => by rw [sameFilter]⟩
  | tcQuery hook opts =>
      simp only [managerHandler, Option.map_eq_some_iff] at answered
      obtain ⟨⟨kernel, result⟩, queried, packed⟩ := answered
      cases packed
      obtain ⟨unchanged, _⟩ := TcKernel.query_effect queried
      rw [unchanged]
      exact ⟨rfl, fun _ _ => rfl⟩
  | tcAttach hook opts progFd replace =>
      simp only [managerHandler, Option.map_eq_some_iff] at answered
      obtain ⟨⟨kernel, rc⟩, attached, packed⟩ := answered
      cases packed
      obtain ⟨sameIngress, rfl, _⟩ := made
      rcases TcKernel.attach_effect addressable attached with
        ⟨_, progId, secured, _, rfl⟩ | ⟨_, rfl⟩
      · refine ⟨rfl, ?_⟩
        intro slot other
        refine TcKernel.install_other _ _ secured ?_
        intro same
        rw [same] at other
        exact other ⟨sameIngress, rfl⟩
      · exact ⟨rfl, fun _ _ => rfl⟩
  | tcDetach hook opts =>
      simp only [managerHandler, Option.map_eq_some_iff] at answered
      obtain ⟨⟨kernel, rc⟩, detached, packed⟩ := answered
      cases packed
      obtain ⟨sameIngress, rfl⟩ := made
      rcases TcKernel.detach_effect detached with
        ⟨_, rfl⟩ | ⟨_, _, rfl⟩ | ⟨_, _, rfl⟩
      · refine ⟨rfl, ?_⟩
        intro slot other
        apply TcKernel.remove_other
        intro same
        rw [same] at other
        exact other ⟨sameIngress, rfl⟩
      · exact ⟨rfl, fun _ _ => rfl⟩
      · exact ⟨rfl, fun _ _ => rfl⟩

theorem Usable.selectsByIndex {managed : Int32 → Prop}
    {interfaces : InterfaceMap} (usable : Usable managed interfaces)
    (policy : PolicyType) : SelectsByIndex policy interfaces := by
  intro left leftInfo right rightInfo leftMember rightMember sameIndex
  have same := List.inj_on_of_nodup_map usable.distinct leftMember
    rightMember sameIndex
  rw [(Prod.mk.inj same).1]

theorem Usable.covers {managed : Int32 → Prop} {interfaces : InterfaceMap}
    (usable : Usable managed interfaces) (spec : AttachSpec) :
    Covers (OwnSlot managed spec) spec interfaces := by
  intro nicName info member
  exact ⟨usable.covered _ member, rfl, rfl⟩

/-- Snapshots, specifications and descriptors are as admissible runs have
them. -/
structure Reconciler.Sound (managed : Int32 → Prop) (state : Reconciler) :
    Prop where
  usable : Usable managed state.shared.interfaces
  accepted : ∀ (id : Nat) (attacher : Attacher),
    state.shared.attachers[id]? = some attacher →
    attacher.attachSpec.Accepted ∧
      state.shared.kernel.program attacher.prog.fd =
        some attacher.prog.progId
  distinct : ∀ (left right : Nat) (leftAttacher rightAttacher : Attacher),
    state.shared.attachers[left]? = some leftAttacher →
    state.shared.attachers[right]? = some rightAttacher → left ≠ right →
    leftAttacher.attachSpec ≠ rightAttacher.attachSpec

/-- The kernel is as the published policy of an attacher wants it on the
published snapshot. -/
def Reconciler.AsWanted (state : Reconciler) (attacher : Attacher) : Prop :=
  Reconciled attacher.policySnapshot attacher.attachSpec attacher.prog
    state.shared.interfaces.items state.shared.kernel

/-- Both views of an attacher are current. -/
def Reconciler.UpToDate (state : Reconciler) (id : Nat) : Prop :=
  ∀ view, readSince view id state.history = true

/-- How far a pass has come.  After its reads it works on the slots of its
attacher only, and as long as what it has read is current it will leave them
as they are wanted. -/
inductive PassStage (managed : Int32 → Prop) (state : Reconciler)
    (request : ApplyRequest) : ManagerProgram Bool → Prop where
  | start :
      PassStage managed state request
        (applyTargetsPolicyPerAttacher request)
  | policyRead {attacher : Attacher} {policy : PolicyType} :
      state.shared.attachers[request.id]? = some attacher →
      .read .policy request.id ∈ state.history →
      (readSince .policy request.id state.history = true →
        policy = attacher.policySnapshot) →
      PassStage managed state request
        (.call .snapshot
          (passBody request (policy, attacher.attachSpec, attacher.prog)))
  | body {attacher : Attacher} {program : ManagerProgram Bool} :
      state.shared.attachers[request.id]? = some attacher →
      (∀ view, .read view request.id ∈ state.history) →
      program.Uses (BodyOp attacher.attachSpec attacher.prog request.id) →
      (state.UpToDate request.id →
        program.Meets managerHandler
          (SameView (OwnSlot managed attacher.attachSpec) attacher.prog.fd)
          (fun _ _ => True)
          (fun success final => success = true →
            Reconciled attacher.policySnapshot attacher.attachSpec
              attacher.prog state.shared.interfaces.items final.kernel)
          state.shared) →
      PassStage managed state request program

/-- No pass of the attacher is running. -/
def WorkerState.Rests (worker : WorkerState) (id : Nat) : Prop :=
  ∀ request program ready, worker = .running request program ready →
    request.id ≠ id

structure Reconciler.Consistent (managed : Int32 → Prop)
    (state : Reconciler) : Prop where
  sound : state.Sound managed
  finished : ∀ id success, .passFinished id success ∈ state.history →
    id < state.shared.attachers.length ∧
      ∀ view, .read view id ∈ state.history
  stage : ∀ request program ready,
    state.worker = .running request program ready →
    PassStage managed state request program
  reconciled : ∀ (id : Nat) (attacher : Attacher),
    state.shared.attachers[id]? = some attacher →
    lastPass id state.history = some true → state.UpToDate id →
    state.worker.Rests id → state.AsWanted attacher

/-- What a step of other threads keeps for one attacher. -/
structure Reconciler.Keeps (managed : Int32 → Prop) (id : Nat)
    (attacher : Attacher) (state target : Reconciler) : Prop where
  existing : ∃ after, target.shared.attachers[id]? = some after ∧
    after.attachSpec = attacher.attachSpec ∧ after.prog = attacher.prog ∧
    (readSince .policy id target.history = true →
      after.policySnapshot = attacher.policySnapshot)
  since : ∀ view, readSince view id target.history = true →
    readSince view id state.history = true
  recorded : ∀ event ∈ state.history, event ∈ target.history
  interfaces : readSince .interfaces id target.history = true →
    target.shared.interfaces = state.shared.interfaces
  kernel : state.shared.kernel.AgreeOn (OwnSlot managed attacher.attachSpec)
    attacher.prog.fd target.shared.kernel

section Keeps

variable {managed : Int32 → Prop} {id : Nat} {attacher after : Attacher}
  {state target : Reconciler}

/-- A kept attacher stays as it is wanted. -/
theorem Reconciler.Keeps.asWanted
    (keeps : state.Keeps managed id attacher target)
    (usable : Usable managed state.shared.interfaces)
    (found : target.shared.attachers[id]? = some after)
    (upToDate : target.UpToDate id)
    (asWanted : state.AsWanted attacher) : target.AsWanted after := by
  obtain ⟨kept, keptFound, sameSpec, sameProg, samePolicy⟩ := keeps.existing
  cases keptFound.symm.trans found
  rw [Reconciler.AsWanted, samePolicy (upToDate .policy), sameSpec, sameProg,
    keeps.interfaces (upToDate .interfaces)]
  apply asWanted.congr
  intro nicName info member
  exact keeps.kernel.2 _ (usable.covers _ nicName info member)

/-- A kept attacher whose pass is running keeps its stage. -/
theorem Reconciler.Keeps.stage {request : ApplyRequest}
    {program : ManagerProgram Bool}
    (keeps : ∀ attacher,
      state.shared.attachers[request.id]? = some attacher →
      state.Keeps managed request.id attacher target)
    (stage : PassStage managed state request program) :
    PassStage managed target request program := by
  cases stage with
  | start => exact .start
  | policyRead found read current =>
      have kept := keeps _ found
      obtain ⟨after, afterFound, sameSpec, sameProg, samePolicy⟩ :=
        kept.existing
      rw [← sameSpec, ← sameProg]
      apply PassStage.policyRead afterFound (kept.recorded _ read)
      intro upToDate
      rw [samePolicy upToDate]
      exact current (kept.since _ upToDate)
  | body found reads uses meets =>
      have kept := keeps _ found
      obtain ⟨after, afterFound, sameSpec, sameProg, samePolicy⟩ :=
        kept.existing
      apply PassStage.body afterFound
      · intro view
        exact kept.recorded _ (reads view)
      · rw [sameSpec, sameProg]
        exact uses
      · intro upToDate
        have sameInterfaces := kept.interfaces (upToDate .interfaces)
        rw [sameSpec, sameProg, samePolicy (upToDate .policy),
          sameInterfaces]
        exact (meets fun view => kept.since view (upToDate view)).interfere
          SameView.trans ⟨sameInterfaces, kept.kernel⟩

/-- A history which grew by at most one event, not a read of the
attacher. -/
def GrewWithoutRead (id : Nat) (before after : List ReconcilerEvent) : Prop :=
  after = before ∨
    ∃ event, after = event :: before ∧ ∀ view, event ≠ .read view id

theorem GrewWithoutRead.since {before after : List ReconcilerEvent}
    (grew : GrewWithoutRead id before after) (view : View)
    (current : readSince view id after = true) :
    readSince view id before = true := by
  rcases grew with rfl | ⟨event, rfl, notRead⟩
  · exact current
  · exact (readSince_of_cons (notRead view) current).2

theorem GrewWithoutRead.recorded {before after : List ReconcilerEvent}
    (grew : GrewWithoutRead id before after) :
    ∀ event ∈ before, event ∈ after := by
  intro event member
  rcases grew with rfl | ⟨newest, rfl, _⟩
  · exact member
  · exact List.mem_cons_of_mem _ member

/-- Steps which touch neither attachers nor the snapshot nor the kernel. -/
theorem keeps_of_same_shared
    (found : state.shared.attachers[id]? = some attacher)
    (grew : GrewWithoutRead id state.history target.history)
    (attachers : target.shared.attachers = state.shared.attachers)
    (interfaces : target.shared.interfaces = state.shared.interfaces)
    (kernel : target.shared.kernel = state.shared.kernel) :
    state.Keeps managed id attacher target where
  existing := by
    refine ⟨attacher, ?_, rfl, rfl, fun _ => rfl⟩
    rw [attachers]
    exact found
  since := grew.since
  recorded := grew.recorded
  interfaces _ := interfaces
  kernel := by
    rw [kernel]
    exact .refl _

/-- A changed attacher keeps its specification and its program, and its
policy unless the policy is published. -/
theorem keeps_of_set {other : Nat} {old changed : Attacher}
    (found : state.shared.attachers[id]? = some attacher)
    (foundOther : state.shared.attachers[other]? = some old)
    (grew : GrewWithoutRead id state.history target.history)
    (attachers : target.shared.attachers =
      state.shared.attachers.set other changed)
    (sameSpec : changed.attachSpec = old.attachSpec)
    (sameProg : changed.prog = old.prog)
    (samePolicy : other = id →
      readSince .policy id target.history = true →
      changed.policySnapshot = old.policySnapshot)
    (interfaces : target.shared.interfaces = state.shared.interfaces)
    (kernel : target.shared.kernel = state.shared.kernel) :
    state.Keeps managed id attacher target where
  existing := by
    rw [attachers, List.getElem?_set]
    by_cases same : other = id
    · subst other
      cases found.symm.trans foundOther
      have bounded : id < state.shared.attachers.length :=
        (List.getElem?_eq_some_iff.mp found).1
      refine ⟨changed, ?_, sameSpec, sameProg, samePolicy rfl⟩
      simp [bounded]
    · refine ⟨attacher, ?_, rfl, rfl, fun _ => rfl⟩
      simp [same, found]
  since := grew.since
  recorded := grew.recorded
  interfaces _ := interfaces
  kernel := by
    rw [kernel]
    exact .refl _

/-- The reads of a pass change nothing. -/
theorem answer_getAttacher {shared later : Shared} {reader : Nat}
    {outcome : TcOutcome} {answer : PolicyType × AttachSpec × BpfProgram}
    (answered : managerHandler.answer shared (.getAttacher reader) outcome =
      some (later, answer)) :
    later = shared ∧ ∃ found, shared.attachers[reader]? = some found ∧
      answer = (found.policySnapshot, found.attachSpec, found.prog) := by
  simp only [managerHandler, Option.map_eq_some_iff, Prod.mk.injEq]
    at answered
  obtain ⟨found, there, rfl, rfl⟩ := answered
  exact ⟨rfl, found, there, rfl⟩

theorem answer_snapshot {shared later : Shared} {outcome : TcOutcome}
    {answer : InterfaceMap}
    (answered : managerHandler.answer shared .snapshot outcome =
      some (later, answer)) :
    later = shared ∧ answer = shared.interfaces := by
  simp only [managerHandler, Option.some.injEq, Prod.mk.injEq] at answered
  exact ⟨answered.1.symm, answered.2.symm⟩

/-- A pass leaves the slots of other attachers as they are. -/
theorem stage_advance_kernel {request : ApplyRequest}
    {program rest : ManagerProgram Bool} {outcome : TcOutcome}
    {later : Shared} {event : Program.Event ManagerOp ManagerOp.Answer}
    (sound : state.Sound managed)
    (stage : PassStage managed state request program)
    (advanced : program.advance managerHandler state.shared outcome =
      some (rest, later, event))
    (found : state.shared.attachers[id]? = some attacher)
    (different : request.id ≠ id) :
    state.shared.kernel.AgreeOn (OwnSlot managed attacher.attachSpec)
      attacher.prog.fd later.kernel := by
  cases stage with
  | start =>
      obtain ⟨next, answered, pending, _⟩ := Program.advance_eq_some advanced
      obtain ⟨operation, answer⟩ := event
      cases pending
      rw [(answer_getAttacher answered).1]
      exact .refl _
  | policyRead _ _ _ =>
      obtain ⟨next, answered, pending, _⟩ := Program.advance_eq_some advanced
      obtain ⟨operation, answer⟩ := event
      cases pending
      rw [(answer_snapshot answered).1]
      exact .refl _
  | body running _ uses _ =>
      obtain ⟨_, answered, _, _⟩ := Program.advance_eq_some advanced
      obtain ⟨accepted, _⟩ := sound.accepted _ _ running
      obtain ⟨samePrograms, sameFilter⟩ := bodyOp_kernel
        accepted.addressable (uses.advance advanced).1 answered
      refine ⟨by rw [samePrograms], ?_⟩
      intro slot own
      apply sameFilter
      exact ownSlot_disjoint
        (sound.distinct _ _ _ _ found running (Ne.symm different)) own

theorem readEvents_grew {reader : Nat} (different : reader ≠ id)
    (operation : ManagerOp) (history : List ReconcilerEvent) :
    GrewWithoutRead id history
      (Reconciler.readEvents reader operation ++ history) := by
  cases operation with
  | getAttacher other => exact Or.inr ⟨_, rfl, by simp [different]⟩
  | snapshot => exact Or.inr ⟨_, rfl, by simp [different]⟩
  | _ => exact Or.inl rfl

/-- Every step of other threads, and of passes of other attachers, keeps an
attacher. -/
theorem keeps_step {label : ReconcilerStep}
    (consistent : state.Consistent managed)
    (admissible : Admissible managed state label)
    (moves : state.Moves label target)
    (rests : (∃ outcome, label = .passOperation outcome) →
      state.worker.Rests id)
    (found : state.shared.attachers[id]? = some attacher) :
    state.Keeps managed id attacher target := by
  have bounded : id < state.shared.attachers.length :=
    (List.getElem?_eq_some_iff.mp found).1
  have sameHistory : GrewWithoutRead id state.history state.history :=
    Or.inl rfl
  cases moves with
  | createAttacher _ _ =>
      refine ⟨⟨attacher, ?_, rfl, rfl, fun _ => rfl⟩, sameHistory.since,
        sameHistory.recorded, fun _ => rfl, .refl _⟩
      dsimp only
      rw [List.getElem?_append_left bounded]
      exact found
  | mutate idle foundOther =>
      obtain ⟨sameProg, sameSpec, samePolicy⟩ := Attacher.mutate_frame _ _
      exact keeps_of_set found foundOther sameHistory rfl sameSpec sameProg
        (fun _ _ => samePolicy) rfl rfl
  | @publishPolicy thread other old mutated foundOther =>
      refine keeps_of_set found foundOther (Or.inr ⟨_, rfl, by simp⟩) rfl rfl
        rfl ?_ rfl rfl
      intro same current
      have fresh := (readSince_of_cons (by simp) current).1
      simp [ReconcilerEvent.publication, same] at fresh
  | publishInterfaces _ =>
      have grew : GrewWithoutRead id state.history
          (.interfacesPublished state.shared.attachers.length ::
            state.history) := Or.inr ⟨_, rfl, by simp⟩
      refine ⟨⟨attacher, found, rfl, rfl, fun _ => rfl⟩, grew.since,
        grew.recorded, ?_, .refl _⟩
      intro current
      have fresh := (readSince_of_cons (by simp) current).1
      simp [ReconcilerEvent.publication, bounded] at fresh
  | appendPolicy _ =>
      exact keeps_of_same_shared found (Or.inr ⟨_, rfl, by simp⟩) rfl rfl rfl
  | appendInterfaces _ =>
      exact keeps_of_same_shared found (Or.inr ⟨_, rfl, by simp⟩) rfl rfl rfl
  | finishPass _ =>
      exact keeps_of_same_shared found (Or.inr ⟨_, rfl, by simp⟩) rfl rfl rfl
  | schedule _ collected =>
      obtain ⟨_, _, _, rfl, _⟩ := Reconciler.collect_frame collected
      exact keeps_of_same_shared found sameHistory rfl rfl rfl
  | changeKernel =>
      refine ⟨⟨attacher, found, rfl, rfl, fun _ => rfl⟩, sameHistory.since,
        sameHistory.recorded, fun _ => rfl, ?_, ?_⟩
      · exact admissible.2 attacher (List.mem_of_getElem? found)
      · intro slot own
        exact admissible.1 slot own.1
  | @passOperation outcome request program rest ready later event running
      advanced =>
      have different := rests ⟨outcome, rfl⟩ request program ready running
      have grew := readEvents_grew different event.1 state.history
      have stage := consistent.stage request program ready running
      obtain ⟨_, answered, _, _⟩ := Program.advance_eq_some advanced
      obtain ⟨sameAttachers, sameInterfaces, _⟩ := answer_frame answered
      refine ⟨⟨attacher, ?_, rfl, rfl, fun _ => rfl⟩, grew.since,
        grew.recorded, fun _ => sameInterfaces, ?_⟩
      · dsimp only
        rw [sameAttachers]
        exact found
      · exact stage_advance_kernel consistent.sound stage advanced found
          different
  | _ => exact keeps_of_same_shared found sameHistory rfl rfl rfl

end Keeps

section Step

variable {managed : Int32 → Prop} {state target : Reconciler}
  {label : ReconcilerStep}

/-- Every attacher of the target comes from one with the same specification
and program. -/
theorem Reconciler.Sound.transfer (sound : state.Sound managed)
    (usable : Usable managed target.shared.interfaces)
    (origin : ∀ (id : Nat) (after : Attacher),
      target.shared.attachers[id]? = some after →
      ∃ attacher, state.shared.attachers[id]? = some attacher ∧
        after.attachSpec = attacher.attachSpec ∧ after.prog = attacher.prog)
    (programs : ∀ attacher ∈ state.shared.attachers,
      target.shared.kernel.program attacher.prog.fd =
        state.shared.kernel.program attacher.prog.fd) :
    target.Sound managed where
  usable := usable
  accepted id after found := by
    obtain ⟨attacher, there, sameSpec, sameProg⟩ := origin id after found
    obtain ⟨accepted, loaded⟩ := sound.accepted id attacher there
    rw [sameSpec, sameProg, programs attacher (List.mem_of_getElem? there)]
    exact ⟨accepted, loaded⟩
  distinct left right leftAfter rightAfter leftFound rightFound different := by
    obtain ⟨leftAttacher, leftThere, leftSpec, _⟩ :=
      origin left leftAfter leftFound
    obtain ⟨rightAttacher, rightThere, rightSpec, _⟩ :=
      origin right rightAfter rightFound
    rw [leftSpec, rightSpec]
    exact sound.distinct left right _ _ leftThere rightThere different

theorem origin_of_set {other : Nat} {old changed : Attacher}
    {attachers : List Attacher}
    (foundOther : attachers[other]? = some old)
    (sameSpec : changed.attachSpec = old.attachSpec)
    (sameProg : changed.prog = old.prog) (id : Nat) (after : Attacher)
    (found : (attachers.set other changed)[id]? = some after) :
    ∃ attacher, attachers[id]? = some attacher ∧
      after.attachSpec = attacher.attachSpec ∧
      after.prog = attacher.prog := by
  rw [List.getElem?_set] at found
  split at found
  · rename_i same
    subst id
    split at found
    · cases found
      exact ⟨old, foundOther, sameSpec, sameProg⟩
    · cases found
  · exact ⟨after, found, rfl, rfl⟩

/-- A new attacher is accepted, and different from those before it. -/
theorem sound_createAttacher {prog : BpfProgram} {spec : AttachSpec}
    (sound : state.Sound managed)
    (admissible : Admissible managed state (.createAttacher prog spec))
    {attachers : List Attacher}
    (extended : attachers = state.shared.attachers ++
      [{ id := state.shared.attachers.length
         prog := prog
         attachSpec := spec }]) :
    Reconciler.Sound managed
      { state with shared := { state.shared with attachers := attachers } } := by
  obtain ⟨accepted, loaded, different⟩ := admissible
  have origin : ∀ (id : Nat) (after : Attacher),
      attachers[id]? = some after →
      state.shared.attachers[id]? = some after ∨
        (id = state.shared.attachers.length ∧ after.attachSpec = spec ∧
          after.prog = prog) := by
    intro id after found
    rw [extended, List.getElem?_append] at found
    split at found
    · exact Or.inl found
    · right
      have bound := (List.getElem?_eq_some_iff.mp found).1
      simp only [List.length_singleton] at bound
      have index : id - state.shared.attachers.length = 0 := by omega
      rw [index] at found
      cases found
      exact ⟨by omega, rfl, rfl⟩
  refine ⟨sound.usable, ?_, ?_⟩
  · intro id after found
    rcases origin id after found with old | ⟨_, sameSpec, sameProg⟩
    · exact sound.accepted id after old
    · rw [sameSpec, sameProg]
      exact ⟨accepted, loaded⟩
  · intro left right leftAfter rightAfter leftFound rightFound apart
    rcases origin left leftAfter leftFound with
      leftOld | ⟨leftNew, leftSpec, _⟩
    · rcases origin right rightAfter rightFound with
        rightOld | ⟨_, rightSpec, _⟩
      · exact sound.distinct left right _ _ leftOld rightOld apart
      · rw [rightSpec]
        exact different leftAfter (List.mem_of_getElem? leftOld)
    · rcases origin right rightAfter rightFound with
        rightOld | ⟨rightNew, _, _⟩
      · rw [leftSpec]
        exact Ne.symm (different rightAfter (List.mem_of_getElem? rightOld))
      · exact (apart (leftNew.trans rightNew.symm)).elim

theorem sound_step (sound : state.Sound managed)
    (admissible : Admissible managed state label)
    (moves : state.Moves label target) : target.Sound managed := by
  have same : ∀ (id : Nat) (after : Attacher),
      state.shared.attachers[id]? = some after →
      ∃ attacher, state.shared.attachers[id]? = some attacher ∧
        after.attachSpec = attacher.attachSpec ∧ after.prog = attacher.prog :=
    fun id after found => ⟨after, found, rfl, rfl⟩
  cases moves with
  | createAttacher _ _ => exact sound_createAttacher sound admissible rfl
  | mutate _ found =>
      obtain ⟨sameProg, sameSpec, _⟩ := Attacher.mutate_frame _ _
      exact sound.transfer sound.usable
        (origin_of_set found sameSpec sameProg) (fun _ _ => rfl)
  | publishPolicy _ found =>
      exact sound.transfer sound.usable (origin_of_set found rfl rfl)
        (fun _ _ => rfl)
  | publishInterfaces _ =>
      exact sound.transfer admissible same (fun _ _ => rfl)
  | changeKernel => exact sound.transfer sound.usable same admissible.2
  | schedule _ collected =>
      obtain ⟨_, _, _, rfl, _⟩ := Reconciler.collect_frame collected
      exact sound.transfer sound.usable same (fun _ _ => rfl)
  | passOperation _ advanced =>
      obtain ⟨_, answered, _, _⟩ := Program.advance_eq_some advanced
      obtain ⟨sameAttachers, sameInterfaces, samePrograms⟩ :=
        answer_frame answered
      apply sound.transfer
      · dsimp only
        rw [sameInterfaces]
        exact sound.usable
      · dsimp only
        rw [sameAttachers]
        exact same
      · intro attacher _
        dsimp only
        rw [samePrograms]
  | _ => exact sound.transfer sound.usable same (fun _ _ => rfl)

/-- A pass ends only by finishing. -/
theorem rests_origin {id : Nat} (moves : state.Moves label target)
    (rests : target.worker.Rests id) :
    state.worker.Rests id ∨
      ∃ request success ready, request.id = id ∧
        state.worker = .running request (.done success) ready ∧
        target = { state with
          worker := .applying ready
          history := .passFinished request.id success :: state.history } := by
  cases moves with
  | schedule idle _ =>
      left
      intro request program ready running
      rcases idle with waiting | ⟨wakeAt, sleeping⟩
      · cases waiting.symm.trans running
      · cases sleeping.symm.trans running
  | restartMonitor there =>
      exact Or.inl fun _ _ _ running => by cases there.symm.trans running
  | rerequestMonitor there =>
      exact Or.inl fun _ _ _ running => by cases there.symm.trans running
  | startPass there =>
      exact Or.inl fun _ _ _ running => by cases there.symm.trans running
  | waitAgain there =>
      exact Or.inl fun _ _ _ running => by cases there.symm.trans running
  | passOperation there _ =>
      left
      intro request program ready running
      cases there.symm.trans running
      exact rests _ _ _ rfl
  | @finishPass request success ready there =>
      by_cases same : request.id = id
      · exact Or.inr ⟨request, success, ready, same, there, rfl⟩
      · left
        intro other program ready running
        cases there.symm.trans running
        exact same
  | _ => exact Or.inl rests

/-- The stages of a pass follow each other. -/
theorem stage_advance {request : ApplyRequest}
    {program rest : ManagerProgram Bool} {ready : List ApplyRequest}
    {outcome : TcOutcome} {later : Shared}
    {event : Program.Event ManagerOp ManagerOp.Answer}
    (sound : state.Sound managed)
    (stage : PassStage managed state request program)
    (advanced : program.advance managerHandler state.shared outcome =
      some (rest, later, event)) :
    PassStage managed
      { state with
        shared := later
        worker := .running request rest ready
        history := Reconciler.readEvents request.id event.1 ++ state.history }
      request rest := by
  obtain ⟨next, answered, pending, nextRest⟩ :=
    Program.advance_eq_some advanced
  cases stage with
  | start =>
      obtain ⟨operation, answer⟩ := event
      cases pending
      obtain ⟨rfl, attacher, found, rfl⟩ := answer_getAttacher answered
      subst nextRest
      exact .policyRead found List.mem_cons_self (fun _ => rfl)
  | @policyRead attacher policy found read current =>
      obtain ⟨operation, answer⟩ := event
      cases pending
      obtain ⟨rfl, rfl⟩ := answer_snapshot answered
      subst nextRest
      obtain ⟨accepted, loaded⟩ := sound.accepted _ _ found
      refine .body found ?_ ?_ ?_
      · intro view
        cases view with
        | policy => exact List.mem_cons_of_mem _ read
        | interfaces => exact List.mem_cons_self
      · exact passBody_uses request policy _
      · intro upToDate
        have policyCurrent :=
          (readSince_of_cons (by simp) (upToDate .policy)).2
        rw [current policyCurrent]
        refine (passBody_meets _ request state.shared
          accepted.addressable
          (sound.usable.selectsByIndex _) (sound.usable.covers _)
          loaded).mono (fun _ _ _ => trivial) ?_
        intro success final reached succeeded
        exact (reached succeeded).2
  | @body attacher _ found reads uses meets =>
      obtain ⟨made, restUses⟩ := uses.advance advanced
      obtain ⟨sameAttachers, sameInterfaces, _⟩ := answer_frame answered
      have noRead : Reconciler.readEvents request.id event.1 = [] := by
        obtain ⟨operation, answer⟩ := event
        cases operation with
        | getAttacher other => exact made.elim
        | snapshot => exact made.elim
        | _ => rfl
      rw [noRead, List.nil_append]
      have stillFound : later.attachers[request.id]? = some attacher := by
        rw [sameAttachers]
        exact found
      refine .body stillFound reads restUses ?_
      intro upToDate
      dsimp only
      rw [sameInterfaces]
      exact ((meets upToDate).advance SameView.refl advanced).2

theorem stage_step (consistent : state.Consistent managed)
    (admissible : Admissible managed state label)
    (moves : state.Moves label target) {request : ApplyRequest}
    {program : ManagerProgram Bool} {ready : List ApplyRequest}
    (running : target.worker = .running request program ready) :
    PassStage managed target request program := by
  cases Reconciler.running_origin moves running with
  | kept before other =>
      have stage := consistent.stage request program ready before
      refine Reconciler.Keeps.stage ?_ stage
      intro attacher found
      exact keeps_step consistent admissible moves
        (fun operation => (other operation).elim) found
  | started => exact .start
  | advanced there advanced reached =>
      rw [reached]
      have stage := consistent.stage request _ ready there
      exact stage_advance consistent.sound stage advanced

/-- A finished pass has read both views, and will have left its attacher as
it is wanted if both are current. -/
theorem stage_done {request : ApplyRequest} {success : Bool}
    (stage : PassStage managed state request (.done success)) :
    ∃ attacher, state.shared.attachers[request.id]? = some attacher ∧
      (∀ view, .read view request.id ∈ state.history) ∧
      (state.UpToDate request.id → success = true →
        state.AsWanted attacher) := by
  cases stage with
  | @body attacher _ found reads _ meets =>
      refine ⟨attacher, found, reads, ?_⟩
      intro upToDate succeeded
      exact (meets upToDate).finish SameView.refl succeeded

theorem recorded_step (moves : state.Moves label target) :
    ∀ event ∈ state.history, event ∈ target.history := by
  intro event member
  rcases history_step moves with same | ⟨newest, recorded, _⟩
  · rw [same]
    exact member
  · rw [recorded]
    exact List.mem_cons_of_mem _ member

theorem passFinished_origin {id : Nat} {success : Bool}
    (moves : state.Moves label target)
    (member : .passFinished id success ∈ target.history) :
    .passFinished id success ∈ state.history ∨
      ∃ request ready, request.id = id ∧
        state.worker = .running request (.done success) ready := by
  cases moves with
  | publishPolicy _ _ => exact Or.inl (by simpa using member)
  | appendPolicy _ => exact Or.inl (by simpa using member)
  | publishInterfaces _ => exact Or.inl (by simpa using member)
  | appendInterfaces _ => exact Or.inl (by simpa using member)
  | schedule _ collected =>
      obtain ⟨_, _, _, rfl, _⟩ := Reconciler.collect_frame collected
      exact Or.inl member
  | @passOperation _ _ _ _ _ _ event _ _ =>
      left
      obtain ⟨operation, answer⟩ := event
      cases operation <;> simpa [Reconciler.readEvents] using member
  | @finishPass request result ready running =>
      rcases List.mem_cons.mp member with newest | older
      · cases newest
        exact Or.inr ⟨request, ready, rfl, running⟩
      · exact Or.inl older
  | _ => exact Or.inl member

theorem finished_step (consistent : state.Consistent managed)
    (moves : state.Moves label target) {id : Nat} {success : Bool}
    (member : .passFinished id success ∈ target.history) :
    id < target.shared.attachers.length ∧
      ∀ view, .read view id ∈ target.history := by
  have grows := Reconciler.attachers_grow moves
  rcases passFinished_origin moves member with older | ⟨request, ready, rfl,
    running⟩
  · obtain ⟨bounded, reads⟩ := consistent.finished id success older
    exact ⟨Nat.lt_of_lt_of_le bounded grows,
      fun view => recorded_step moves _ (reads view)⟩
  · obtain ⟨attacher, found, reads, _⟩ :=
      stage_done (consistent.stage _ _ _ running)
    have bounded := (List.getElem?_eq_some_iff.mp found).1
    exact ⟨Nat.lt_of_lt_of_le bounded grows,
      fun view => recorded_step moves _ (reads view)⟩

theorem lastPass_step {id : Nat} (moves : state.Moves label target)
    (rests : state.worker.Rests id) :
    lastPass id target.history = lastPass id state.history := by
  cases moves with
  | schedule _ collected =>
      obtain ⟨_, _, _, rfl, _⟩ := Reconciler.collect_frame collected
      rfl
  | @passOperation _ _ _ _ _ _ event _ _ =>
      obtain ⟨operation, answer⟩ := event
      cases operation <;> rfl
  | finishPass running =>
      have different := rests _ _ _ running
      simp [lastPass, different]
  | _ => rfl

theorem reconciled_step (consistent : state.Consistent managed)
    (admissible : Admissible managed state label)
    (moves : state.Moves label target) {id : Nat} {after : Attacher}
    (found : target.shared.attachers[id]? = some after)
    (last : lastPass id target.history = some true)
    (upToDate : target.UpToDate id) (rests : target.worker.Rests id) :
    target.AsWanted after := by
  rcases rests_origin moves rests with
    restedBefore | ⟨request, success, ready, rfl, running, rfl⟩
  · rw [lastPass_step moves restedBefore] at last
    obtain ⟨bounded, _⟩ :=
      consistent.finished id true (passFinished_of_lastPass last)
    have foundBefore := List.getElem?_eq_getElem bounded
    have keeps := keeps_step consistent admissible moves
      (fun _ => restedBefore) foundBefore
    apply keeps.asWanted consistent.sound.usable found upToDate
    exact consistent.reconciled id _ foundBefore last
      (fun view => keeps.since view (upToDate view)) restedBefore
  · -- the pass of this attacher has just finished
    obtain ⟨attacher, foundBefore, _, asWanted⟩ :=
      stage_done (consistent.stage _ _ _ running)
    cases foundBefore.symm.trans found
    have succeeded : success = true := by simpa [lastPass] using last
    apply asWanted ?_ succeeded
    intro view
    exact (readSince_of_cons (by simp) (upToDate view)).2

end Step

theorem consistent_reachable {managed : Int32 → Prop} {state : Reconciler}
    (reached : (managedReconciler managed).ReachableWhere
      (Admissible managed) state) :
    state.Consistent managed := by
  apply reached.invariant
  · intro start begins
    obtain ⟨initial, usable⟩ := begins
    refine ⟨⟨usable, ?_, ?_⟩, ?_, ?_, ?_⟩
    · intro id attacher found
      simp [initial.attachers] at found
    · intro left right leftAttacher rightAttacher found
      simp [initial.attachers] at found
    · intro id success member
      simp [initial.history] at member
    · intro request program ready running
      cases initial.worker.symm.trans running
    · intro id attacher found
      simp [initial.attachers] at found
  · intro state label target consistent admissible stepped
    have moves := Reconciler.moves_of_step stepped
    exact ⟨sound_step consistent.sound admissible moves,
      fun _ _ => finished_step consistent moves,
      fun _ _ _ => stage_step consistent admissible moves,
      fun _ _ => reconciled_step consistent admissible moves⟩

theorem reachable_of_managed {managed : Int32 → Prop} {state : Reconciler}
    {guard : Reconciler → ReconcilerStep → Prop}
    (reached : (managedReconciler managed).ReachableWhere guard state) :
    reconciler.Reachable state := by
  induction reached with
  | initial begins => exact .initial begins.1
  | next _ _ stepped induction => exact .next induction trivial stepped

/-- In a quiescent state every view which was ever read is current. -/
theorem upToDate_of_quiescent {state : Reconciler} {id : Nat}
    (reached : reconciler.Reachable state) (quiescent : state.Quiescent)
    (reads : ∀ view, .read view id ∈ state.history) :
    state.UpToDate id := by
  intro view
  by_contra notCurrent
  rw [Bool.not_eq_true] at notCurrent
  obtain ⟨event, publisher, later, earlier, split, published, unread⟩ :=
    publication_of_not_readSince (reads view) notCurrent
  have owed := nothingLost_reachable reached view id publisher event later
    earlier published split unread
  rcases owed with ⟨request, member, _⟩ | held | ⟨publishing, _⟩
  · rw [Keyed.mem_def, quiescent.applyRequests] at member
    cases member
  · rcases held with ⟨request, member, _⟩ | ⟨_, _, _, running, _⟩
    · rw [quiescent.ready] at member
      cases member
    · exact quiescent.notRunning _ _ _ running
  · exact quiescent.publishing publisher id publishing

/-- Quiescent consistency: in a quiescent state, an attacher whose most
recent pass succeeded has its program on exactly those interfaces of the
current snapshot which its policy selects. -/
theorem quiescent_consistency {managed : Int32 → Prop} {state : Reconciler}
    (reached : (managedReconciler managed).ReachableWhere
      (Admissible managed) state)
    (quiescent : state.Quiescent) {id : Nat} {attacher : Attacher}
    (found : state.shared.attachers[id]? = some attacher)
    (last : lastPass id state.history = some true)
    {nicName : String} {info : InterfaceInfo}
    (member : (nicName, info) ∈ state.shared.interfaces) :
    state.shared.kernel.filter
        (attacher.attachSpec.slot info.ifindex.toInt32) =
          some attacher.prog.progId ↔
      attacher.policySnapshot.isAll = true ∨
        nicName ∈ attacher.policySnapshot.policy := by
  have consistent := consistent_reachable reached
  obtain ⟨_, reads⟩ :=
    consistent.finished id true (passFinished_of_lastPass last)
  have upToDate := upToDate_of_quiescent (reachable_of_managed reached)
    quiescent reads
  have asWanted := consistent.reconciled id attacher found last upToDate
    (fun _ _ _ running => (quiescent.notRunning _ _ _ running).elim)
  have slot := asWanted nicName info member
  rw [SlotAsWanted] at slot
  rw [slot, PolicyType.selects_iff]

/-- The steps which every admissible run may take. -/
def ReconcilerStep.plain : ReconcilerStep → Bool
  | .createAttacher _ _ => false
  | .publishInterfaces _ => false
  | .changeKernel _ => false
  | _ => true

theorem admissible_of_plain {managed : Int32 → Prop} (state : Reconciler)
    (label : ReconcilerStep) (plain : label.plain = true) :
    Admissible managed state label := by
  cases label with
  | createAttacher prog spec => cases plain
  | publishInterfaces next => cases plain
  | changeKernel kernel => cases plain
  | _ => trivial

def sampleAttacher : Attacher where
  id := 0
  prog := sampleProgram
  attachSpec := {}

/-- The sample manager after `create_attacher`. -/
def sampleWithAttacher : Reconciler :=
  { sampleReconciler with
    shared := { sampleReconciler.shared with attachers := [sampleAttacher] } }

theorem sampleWithAttacher_reachable :
    (managedReconciler fun _ => True).ReachableWhere
      (Admissible fun _ => True) sampleWithAttacher := by
  have begins : (managedReconciler fun _ => True).initial
      sampleReconciler := by
    refine ⟨sampleReconciler_initial, ?_, ?_, fun _ _ => trivial⟩
    · decide
    · intro entry member
      rcases List.mem_singleton.mp member with rfl
      decide
  have created : (managedReconciler fun _ => True).step sampleReconciler
      (.createAttacher sampleProgram {}) = some sampleWithAttacher := rfl
  refine .next (.initial begins) ?_ created
  exact ⟨by decide, rfl, fun _ member => by cases member⟩

/-- A target is added, and the worker applies the policy. -/
def applyTargetRun : List ReconcilerStep :=
  ([.mutate 7 0 (.addTarget "eth0"), .publishPolicy 7, .stampPolicy 7 10,
    .appendPolicy 7, .schedule 20 [.fresh 0 10],
    .startPass] : List ReconcilerStep) ++
  List.replicate 7 (.passOperation (.faithful ⟨1, 1⟩)) ++
  [.finishPass, .waitAgain]

theorem applyTargetRun_enabled :
    ((managedReconciler fun _ => True).runWhere
      (fun _ label => label.plain = true) sampleWithAttacher
      applyTargetRun).isSome = true := by
  decide +kernel

def appliedReconciler : Reconciler :=
  (managedReconciler fun _ => True).finishWhere
    (fun _ label => label.plain = true) sampleWithAttacher applyTargetRun
    applyTargetRun_enabled

theorem appliedReconciler_callers (thread : Nat) :
    appliedReconciler.callers thread = .idle := by
  have shape : appliedReconciler.callers =
      Function.update
        (Function.update
          (Function.update
            (Function.update (fun _ => .idle) 7 (.mutated 0))
            7 (.published 0))
          7 (.stamped (.fresh 0 10)))
        7 .idle := rfl
  rw [shape]
  by_cases same : thread = 7
  · rw [same, Function.update_self]
  · simp [same]

theorem appliedReconciler_quiescent : appliedReconciler.Quiescent where
  applyRequests := by rfl
  ready := by rfl
  notRunning _ _ _ running := by cases running
  publishing publisher id publishing := by
    cases publisher with
    | monitor => exact publishing
    | caller thread =>
        rw [Reconciler.Publishing, appliedReconciler_callers] at publishing
        exact publishing

theorem quiescent_consistency_applied :
    appliedReconciler.shared.kernel.filter (({} : AttachSpec).slot 2) =
        some 1 ↔
      ({ policy := {"eth0"} } : PolicyType).isAll = true ∨
        "eth0" ∈ ({ policy := {"eth0"} } : PolicyType).policy := by
  have reached := sampleWithAttacher_reachable.finishWhere
    admissible_of_plain applyTargetRun_enabled
  have found : appliedReconciler.shared.attachers[0]? = some
      { sampleAttacher with
        targetNics := {"eth0"}
        policySnapshot := { policy := {"eth0"} } } := rfl
  have last : lastPass 0 appliedReconciler.history = some true := rfl
  exact quiescent_consistency reached appliedReconciler_quiescent found last
    List.mem_cons_self

end LibbpfControl.BpfTool
