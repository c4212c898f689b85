import LibbpfControl.BpfTool.Quiescence

/-!
# What the manager writes

Other software keeps filters of its own on the same interfaces.  A pass
addresses the kernel with the direction, the handle and the priority of its
attacher and with the descriptor of its program, so over any run the manager
changes a slot only if an attacher designates it, and leaves nothing in it but
the program of such an attacher.  It gives qdiscs and takes none away.

Nothing is assumed of the specifications.  Where one has no handle or no
priority the kernel picks an address, and the specification designates every
address which may be picked.
-/

namespace LibbpfControl.BpfTool

/-- The slots at which the kernel may install a filter of the
specification. -/
def AttachSpec.Designates (spec : AttachSpec) (slot : Slot) : Prop :=
  slot.hook.isIngress = spec.isIngress ∧ spec.opts.Matches slot.opts

theorem AttachSpec.designates_of_opts {spec : AttachSpec} {hook : TcHook}
    (sameIngress : hook.isIngress = spec.isIngress) :
    spec.Designates ⟨hook, spec.opts⟩ :=
  ⟨sameIngress, fun _ => rfl, fun _ => rfl⟩

/-- An attacher has this specification and program. -/
def Manages (attachers : List Attacher) (spec : AttachSpec)
    (prog : BpfProgram) : Prop :=
  ∃ attacher ∈ attachers,
    attacher.attachSpec = spec ∧ attacher.prog = prog

/-- The kernel was changed for attachers only. -/
structure TcKernel.WrittenFor (attachers : List Attacher)
    (before after : TcKernel) : Prop where
  programs : after.program = before.program
  qdiscs : ∀ ifindex, before.clsact ifindex = true →
    after.clsact ifindex = true
  filters : ∀ slot, after.filter slot ≠ before.filter slot →
    ∃ spec prog, Manages attachers spec prog ∧ spec.Designates slot ∧
      (after.filter slot = none ∨
        after.filter slot = before.program prog.fd)

namespace TcKernel.WrittenFor

variable {attachers later : List Attacher} {before middle after : TcKernel}

theorem refl (attachers : List Attacher) (kernel : TcKernel) :
    WrittenFor attachers kernel kernel :=
  ⟨rfl, fun _ hooked => hooked, fun _ changed => absurd rfl changed⟩

theorem mono (written : WrittenFor attachers before after)
    (kept : ∀ spec prog, Manages attachers spec prog →
      Manages later spec prog) :
    WrittenFor later before after := by
  refine ⟨written.programs, written.qdiscs, ?_⟩
  intro slot changed
  obtain ⟨spec, prog, manages, rest⟩ := written.filters slot changed
  exact ⟨spec, prog, kept spec prog manages, rest⟩

theorem trans (first : WrittenFor attachers before middle)
    (second : WrittenFor attachers middle after) :
    WrittenFor attachers before after := by
  refine ⟨second.programs.trans first.programs, ?_, ?_⟩
  · intro ifindex hooked
    exact second.qdiscs ifindex (first.qdiscs ifindex hooked)
  · intro slot changed
    by_cases same : after.filter slot = middle.filter slot
    · rw [same] at changed ⊢
      exact first.filters slot changed
    · have written := second.filters slot same
      rwa [first.programs] at written

end TcKernel.WrittenFor

section Calls

variable {kernel after : TcKernel} {hook : TcHook} {opts : TcOpts}
  {outcome : TcOutcome} {rc : Int}

/-- The address at which a filter is installed agrees with the options as far
as these go. -/
theorem attachAddress_agrees {pick address : TcOpts}
    (chosen : kernel.attachAddress hook opts pick = some address) :
    opts.Matches address := by
  simp only [TcKernel.attachAddress] at chosen
  split at chosen
  · cases chosen
    exact ⟨fun _ => rfl, fun _ => rfl⟩
  · split at chosen
    · rename_i picked
      cases chosen
      exact picked.2.2
    · cases chosen

/-- An attach call with any options installs the program of the descriptor at
one address or leaves the kernel as it was. -/
theorem attach_installs {progFd : Int32} {replace : Bool}
    (answered : kernel.attach hook opts progFd replace outcome =
      some (after, rc)) :
    after = kernel ∨
      ∃ address progId secured,
        kernel.program progFd = some progId ∧
        after = kernel.install ⟨hook, address⟩ progId secured ∧
        opts.Matches address := by
  cases outcome with
  | failing error =>
      simp only [TcKernel.attach] at answered
      split at answered
      · cases answered
      · cases answered
        exact .inl rfl
  | faithful pick =>
      simp only [TcKernel.attach] at answered
      split at answered
      · cases answered
        exact .inl rfl
      · split at answered
        · rename_i secured
          split at answered
          · cases answered
            exact .inl rfl
          · rename_i progId loaded
            obtain ⟨address, chosen, installed⟩ :=
              Option.map_eq_some_iff.mp answered
            split at installed
            · cases installed
              exact .inl rfl
            · cases installed
              exact .inr ⟨address, progId, secured, loaded, rfl,
                attachAddress_agrees chosen⟩
        · cases answered
          exact .inl rfl

end Calls

section Operations

variable {attachers : List Attacher} {spec : AttachSpec} {prog : BpfProgram}
  {kernel : TcKernel} {slot : Slot}

theorem writtenFor_install (manages : Manages attachers spec prog)
    (designated : spec.Designates slot) {progId : UInt32}
    (loaded : kernel.program prog.fd = some progId)
    (secured : kernel.clsact slot.hook.ifindex = true) :
    TcKernel.WrittenFor attachers kernel
      (kernel.install slot progId secured) := by
  refine ⟨rfl, fun _ hooked => hooked, ?_⟩
  intro other changed
  by_cases same : other = slot
  · subst same
    refine ⟨spec, prog, manages, designated, .inr ?_⟩
    rw [TcKernel.install_same, loaded]
  · exact absurd (TcKernel.install_other kernel progId secured same) changed

theorem writtenFor_remove (manages : Manages attachers spec prog)
    (designated : spec.Designates slot) :
    TcKernel.WrittenFor attachers kernel (kernel.remove slot) := by
  refine ⟨rfl, fun _ hooked => hooked, ?_⟩
  intro other changed
  by_cases same : other = slot
  · subst same
    exact ⟨spec, prog, manages, designated, .inl (kernel.remove_same other)⟩
  · exact absurd (kernel.remove_other same) changed

/-- An operation of a pass writes for its attacher. -/
theorem bodyOp_writtenFor {id : Nat} {shared later : Shared}
    {operation : ManagerOp} {outcome : TcOutcome}
    {answer : operation.Answer} (manages : Manages attachers spec prog)
    (made : BodyOp spec prog id operation)
    (answered : managerHandler.answer shared operation outcome =
      some (later, answer)) :
    TcKernel.WrittenFor attachers shared.kernel later.kernel := by
  cases operation with
  | getAttacher other => exact made.elim
  | snapshot => exact made.elim
  | getIfindexByIfname nicName =>
      simp only [managerHandler, Option.some.injEq, Prod.mk.injEq] at answered
      obtain ⟨rfl, _⟩ := answered
      exact .refl attachers _
  | appendApplyRequest request =>
      simp only [managerHandler, Option.some.injEq, Prod.mk.injEq] at answered
      obtain ⟨rfl, _⟩ := answered
      exact .refl attachers _
  | tcHookCreate hook =>
      simp only [managerHandler, Option.map_eq_some_iff] at answered
      obtain ⟨⟨kernel, rc⟩, created, packed⟩ := answered
      cases packed
      obtain ⟨sameFilter, samePrograms, _⟩ :=
        TcKernel.hookCreate_effect created
      refine ⟨samePrograms, fun ifindex hooked => ?_,
        fun slot changed => absurd (by rw [sameFilter]) changed⟩
      rcases TcKernel.hookCreate_qdiscs created ifindex with
        same | ⟨_, added⟩
      · exact same.trans hooked
      · exact added
  | tcQuery hook opts =>
      simp only [managerHandler, Option.map_eq_some_iff] at answered
      obtain ⟨⟨kernel, result⟩, queried, packed⟩ := answered
      cases packed
      rw [(TcKernel.query_effect queried).1]
      exact .refl attachers _
  | tcAttach hook opts progFd replace =>
      simp only [managerHandler, Option.map_eq_some_iff] at answered
      obtain ⟨⟨kernel, rc⟩, attached, packed⟩ := answered
      cases packed
      obtain ⟨sameIngress, rfl, rfl⟩ := made
      rcases attach_installs attached with
        rfl | ⟨address, progId, secured, loaded, rfl, agrees⟩
      · exact .refl attachers _
      · exact writtenFor_install manages ⟨sameIngress, agrees⟩ loaded secured
  | tcDetach hook opts =>
      simp only [managerHandler, Option.map_eq_some_iff] at answered
      obtain ⟨⟨kernel, rc⟩, detached, packed⟩ := answered
      cases packed
      obtain ⟨sameIngress, rfl⟩ := made
      rcases TcKernel.detach_effect detached with
        ⟨_, rfl⟩ | ⟨_, _, rfl⟩ | ⟨_, _, rfl⟩
      · exact writtenFor_remove manages
          (AttachSpec.designates_of_opts sameIngress)
      · exact .refl attachers _
      · exact .refl attachers _

end Operations

/-- After its first read a pass works with the specification and the program
of one attacher. -/
inductive PassOwned (attachers : List Attacher) (request : ApplyRequest) :
    ManagerProgram Bool → Prop where
  | start : PassOwned attachers request
      (applyTargetsPolicyPerAttacher request)
  | policyRead {policy : PolicyType} {spec : AttachSpec} {prog : BpfProgram}
      (manages : Manages attachers spec prog) :
      PassOwned attachers request
        (.call .snapshot (passBody request (policy, spec, prog)))
  | body {spec : AttachSpec} {prog : BpfProgram}
      {program : ManagerProgram Bool} (manages : Manages attachers spec prog)
      (uses : program.Uses (BodyOp spec prog request.id)) :
      PassOwned attachers request program

section Passes

variable {attachers later : List Attacher} {request : ApplyRequest}
  {program rest : ManagerProgram Bool} {shared after : Shared}
  {outcome : TcOutcome} {event : Program.Event ManagerOp ManagerOp.Answer}

theorem PassOwned.mono (owned : PassOwned attachers request program)
    (kept : ∀ spec prog, Manages attachers spec prog →
      Manages later spec prog) :
    PassOwned later request program := by
  cases owned with
  | start => exact .start
  | policyRead manages => exact .policyRead (kept _ _ manages)
  | body manages uses => exact .body (kept _ _ manages) uses

theorem PassOwned.advance
    (owned : PassOwned shared.attachers request program)
    (advanced : program.advance managerHandler shared outcome =
      some (rest, after, event)) :
    PassOwned shared.attachers request rest ∧
      TcKernel.WrittenFor shared.attachers shared.kernel after.kernel := by
  cases owned with
  | start =>
      obtain ⟨next, answered, pending, rfl⟩ :=
        Program.advance_eq_some advanced
      obtain ⟨operation, answer⟩ := event
      cases pending
      obtain ⟨rfl, attacher, found, rfl⟩ := answer_getAttacher answered
      refine ⟨.policyRead ⟨attacher, ?_, rfl, rfl⟩, .refl _ _⟩
      exact List.mem_of_getElem? found
  | policyRead manages =>
      obtain ⟨next, answered, pending, rfl⟩ :=
        Program.advance_eq_some advanced
      obtain ⟨operation, answer⟩ := event
      cases pending
      obtain ⟨rfl, rfl⟩ := answer_snapshot answered
      exact ⟨.body manages (passBody_uses request _ _), .refl _ _⟩
  | body manages uses =>
      obtain ⟨next, answered, _, _⟩ := Program.advance_eq_some advanced
      obtain ⟨made, restUses⟩ := uses.advance advanced
      exact ⟨.body manages restUses, bodyOp_writtenFor manages made answered⟩

end Passes

section Runs

variable {state target : Reconciler} {label : ReconcilerStep}

theorem manages_set {attachers : List Attacher} {id : Nat}
    {old changed : Attacher} (found : attachers[id]? = some old)
    (sameSpec : changed.attachSpec = old.attachSpec)
    (sameProg : changed.prog = old.prog) {spec : AttachSpec}
    {prog : BpfProgram} (manages : Manages attachers spec prog) :
    Manages (attachers.set id changed) spec prog := by
  obtain ⟨attacher, member, hasSpec, hasProg⟩ := manages
  obtain ⟨place, there⟩ := List.mem_iff_getElem?.mp member
  by_cases same : id = place
  · subst same
    cases there.symm.trans found
    refine ⟨changed, ?_, sameSpec.trans hasSpec, sameProg.trans hasProg⟩
    exact List.mem_set (List.getElem?_eq_some_iff.mp found).1 changed
  · refine ⟨attacher, List.mem_iff_getElem?.mpr ⟨place, ?_⟩, hasSpec,
      hasProg⟩
    rw [List.getElem?_set_ne same]
    exact there

/-- An attacher keeps its specification and its program as long as the manager
lives. -/
theorem manages_step (moves : state.Moves label target) (spec : AttachSpec)
    (prog : BpfProgram) (manages : Manages state.shared.attachers spec prog) :
    Manages target.shared.attachers spec prog := by
  cases moves with
  | createAttacher =>
      obtain ⟨attacher, member, rest⟩ := manages
      exact ⟨attacher, List.mem_append_left _ member, rest⟩
  | mutate idle found =>
      obtain ⟨sameProg, sameSpec, _⟩ := Attacher.mutate_frame _ _
      exact manages_set found sameSpec sameProg manages
  | publishPolicy mutated found =>
      refine manages_set found ?_ ?_ manages
      · rfl
      · rfl
  | schedule _ collected =>
      obtain ⟨_, _, _, rfl, _⟩ := Reconciler.collect_frame collected
      exact manages
  | passOperation running advanced =>
      obtain ⟨_, answered, _, _⟩ := Program.advance_eq_some advanced
      rw [(answer_frame answered).1]
      exact manages
  | _ => exact manages

/-- The pass which runs belongs to an attacher. -/
def Reconciler.RunsOwned (state : Reconciler) : Prop :=
  ∀ request program ready, state.worker = .running request program ready →
    PassOwned state.shared.attachers request program

theorem runsOwned_step (owned : state.RunsOwned)
    (moves : state.Moves label target) : target.RunsOwned := by
  intro request program ready runs
  cases Reconciler.running_origin moves runs with
  | kept running =>
      exact (owned request program ready running).mono (manages_step moves)
  | started taken => exact .start
  | advanced running advanced =>
      exact ((owned request _ ready running).advance advanced).1.mono
        (manages_step moves)

theorem reconciler_runsOwned (reached : reconciler.Reachable state) :
    state.RunsOwned := by
  apply reached.invariant
  · intro start initial request program ready runs
    rw [initial.worker] at runs
    cases runs
  · intro before label after owned stepped
    exact runsOwned_step owned (Reconciler.moves_of_step stepped)

/-- The step is one of the process. -/
def ReconcilerStep.isOwn : ReconcilerStep → Bool
  | .changeKernel _ => false
  | _ => true

theorem writtenFor_step (owned : state.RunsOwned)
    (moves : state.Moves label target) (own : label.isOwn = true) :
    TcKernel.WrittenFor target.shared.attachers state.shared.kernel
      target.shared.kernel := by
  have kept := manages_step moves
  cases moves with
  | schedule _ collected =>
      obtain ⟨_, _, _, rfl, _⟩ := Reconciler.collect_frame collected
      exact .refl _ _
  | passOperation running advanced =>
      exact ((owned _ _ _ running).advance advanced).2.mono kept
  | changeKernel => cases own
  | _ => exact .refl _ _

end Runs

/-- Over every part of a run in which other software leaves the kernel alone,
and for every specification: descriptors stand for the same programs, no qdisc
is taken away, and a slot whose content has changed is designated by an
attacher and is empty or holds the program of that attacher. -/
theorem manager_writes_designated {start state : Reconciler}
    (before : reconciler.Reachable start)
    (window : (reconciler.startingAt start).ReachableWhere
      (fun _ label => label.isOwn = true) state) :
    TcKernel.WrittenFor state.shared.attachers start.shared.kernel
      state.shared.kernel := by
  apply window.invariant_with
    (fun _ reached => reconciler_runsOwned (reached.of_startingAt before))
  · rintro _ rfl
    exact .refl _ _
  · intro middle label after owned written own stepped
    have moves := Reconciler.moves_of_step stepped
    exact (written.mono (manages_step moves)).trans
      (writtenFor_step owned moves own)

/-- The sample manager with an attacher which leaves its handle to the
kernel. -/
def withoutHandle : Reconciler :=
  { sampleReconciler with
    shared :=
      { sampleReconciler.shared with
        attachers := [{ sampleAttacher with attachSpec := { handle := 0 } }] } }

theorem withoutHandle_reachable : reconciler.Reachable withoutHandle := by
  have created : reconciler.step sampleReconciler
      (.createAttacher sampleProgram { handle := 0 }) =
        some withoutHandle := rfl
  exact .next (.initial sampleReconciler_initial) trivial created

/-- The kernel picks the handle 5. -/
def pickedRun : List ReconcilerStep :=
  ([.mutate 7 0 (.addTarget "eth0"), .publishPolicy 7, .stampPolicy 7 10,
    .appendPolicy 7, .schedule 20 [.fresh 0 10],
    .startPass] : List ReconcilerStep) ++
  List.replicate 7 (.passOperation (.faithful ⟨5, 100⟩))

theorem pickedRun_enabled :
    ((reconciler.startingAt withoutHandle).runWhere
      (fun _ label => label.isOwn = true) withoutHandle
      pickedRun).isSome = true := by
  decide +kernel

def pickedReconciler : Reconciler :=
  (reconciler.startingAt withoutHandle).finishWhere
    (fun _ label => label.isOwn = true) withoutHandle pickedRun
    pickedRun_enabled

theorem manager_writes_designated_picked :
    TcKernel.WrittenFor pickedReconciler.shared.attachers
        withoutHandle.shared.kernel pickedReconciler.shared.kernel ∧
      pickedReconciler.shared.kernel.filter ⟨⟨2, true⟩, ⟨5, 100⟩⟩ =
        some 1 := by
  have window : (reconciler.startingAt withoutHandle).ReachableWhere
      (fun _ label => label.isOwn = true) pickedReconciler :=
    Machine.ReachableWhere.finishWhere (fun _ _ allowed => allowed)
      (.initial rfl) pickedRun_enabled
  exact ⟨manager_writes_designated withoutHandle_reachable window,
    by decide +kernel⟩

end LibbpfControl.BpfTool
