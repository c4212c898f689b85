import Mathlib.Algebra.Group.Nat.Defs
import LibbpfControl.BpfTool.Pass

/-!
# Passes over snapshots with address labels

`reload_snapshot` keys interfaces by the label of their addresses, while the
kernel keys filters by the index of the interface.  Two labels of one index
share a slot, and a policy which selects only one of them makes a pass attach
and detach in the same slot.

This module states when a pass agrees with itself, and shows that this is
exactly when the labels of one index are selected alike, except for
specifications which do not address a single filter and therefore never
detach anything.
-/

namespace LibbpfControl.BpfTool

open NicCheck

/-- `bpf_tc_attach` put a program into the slot. -/
def Attaches (slot : Slot) (trace : ManagerTrace) : Prop :=
  ∃ progFd replace,
    (⟨.tcAttach slot.hook slot.opts progFd replace, (0 : Int)⟩ :
      Program.Event ManagerOp ManagerOp.Answer) ∈ trace

/-- `attach_filter` secured the hook and then found the program already in
the slot. -/
def KeepsAttached (slot : Slot) (progId : UInt32) (trace : ManagerTrace) :
    Prop :=
  ∃ (rc : Int) (nicName : String) (index : UInt32),
    (rc = 0 ∨ rc = -eEXIST) ∧
    ([⟨.tcHookCreate slot.hook, rc⟩,
      ⟨.getIfindexByIfname nicName, index⟩,
      ⟨.tcQuery slot.hook slot.opts, ((0 : Int), progId)⟩] : ManagerTrace) <:+:
        trace

/-- `bpf_tc_detach` removed the program from the slot. -/
def Detaches (slot : Slot) (trace : ManagerTrace) : Prop :=
  (⟨.tcDetach slot.hook slot.opts, (0 : Int)⟩ :
    Program.Event ManagerOp ManagerOp.Answer) ∈ trace

/-- One pass both attaches (or keeps attached) and detaches in one slot. -/
def Fights (progId : UInt32) (trace : ManagerTrace) : Prop :=
  ∃ slot, (Attaches slot trace ∨ KeepsAttached slot progId trace) ∧
    Detaches slot trace

/-- The program sits where the specification asks for it on an interface. -/
def Installed (spec : AttachSpec) (progId : UInt32) (ifindex : Int32)
    (kernel : TcKernel) : Prop :=
  ∃ address, spec.opts.Matches address ∧
    kernel.filter ⟨spec.hook ifindex, address⟩ = some progId

/-- A pass of an attacher is about to run over the snapshot built from
`entries`, in any iteration order of the map. -/
structure PassStart (system : InterfaceSystem) (entries : List IfAddrs)
    (policy : PolicyType) (spec : AttachSpec) (prog : BpfProgram)
    (request : ApplyRequest) (shared : Shared) : Prop where
  attacher : ∃ attacher, shared.attachers[request.id]? = some attacher ∧
    attacher.policySnapshot = policy ∧ attacher.attachSpec = spec ∧
    attacher.prog = prog
  accepted : 0 ≤ prog.fd ∧ prog.progId ≠ 0
  loaded : shared.kernel.program prog.fd = some prog.progId
  snapshot : shared.interfaces.items.Perm (processEntries system entries).items

/-- No pass over the snapshot fights itself, and a successful one leaves the
program on every selected interface. -/
def PassAgrees (system : InterfaceSystem) (entries : List IfAddrs)
    (policy : PolicyType) (spec : AttachSpec) : Prop :=
  ∀ prog request shared outcomes success final trace,
    PassStart system entries policy spec prog request shared →
    (applyTargetsPolicyPerAttacher request).run managerHandler shared
      outcomes = some (success, final, trace) →
    ¬Fights prog.progId trace ∧
      (success = true → ∀ label info,
        (label, info) ∈ shared.interfaces → policy.selects label = true →
        Installed spec prog.progId info.ifindex.toInt32 final.kernel)

/-- The labels of one index are selected alike. -/
def LabelsAlike (system : InterfaceSystem) (entries : List IfAddrs)
    (policy : PolicyType) : Prop :=
  ∀ left right, Registered system entries left →
    Registered system entries right →
    system.ifNametoindex left = system.ifNametoindex right →
    policy.selects left = policy.selects right

section Snapshot

variable {system : InterfaceSystem} {entries : List IfAddrs}
  {interfaces : InterfaceMap}
  (snapshot : interfaces.items.Perm (processEntries system entries).items)

include snapshot

theorem snapshot_mem {label : String} {info : InterfaceInfo} :
    (label, info) ∈ interfaces ↔
      (label, info) ∈ processEntries system entries :=
  snapshot.mem_iff

theorem snapshot_ifindex {label : String} {info : InterfaceInfo}
    (member : (label, info) ∈ interfaces) :
    info.ifindex = system.ifNametoindex label :=
  (processEntries_names system entries).1 label info
    ((snapshot_mem snapshot).mp member)

theorem snapshot_registered {label : String} {info : InterfaceInfo}
    (member : (label, info) ∈ interfaces) :
    Registered system entries label :=
  ((processEntries_names system entries).2 label).mp
    ⟨info, (snapshot_mem snapshot).mp member⟩

theorem snapshot_selectsByIndex {policy : PolicyType}
    (alike : LabelsAlike system entries policy) :
    SelectsByIndex policy interfaces := by
  intro left leftInfo right rightInfo leftMember rightMember sameIndex
  rw [snapshot_ifindex snapshot leftMember,
    snapshot_ifindex snapshot rightMember] at sameIndex
  exact alike left right (snapshot_registered snapshot leftMember)
    (snapshot_registered snapshot rightMember) sameIndex

end Snapshot

/-- The reads at the start of a pass, followed by its body. -/
theorem pass_run {system : InterfaceSystem} {entries : List IfAddrs}
    {policy : PolicyType} {spec : AttachSpec} {prog : BpfProgram}
    {request : ApplyRequest} {shared : Shared} {outcomes : List TcOutcome}
    {result : Bool × Shared × ManagerTrace}
    (start : PassStart system entries policy spec prog request shared)
    (completed : (applyTargetsPolicyPerAttacher request).run managerHandler
      shared outcomes = some result) :
    ∃ rest bodyTrace,
      (passBody request (policy, spec, prog) shared.interfaces).run
        managerHandler shared rest =
          some (result.1, result.2.1, bodyTrace) ∧
      result.2.2 =
        ⟨.getAttacher request.id, (policy, spec, prog)⟩ ::
        ⟨.snapshot, shared.interfaces⟩ :: bodyTrace := by
  obtain ⟨attacher, found, rfl, rfl, rfl⟩ := start.attacher
  obtain ⟨success, final, trace⟩ := result
  obtain ⟨_, _, _, _, _, _, read, afterRead, rfl⟩ :=
    Program.exists_run_of_call completed
  simp only [managerHandler, found, Option.map_some] at read
  cases read
  obtain ⟨_, rest, _, _, bodyTrace, _, snapshot, bodyRun, rfl⟩ :=
    Program.exists_run_of_call afterRead
  cases snapshot
  exact ⟨rest, bodyTrace, bodyRun, rfl⟩

/-- The reads are no kernel operations. -/
theorem mem_bodyTrace {request : ApplyRequest}
    {attacher : PolicyType × AttachSpec × BpfProgram}
    {interfaces : InterfaceMap} {bodyTrace : ManagerTrace}
    {event : Program.Event ManagerOp ManagerOp.Answer}
    (member : event ∈
      (⟨.getAttacher request.id, attacher⟩ ::
        ⟨.snapshot, interfaces⟩ :: bodyTrace : ManagerTrace))
    (notAttacher : ∀ id, event.1 ≠ .getAttacher id)
    (notSnapshot : event.1 ≠ .snapshot) : event ∈ bodyTrace := by
  rcases List.mem_cons.mp member with first | later
  · exact (notAttacher _ (congrArg Sigma.fst first)).elim
  · rcases List.mem_cons.mp later with second | rest
    · exact (notSnapshot (congrArg Sigma.fst second)).elim
    · exact rest

/-- The hook of a slot which is attached or kept was secured or attached to
by the pass. -/
theorem attached_operation {slot : Slot} {progId : UInt32}
    {trace : ManagerTrace}
    (attached : Attaches slot trace ∨ KeepsAttached slot progId trace) :
    ∃ event ∈ trace, event.1 = .tcHookCreate slot.hook ∨
      ∃ progFd replace,
        event.1 = .tcAttach slot.hook slot.opts progFd replace := by
  rcases attached with ⟨progFd, replace, member⟩ |
    ⟨rc, nicName, index, _, infixed⟩
  · exact ⟨_, member, Or.inr ⟨progFd, replace, rfl⟩⟩
  · exact ⟨_, infixed.subset List.mem_cons_self, Or.inl rfl⟩

theorem passAgrees_of_labelsAlike {system : InterfaceSystem}
    {entries : List IfAddrs} {policy : PolicyType} {spec : AttachSpec}
    (addressable : spec.opts.addressable = true)
    (alike : LabelsAlike system entries policy) :
    PassAgrees system entries policy spec := by
  intro prog request shared outcomes success final trace start completed
  have byIndex := snapshot_selectsByIndex start.snapshot alike
  obtain ⟨rest, bodyTrace, bodyRun, rfl⟩ := pass_run start completed
  -- a pass which runs alone meets any interference
  have meets := (passBody_meets (fun _ => True) request shared
    addressable byIndex (fun _ _ _ => trivial) start.loaded).restrict
      (fun first second (same : first = second) => same ▸ SameView.refl first)
  obtain ⟨reached, traced⟩ := meets.run bodyRun
  constructor
  · rintro ⟨slot, attached, detached⟩
    obtain ⟨event, member, operation⟩ := attached_operation attached
    have attachMember : event ∈ bodyTrace := by
      apply mem_bodyTrace member
      · rintro id same
        rcases operation with made | ⟨_, _, made⟩ <;> rw [same] at made <;>
          cases made
      · intro same
        rcases operation with made | ⟨_, _, made⟩ <;> rw [same] at made <;>
          cases made
    have detachMember := mem_bodyTrace detached (by simp) (by simp)
    -- both operations were made for interfaces with the index of the slot
    obtain ⟨_, _, _, attachMade, _⟩ := traced event attachMember
    obtain ⟨_, _, _, detachMade, _⟩ := traced _ detachMember
    have wantedThere : ∃ label info, (label, info) ∈ shared.interfaces ∧
        policy.selects label = true ∧
        slot.hook = spec.hook info.ifindex.toInt32 := by
      rcases attachMade with ⟨label, info, inSnapshot, made⟩ | ⟨retry, made⟩
      · rcases operation with same | ⟨_, _, same⟩ <;> rw [same] at made
        · exact ⟨label, info, inSnapshot, made.1, made.2⟩
        · exact ⟨label, info, inSnapshot, made.1, made.2.1⟩
      · rcases operation with same | ⟨_, _, same⟩ <;> rw [same] at made <;>
          cases made
    have unwantedThere : ∃ label info, (label, info) ∈ shared.interfaces ∧
        policy.selects label = false ∧
        slot.hook = spec.hook info.ifindex.toInt32 := by
      rcases detachMade with ⟨label, info, inSnapshot, made⟩ | ⟨retry, made⟩
      · exact ⟨label, info, inSnapshot, made.1, made.2.1⟩
      · cases made
    obtain ⟨left, leftInfo, leftMember, selected, leftHook⟩ := wantedThere
    obtain ⟨right, rightInfo, rightMember, unselected, rightHook⟩ :=
      unwantedThere
    have sameIndex : leftInfo.ifindex = rightInfo.ifindex := by
      have sameHook := leftHook.symm.trans rightHook
      exact congrArg (fun hook => hook.ifindex.toUInt32) sameHook
    have contradiction := byIndex left leftInfo right rightInfo leftMember
      rightMember sameIndex
    rw [selected, unselected] at contradiction
    cases contradiction
  · intro succeeded label info member selected
    obtain ⟨_, reconciled⟩ := reached succeeded
    exact ⟨spec.opts, ⟨fun _ => rfl, fun _ => rfl⟩,
      (reconciled label info member).mpr selected⟩

/-- Filters are only added. -/
def FiltersKept (before after : TcKernel) : Prop :=
  ∀ slot progId, before.filter slot = some progId →
    after.filter slot = some progId

theorem FiltersKept.trans {first second third : TcKernel}
    (left : FiltersKept first second) (right : FiltersKept second third) :
    FiltersKept first third :=
  fun slot progId held => right slot progId (left slot progId held)

theorem filtersKept_of_eq {before after : TcKernel}
    (same : after.filter = before.filter) : FiltersKept before after := by
  intro slot progId held
  rw [same]
  exact held

theorem filtersKept_install {kernel : TcKernel} {slot : Slot}
    (progId : UInt32) (secured : kernel.clsact slot.hook.ifindex = true)
    (vacant : kernel.filter slot = none) :
    FiltersKept kernel (kernel.install slot progId secured) := by
  intro other otherId held
  rw [← held]
  refine TcKernel.install_other _ _ secured ?_
  rintro rfl
  cases vacant.symm.trans held

theorem classifyQuery_open {kernel after : TcKernel} {spec : AttachSpec}
    {ifindex : Int32} {outcome : TcOutcome} {answer : Int × UInt32}
    (prog : BpfProgram) (unaddressable : spec.opts.addressable = false)
    (answered : kernel.query (spec.hook ifindex) spec.opts outcome =
      some (after, answer)) :
    after = kernel ∧ answer.1 ≠ 0 ∧
      (classifyQuery prog answer).state ≠ .ourProgram ∧
      (classifyQuery prog answer).state ≠ .otherProgram := by
  cases outcome with
  | failing error =>
      simp only [TcKernel.query] at answered
      split at answered
      · cases answered
      · rename_i other
        simp only [Option.some.injEq, Prod.mk.injEq] at answered
        obtain ⟨rfl, rfl⟩ := answered
        simp only [not_or] at other
        simp [classifyQuery, other.1, other.2.1, other.2.2]
  | faithful pick =>
      simp only [TcKernel.query, unaddressable, Bool.false_and,
        Bool.false_eq_true, if_false, Option.some.injEq, Prod.mk.injEq]
        at answered
      obtain ⟨rfl, rfl⟩ := answered
      simp [classifyQuery, eNOENT, eINVAL]

theorem attach_open_effect {kernel after : TcKernel} {hook : TcHook}
    {opts : TcOpts} {progFd : Int32} {outcome : TcOutcome} {rc : Int}
    (unaddressable : opts.addressable = false)
    (answered : kernel.attach hook opts progFd false outcome =
      some (after, rc)) :
    (rc = 0 ∧ ∃ address progId secured, opts.Matches address ∧
      kernel.filter ⟨hook, address⟩ = none ∧
      kernel.program progFd = some progId ∧
      after = kernel.install ⟨hook, address⟩ progId secured) ∨
      (rc ≠ 0 ∧ after = kernel) := by
  cases outcome with
  | failing error =>
      simp only [TcKernel.attach] at answered
      split at answered
      · cases answered
      · rename_i nonzero
        simp only [Option.some.injEq, Prod.mk.injEq] at answered
        obtain ⟨rfl, rfl⟩ := answered
        exact Or.inr ⟨nonzero, rfl⟩
  | faithful pick =>
      simp only [TcKernel.attach] at answered
      split at answered
      · simp only [Option.some.injEq, Prod.mk.injEq] at answered
        obtain ⟨rfl, rfl⟩ := answered
        exact Or.inr ⟨by decide, rfl⟩
      · rename_i bounded
        split at answered
        · rename_i secured
          split at answered
          · simp only [Option.some.injEq, Prod.mk.injEq] at answered
            obtain ⟨rfl, rfl⟩ := answered
            exact Or.inr ⟨by decide, rfl⟩
          · rename_i progId loaded
            have notFixed : ¬(opts.handle ≠ 0 ∧ opts.priority ≠ 0) := by
              rintro ⟨handle, priority⟩
              have small : opts.priority ≤ 65535 := UInt32.not_lt.mp bounded
              simp [TcOpts.addressable, handle, priority, small]
                at unaddressable
            simp only [TcKernel.attachAddress, notFixed, if_false,
              Option.map_eq_some_iff] at answered
            obtain ⟨address, chosen, installed⟩ := answered
            split at chosen
            · rename_i free
              simp only [Option.some.injEq] at chosen
              subst address
              simp only [free.2.1, ne_eq, not_true_eq_false, false_and,
                if_false, Prod.mk.injEq] at installed
              obtain ⟨rfl, rfl⟩ := installed
              exact Or.inl ⟨rfl, pick, progId, secured,
                ⟨free.2.2.1, free.2.2.2⟩, free.2.1, loaded, rfl⟩
            · cases chosen
        · simp only [Option.some.injEq, Prod.mk.injEq] at answered
          obtain ⟨rfl, rfl⟩ := answered
          exact Or.inr ⟨by decide, rfl⟩

def NoDetach (_ : Shared) (operation : ManagerOp) : Prop :=
  ∀ hook opts, operation ≠ .tcDetach hook opts

theorem queryFilter_open_meets (nicName : String) (prog : BpfProgram)
    {spec : AttachSpec} (shared : Shared)
    (unaddressable : spec.opts.addressable = false) :
    (queryFilter nicName prog spec).Meets managerHandler (· = ·) NoDetach
      (fun result final => final = shared ∧ result.state ≠ .ourProgram ∧
        result.state ≠ .otherProgram)
      shared := by
  rintro first rfl
  refine ⟨fun _ _ => by simp, ?_⟩
  intro choice after index answered
  simp only [managerHandler, Option.some.injEq] at answered
  obtain ⟨rfl, rfl⟩ := answered
  dsimp only
  split
  · rintro final rfl
    exact ⟨rfl, by simp, by simp⟩
  · rintro second rfl
    refine ⟨fun _ _ => by simp, ?_⟩
    intro choice after answer answered
    simp only [managerHandler, Option.map_eq_some_iff] at answered
    obtain ⟨⟨kernel, queried⟩, query, rfl, rfl⟩ := answered
    obtain ⟨sameKernel, _, notOurs, notOther⟩ :=
      classifyQuery_open prog unaddressable query
    subst sameKernel
    rintro final rfl
    exact ⟨rfl, notOurs, notOther⟩

/-- What a call on one interface may do when the specification leaves the
address open. -/
structure OpenOutcome (nicName : String) (prog : BpfProgram)
    (spec : AttachSpec) (wanted : Bool) (start : Shared) (success : Bool)
    (final : Shared) : Prop where
  interfaces : final.interfaces = start.interfaces
  programs : final.kernel.program = start.kernel.program
  kept : FiltersKept start.kernel final.kernel
  reached : success = true → wanted = true →
    Installed spec prog.progId (publishedIndex start.interfaces nicName)
      final.kernel

theorem attachFilter_open_meets (nicName : String) {prog : BpfProgram}
    {spec : AttachSpec} (shared : Shared)
    (unaddressable : spec.opts.addressable = false)
    (loaded : shared.kernel.program prog.fd = some prog.progId) :
    (attachFilter nicName prog spec).Meets managerHandler (· = ·) NoDetach
      (OpenOutcome nicName prog spec true shared) shared := by
  rintro first rfl
  refine ⟨fun _ _ => by simp, ?_⟩
  intro choice after index answered
  simp only [managerHandler, Option.some.injEq] at answered
  obtain ⟨rfl, rfl⟩ := answered
  dsimp only
  split
  · rintro final rfl
    exact ⟨rfl, rfl, fun _ _ held => held, by simp⟩
  · rintro second rfl
    refine ⟨fun _ _ => by simp, ?_⟩
    intro choice after rc answered
    simp only [managerHandler, Option.map_eq_some_iff] at answered
    obtain ⟨⟨hooked, code⟩, created, rfl, rfl⟩ := answered
    obtain ⟨sameFilter, samePrograms, _⟩ :=
      TcKernel.hookCreate_effect created
    have kept : FiltersKept shared.kernel hooked :=
      filtersKept_of_eq sameFilter
    dsimp only at sameFilter samePrograms ⊢
    split
    · rintro final rfl
      exact ⟨rfl, samePrograms, kept, by simp⟩
    · refine Program.Meets.bind (fun _ => rfl)
        (queryFilter_open_meets nicName prog _ unaddressable) ?_
      rintro query env ⟨rfl, notOurs, notOther⟩
      simp only [notOurs, if_false]
      split
      · rintro final rfl
        exact ⟨rfl, samePrograms, kept, by simp⟩
      · rintro third rfl
        refine ⟨fun _ _ => by simp, ?_⟩
        intro choice after rc answered
        simp only [managerHandler, Option.map_eq_some_iff] at answered
        obtain ⟨⟨kernel, code⟩, attached, rfl, rfl⟩ := answered
        rw [decide_eq_false notOther] at attached
        rintro final rfl
        rcases attach_open_effect unaddressable attached with
          ⟨rfl, address, progId, secured, matched, vacant, behindFd, rfl⟩ |
          ⟨failed, rfl⟩
        · have sameProgram : progId = prog.progId := by
            rw [samePrograms, loaded] at behindFd
            exact (Option.some.inj behindFd).symm
          refine ⟨rfl, samePrograms,
            kept.trans (filtersKept_install progId secured vacant), ?_⟩
          intro _ _
          exact ⟨address, matched, by
            rw [← sameProgram]
            exact TcKernel.install_same _ _ _ secured⟩
        · exact ⟨rfl, samePrograms, kept, by simp [failed]⟩

theorem detachFilter_open_idle (nicName : String) (prog : BpfProgram)
    {spec : AttachSpec} (shared : Shared)
    (unaddressable : spec.opts.addressable = false) :
    (detachFilter nicName prog spec).Meets managerHandler (· = ·) NoDetach
      (fun _ final => final = shared) shared := by
  refine Program.Meets.bind (fun _ => rfl)
    (queryFilter_open_meets nicName prog shared unaddressable) ?_
  rintro query env ⟨rfl, notOurs, _⟩
  split
  · rintro final rfl
    rfl
  · rintro final rfl
    rfl

theorem detachFilter_open_meets (nicName : String) (prog : BpfProgram)
    {spec : AttachSpec} (shared : Shared)
    (unaddressable : spec.opts.addressable = false) :
    (detachFilter nicName prog spec).Meets managerHandler (· = ·) NoDetach
      (OpenOutcome nicName prog spec false shared) shared := by
  refine (detachFilter_open_idle nicName prog shared unaddressable).mono
    (fun _ _ made => made) ?_
  rintro success final rfl
  exact ⟨rfl, rfl, fun _ _ held => held, by simp⟩

/-- The invariant of a pass with an open address. -/
structure OpenInvariant (policy : PolicyType) (spec : AttachSpec)
    (prog : BpfProgram) (interfaces : InterfaceMap)
    (handled : List (String × InterfaceInfo)) (success : Bool)
    (shared : Shared) : Prop where
  published : shared.interfaces = interfaces
  loaded : shared.kernel.program prog.fd = some prog.progId
  installed : success = true → ∀ label info, (label, info) ∈ handled →
    policy.selects label = true →
    Installed spec prog.progId info.ifindex.toInt32 shared.kernel

theorem Installed.kept {spec : AttachSpec} {progId : UInt32}
    {ifindex : Int32} {before after : TcKernel}
    (installed : Installed spec progId ifindex before)
    (kept : FiltersKept before after) :
    Installed spec progId ifindex after := by
  obtain ⟨address, matched, held⟩ := installed
  exact ⟨address, matched, kept _ _ held⟩

theorem applyInterface_keeps_openInvariant {policy : PolicyType}
    {spec : AttachSpec} {prog : BpfProgram} {interfaces : InterfaceMap}
    {handled : List (String × InterfaceInfo)} {nicName : String}
    {info : InterfaceInfo} {success : Bool} {shared : Shared}
    (unaddressable : spec.opts.addressable = false)
    (member : (nicName, info) ∈ interfaces)
    (invariant : OpenInvariant policy spec prog interfaces handled success
      shared) :
    (applyInterface policy spec prog nicName).Meets managerHandler (· = ·)
      NoDetach
      (fun applied => OpenInvariant policy spec prog interfaces
        (handled ++ [(nicName, info)]) (success && applied))
      shared := by
  have index : publishedIndex shared.interfaces nicName =
      info.ifindex.toInt32 := by
    rw [publishedIndex, invariant.published, getIfindexByIfname_of_mem member]
  have outcome : (applyInterface policy spec prog nicName).Meets
      managerHandler (· = ·) NoDetach
      (OpenOutcome nicName prog spec (policy.selects nicName) shared)
      shared := by
    unfold applyInterface
    split
    · rename_i selected
      rw [selected]
      exact attachFilter_open_meets nicName shared unaddressable
        invariant.loaded
    · rename_i unselected
      rw [Bool.not_eq_true] at unselected
      rw [unselected]
      exact detachFilter_open_meets nicName prog shared unaddressable
  refine outcome.mono (fun _ _ made => made) ?_
  intro applied env call
  refine ⟨call.interfaces.trans invariant.published,
    call.programs ▸ invariant.loaded, ?_⟩
  intro succeeded other otherInfo otherMember selected
  simp only [Bool.and_eq_true] at succeeded
  rcases List.mem_append.mp otherMember with old | new
  · exact (invariant.installed succeeded.1 other otherInfo old
      selected).kept call.kept
  · simp only [List.mem_singleton, Prod.mk.injEq] at new
    obtain ⟨rfl, rfl⟩ := new
    rw [← index]
    exact call.reached succeeded.2 selected

theorem passAgrees_of_unaddressable {system : InterfaceSystem}
    {entries : List IfAddrs} {policy : PolicyType} {spec : AttachSpec}
    (unaddressable : spec.opts.addressable = false) :
    PassAgrees system entries policy spec := by
  intro prog request shared outcomes success final trace start completed
  obtain ⟨rest, bodyTrace, bodyRun, rfl⟩ := pass_run start completed
  have meets : (passBody request (policy, spec, prog)
      shared.interfaces).Meets managerHandler (· = ·) NoDetach
      (fun success final => success = true → ∀ label info,
        (label, info) ∈ shared.interfaces → policy.selects label = true →
        Installed spec prog.progId info.ifindex.toInt32 final.kernel)
      shared := by
    refine Program.Meets.bind (fun _ => rfl)
      (applyInterfaces_rule (fun _ => rfl)
        (fun _ _ _ _ held same => same ▸ held)
        (fun _ _ _ _ _ member held =>
          applyInterface_keeps_openInvariant unaddressable member held)
        [] shared.interfaces.items (fun _ member => member) true shared
         ⟨rfl, start.loaded, by simp⟩) ?_
    intro isApplySuccess env invariant
    refine (finishPass_meets (fun _ => True) prog.fd
      request isApplySuccess env (fun _ _ _ _ => by simp) ?_ ?_).restrict
      (fun first second (same : first = second) =>
        same ▸ SameView.refl first)
    · intro succeeded last view _ label info member selected
      apply (invariant.installed succeeded label info member selected).kept
      exact filtersKept_of_eq (funext fun slot => view.2.2 slot trivial)
    · intro _ _ _ contradiction
      cases contradiction
  obtain ⟨reached, traced⟩ := meets.run bodyRun
  refine ⟨?_, reached⟩
  rintro ⟨slot, _, detached⟩
  obtain ⟨_, _, _, noDetach, _⟩ :=
    traced _ (mem_bodyTrace detached (by simp) (by simp))
  exact noDetach _ _ rfl

/-- The kernel answers faithfully; the picked address plays no role. -/
def answersFaithfully : TcOutcome := .faithful ⟨1, 1⟩

theorem attachFilter_run {nicName : String} {prog : BpfProgram}
    {spec : AttachSpec} {shared : Shared} {index : UInt32}
    (addressable : spec.opts.addressable = true)
    (published : (getIfindexByIfname shared.interfaces nicName).1 = index)
    (usable : 0 < index.toInt32)
    (loaded : shared.kernel.program prog.fd = some prog.progId)
    (vacant : shared.kernel.filter (spec.slot index.toInt32) = none) :
    ∃ outcomes final trace,
      (attachFilter nicName prog spec).run managerHandler shared outcomes =
        some (true, final, trace) ∧
      Attaches (spec.slot index.toInt32) trace ∧
      final.interfaces = shared.interfaces ∧
      final.kernel.filter (spec.slot index.toInt32) = some prog.progId := by
  have fixed : (spec.opts.handle ≠ 0 ∧ spec.opts.priority ≠ 0) ∧
      ¬65535 < spec.opts.priority := by
    obtain ⟨nonzero, bounded⟩ := TcOpts.addressable_iff.mp addressable
    exact ⟨nonzero, UInt32.not_lt.mpr bounded⟩
  have positive : ¬index.toInt32 ≤ 0 := Int32.not_le.mpr usable
  -- whether the qdisc exists or is created, the call goes on with it
  obtain ⟨hooked, rc, created, notFailed, sameFilter, samePrograms,
    secured⟩ := shared.kernel.exists_hookCreate (spec.hook index.toInt32)
      ⟨1, 1⟩
  have stillVacant :
      hooked.filter ⟨spec.hook index.toInt32, spec.opts⟩ = none := by
    rw [sameFilter]
    exact vacant
  have stillLoaded : hooked.program prog.fd = some prog.progId := by
    rw [samePrograms]
    exact loaded
  have queried : hooked.query (spec.hook index.toInt32) spec.opts
      (.faithful ⟨1, 1⟩) = some (hooked, -eNOENT, 0) := by
    simp [TcKernel.query, addressable, secured, stillVacant]
  have attached : hooked.attach (spec.hook index.toInt32) spec.opts prog.fd
      false (.faithful ⟨1, 1⟩) = some
        (hooked.install (spec.slot index.toInt32) prog.progId secured, 0) := by
    simp [TcKernel.attach, fixed, secured, stillLoaded,
      TcKernel.attachAddress, stillVacant, AttachSpec.slot]
  have completed : (attachFilter nicName prog spec).run managerHandler shared
      (List.replicate 5 answersFaithfully) = some (true,
        Shared.mk shared.attachers shared.interfaces shared.applyRequests
          (hooked.install (spec.slot index.toInt32) prog.progId secured),
        [⟨.getIfindexByIfname nicName, index⟩,
          ⟨.tcHookCreate (spec.hook index.toInt32), rc⟩,
          ⟨.getIfindexByIfname nicName, index⟩,
          ⟨.tcQuery (spec.hook index.toInt32) spec.opts, (-eNOENT, 0)⟩,
          ⟨.tcAttach (spec.hook index.toInt32) spec.opts prog.fd false,
            (0 : Int)⟩]) := by
    simp [attachFilter, queryFilter, Program.run, managerHandler, published,
      positive, List.replicate, answersFaithfully, created, notFailed,
      queried, attached, classifyQuery]
  refine ⟨_, _, _, completed, ⟨prog.fd, false, ?_⟩, rfl, ?_⟩
  · simp [AttachSpec.slot]
  · exact TcKernel.install_same _ _ _ secured

theorem detachFilter_run {nicName : String} {prog : BpfProgram}
    {spec : AttachSpec} {shared : Shared} {index : UInt32}
    (addressable : spec.opts.addressable = true)
    (published : (getIfindexByIfname shared.interfaces nicName).1 = index)
    (usable : 0 < index.toInt32)
    (occupied : shared.kernel.filter (spec.slot index.toInt32) =
      some prog.progId) :
    ∃ outcomes final trace,
      (detachFilter nicName prog spec).run managerHandler shared outcomes =
        some (true, final, trace) ∧
      Detaches (spec.slot index.toInt32) trace := by
  have positive : ¬index.toInt32 ≤ 0 := Int32.not_le.mpr usable
  have occupied : shared.kernel.filter
      ⟨spec.hook index.toInt32, spec.opts⟩ = some prog.progId := occupied
  have secured : shared.kernel.clsact (spec.hook index.toInt32).ifindex =
      true := shared.kernel.hooked _ (by rw [occupied]; simp)
  have queried : shared.kernel.query (spec.hook index.toInt32) spec.opts
      answersFaithfully = some (shared.kernel, 0, prog.progId) := by
    simp [TcKernel.query, answersFaithfully, addressable, secured, occupied]
  have detached : shared.kernel.detach (spec.hook index.toInt32) spec.opts
      answersFaithfully =
        some (shared.kernel.remove (spec.slot index.toInt32), 0) := by
    simp [TcKernel.detach, answersFaithfully, addressable, secured, occupied,
      AttachSpec.slot]
  have completed : (detachFilter nicName prog spec).run managerHandler shared
      (List.replicate 4 answersFaithfully) = some (true,
        Shared.mk shared.attachers shared.interfaces shared.applyRequests
          (shared.kernel.remove (spec.slot index.toInt32)),
        [⟨.getIfindexByIfname nicName, index⟩,
          ⟨.tcQuery (spec.hook index.toInt32) spec.opts, (0, prog.progId)⟩,
          ⟨.getIfindexByIfname nicName, index⟩,
          ⟨.tcDetach (spec.hook index.toInt32) spec.opts, (0 : Int)⟩]) := by
    simp [detachFilter, queryFilter, Program.run, managerHandler, published,
      positive, List.replicate, queried, detached, classifyQuery, eNOENT,
      eINVAL]
  refine ⟨_, _, _, completed, ?_⟩
  simp [Detaches, AttachSpec.slot]

/-- Every operation after the reads of a pass can be answered, if only by a
failure. -/
theorem bodyOp_enabled (spec : AttachSpec) (prog : BpfProgram) (id : Nat)
    (shared : Shared) (operation : ManagerOp)
    (made : BodyOp spec prog id operation) :
    ∃ outcome after answer,
      managerHandler.answer shared operation outcome =
        some (after, answer) := by
  refine ⟨.failing (-1), ?_⟩
  cases operation with
  | getAttacher other => exact made.elim
  | snapshot => exact made.elim
  | getIfindexByIfname nicName => exact ⟨_, _, rfl⟩
  | tcHookCreate hook => exact ⟨_, _, rfl⟩
  | tcQuery hook opts => exact ⟨_, _, rfl⟩
  | tcAttach hook opts progFd replace => exact ⟨_, _, rfl⟩
  | tcDetach hook opts => exact ⟨_, _, rfl⟩
  | appendApplyRequest request => exact ⟨_, _, rfl⟩

/-- The loop attaches for one label and detaches for the next one. -/
theorem passBody_fights {policy : PolicyType} {spec : AttachSpec}
    {prog : BpfProgram} {request : ApplyRequest} {shared : Shared}
    {left right : String} {leftInfo rightInfo : InterfaceInfo}
    {rest : List (String × InterfaceInfo)}
    (addressable : spec.opts.addressable = true)
    (order : shared.interfaces.items =
      (left, leftInfo) :: (right, rightInfo) :: rest)
    (sameIndex : rightInfo.ifindex = leftInfo.ifindex)
    (usable : 0 < leftInfo.ifindex.toInt32)
    (selected : policy.selects left = true)
    (unselected : policy.selects right = false)
    (loaded : shared.kernel.program prog.fd = some prog.progId)
    (vacant : shared.kernel.filter
      (spec.slot leftInfo.ifindex.toInt32) = none) :
    ∃ outcomes success final trace,
      (passBody request (policy, spec, prog) shared.interfaces).run
        managerHandler shared outcomes = some (success, final, trace) ∧
      Fights prog.progId trace := by
  have leftMember : (left, leftInfo) ∈ shared.interfaces := by
    simp [Keyed.mem_def, order]
  have rightMember : (right, rightInfo) ∈ shared.interfaces := by
    simp [Keyed.mem_def, order]
  obtain ⟨leftOutcomes, middle, leftTrace, leftRun, attaches,
    sameInterfaces, occupied⟩ := attachFilter_run addressable
      (getIfindexByIfname_of_mem leftMember) usable loaded vacant
  have rightPublished : (getIfindexByIfname middle.interfaces right).1 =
      leftInfo.ifindex := by
    rw [sameInterfaces, getIfindexByIfname_of_mem rightMember, sameIndex]
  obtain ⟨rightOutcomes, later, rightTrace, rightRun, detaches⟩ :=
    detachFilter_run addressable rightPublished usable occupied
  obtain ⟨restOutcomes, ⟨success, afterLoop, restTrace⟩, restRun⟩ :=
    Program.run_completes (bodyOp_enabled spec prog request.id)
      (applyInterfaces_uses policy request.id rest true) later
  obtain ⟨lastOutcomes, ⟨result, final, lastTrace⟩, lastRun⟩ :=
    Program.run_completes (bodyOp_enabled spec prog request.id)
      (finishPass_uses request success) afterLoop
  have loop : (applyInterfaces policy spec prog shared.interfaces.items
      true).run managerHandler shared
        (leftOutcomes ++ (rightOutcomes ++ restOutcomes)) =
      some (success, afterLoop, leftTrace ++ (rightTrace ++ restTrace)) := by
    rw [order]
    simp only [applyInterfaces, applyInterface, selected, unselected,
      Bool.false_eq_true, if_true, if_false]
    exact Program.run_bind_of_run leftRun
      (Program.run_bind_of_run rightRun restRun)
  have body : (passBody request (policy, spec, prog)
      shared.interfaces).run managerHandler shared _ = some _ :=
    Program.run_bind_of_run loop lastRun
  refine ⟨_, _, _, _, body, spec.slot leftInfo.ifindex.toInt32, Or.inl ?_, ?_⟩
  · obtain ⟨progFd, replace, member⟩ := attaches
    exact ⟨progFd, replace, by simp [member]⟩
  · simp only [Detaches, List.mem_append] at detaches ⊢
    exact Or.inl (Or.inr (Or.inl detaches))

/-- A container can be iterated with any two of its items in front. -/
theorem exists_order_with_front {α : Type} {left right : α} {items : List α}
    (leftMember : left ∈ items) (rightMember : right ∈ items)
    (different : right ≠ left) :
    ∃ rest, (left :: right :: rest).Perm items := by
  obtain ⟨before, after, rfl⟩ := List.append_of_mem leftMember
  have remaining : right ∈ before ++ after := by
    simpa [different] using rightMember
  obtain ⟨first, last, split⟩ := List.append_of_mem remaining
  refine ⟨first ++ last, ?_⟩
  have rightFront : (right :: (first ++ last)).Perm (before ++ after) := by
    rw [split]
    exact List.perm_middle.symm
  exact (rightFront.cons left).trans List.perm_middle.symm

def freshShared (policy : PolicyType) (spec : AttachSpec)
    (interfaces : InterfaceMap) : Shared where
  attachers :=
    [{ id := 0
       prog := sampleProgram
       attachSpec := spec
       policySnapshot := policy }]
  interfaces := interfaces
  applyRequests := Keyed.empty
  kernel := sampleKernel

theorem freshShared_passStart {system : InterfaceSystem}
    {entries : List IfAddrs} {policy : PolicyType} {spec : AttachSpec}
    {interfaces : InterfaceMap}
    (snapshot : interfaces.items.Perm (processEntries system entries).items) :
    PassStart system entries policy spec sampleProgram
      (ApplyRequest.fresh 0 0) (freshShared policy spec interfaces) where
  attacher := ⟨_, rfl, rfl, rfl, rfl⟩
  accepted := by decide
  loaded := rfl
  snapshot := snapshot

/-- The body of a pass, preceded by its reads. -/
theorem pass_run_of_body {system : InterfaceSystem} {entries : List IfAddrs}
    {policy : PolicyType} {spec : AttachSpec} {prog : BpfProgram}
    {request : ApplyRequest} {shared : Shared} {outcomes : List TcOutcome}
    {success : Bool} {final : Shared} {bodyTrace : ManagerTrace}
    (start : PassStart system entries policy spec prog request shared)
    (bodyRun : (passBody request (policy, spec, prog) shared.interfaces).run
      managerHandler shared outcomes = some (success, final, bodyTrace)) :
    (applyTargetsPolicyPerAttacher request).run managerHandler shared
      (answersFaithfully :: answersFaithfully :: outcomes) =
        some (success, final,
          ⟨.getAttacher request.id, (policy, spec, prog)⟩ ::
          ⟨.snapshot, shared.interfaces⟩ :: bodyTrace) := by
  obtain ⟨attacher, found, rfl, rfl, rfl⟩ := start.attacher
  have read : managerHandler.answer shared (.getAttacher request.id)
      answersFaithfully = some (shared, attacher.getTargets,
        attacher.attachSpec, attacher.prog) := by
    simp [managerHandler, found]
  have snapshot : managerHandler.answer shared .snapshot answersFaithfully =
      some (shared, shared.interfaces) := rfl
  simp only [applyTargetsPolicyPerAttacher, Program.run, read, snapshot,
    Option.bind_some, Attacher.getTargets, bodyRun, Option.map_some]

theorem toInt32_pos {index : UInt32} (bound : index.toNat < 2 ^ 31)
    (nonzero : index ≠ 0) : 0 < index.toInt32 := by
  have positive : index.toNat ≠ 0 := fun zero =>
    nonzero (UInt32.toNat.inj zero)
  have same : index.toInt32.toInt = index.toNat := by
    have bits : index.toInt32.toInt = index.toBitVec.toInt := rfl
    have value : index.toBitVec.toNat = index.toNat := rfl
    rw [bits, BitVec.toInt_eq_toNat_cond]
    split <;> omega
  rw [Int32.lt_iff_toInt_lt, same, Int32.toInt_zero]
  omega

theorem labelsAlike_of_passAgrees {system : InterfaceSystem}
    {entries : List IfAddrs} {policy : PolicyType} {spec : AttachSpec}
    (indexes : ∀ label, (system.ifNametoindex label).toNat < 2 ^ 31)
    (addressable : spec.opts.addressable = true)
    (agrees : PassAgrees system entries policy spec) :
    LabelsAlike system entries policy := by
  -- it is enough to refute one selected and one unselected label
  suffices noFight : ∀ left right, Registered system entries left →
      Registered system entries right →
      system.ifNametoindex left = system.ifNametoindex right →
      policy.selects left = true → policy.selects right = true by
    intro left right leftRegistered rightRegistered same
    rw [Bool.eq_iff_iff]
    exact ⟨noFight left right leftRegistered rightRegistered same,
      noFight right left rightRegistered leftRegistered same.symm⟩
  intro left right leftRegistered rightRegistered same selected
  by_contra unselected
  rw [Bool.not_eq_true] at unselected
  obtain ⟨indexed, names⟩ := processEntries_names system entries
  obtain ⟨leftInfo, leftMember⟩ := (names left).mpr leftRegistered
  obtain ⟨rightInfo, rightMember⟩ := (names right).mpr rightRegistered
  have leftIndex := indexed left leftInfo leftMember
  have rightIndex := indexed right rightInfo rightMember
  have different : (right, rightInfo) ≠ (left, leftInfo) := by
    intro equal
    rw [(Prod.mk.inj equal).1, selected] at unselected
    cases unselected
  obtain ⟨rest, permuted⟩ :=
    exists_order_with_front leftMember rightMember different
  have usable : 0 < leftInfo.ifindex.toInt32 := by
    rw [leftIndex]
    exact toInt32_pos (indexes left) leftRegistered.2.1
  let shared := freshShared policy spec
    ((processEntries system entries).reorder _ permuted)
  have start : PassStart system entries policy spec sampleProgram
      (ApplyRequest.fresh 0 0) shared := freshShared_passStart permuted
  have order : shared.interfaces.items =
      (left, leftInfo) :: (right, rightInfo) :: rest := rfl
  obtain ⟨outcomes, success, final, trace, bodyRun, slot, attached,
    detached⟩ := passBody_fights addressable order
      (rightIndex.trans (same.symm.trans leftIndex.symm)) usable selected
      unselected start.loaded rfl
  obtain ⟨noFight, _⟩ := agrees _ _ _ _ _ _ _ start
    (pass_run_of_body start bodyRun)
  refine noFight ⟨slot, ?_, ?_⟩
  · rcases attached with ⟨progFd, replace, member⟩ |
      ⟨rc, nicName, index, goesOn, infixed⟩
    · exact Or.inl ⟨progFd, replace,
        List.mem_cons_of_mem _ (List.mem_cons_of_mem _ member)⟩
    · exact Or.inr ⟨rc, nicName, index, goesOn,
        infixed.trans (List.infix_cons (List.infix_cons List.infix_rfl))⟩
  · exact List.mem_cons_of_mem _ (List.mem_cons_of_mem _ detached)

/-- Linux gives positive indexes which fit a signed integer.  Under that
assumption passes agree with themselves exactly when the labels of one index
are selected alike, or nothing can be detached. -/
theorem passAgrees_iff {system : InterfaceSystem}
    (indexes : ∀ label, (system.ifNametoindex label).toNat < 2 ^ 31)
    (entries : List IfAddrs) (policy : PolicyType) (spec : AttachSpec) :
    PassAgrees system entries policy spec ↔
      spec.opts.addressable = false ∨ LabelsAlike system entries policy := by
  constructor
  · intro agrees
    cases addressable : spec.opts.addressable with
    | false => exact Or.inl rfl
    | true =>
        exact Or.inr (labelsAlike_of_passAgrees indexes addressable agrees)
  · rintro (unaddressable | alike)
    · exact passAgrees_of_unaddressable unaddressable
    · cases addressable : spec.opts.addressable with
      | false => exact passAgrees_of_unaddressable addressable
      | true => exact passAgrees_of_labelsAlike addressable alike

/-- A host with one interface, whose aliases resolve to it. -/
def aliasSystem : InterfaceSystem where
  ifNametoindex label :=
    if label.toList.takeWhile (· ≠ ':') = "eth0".toList then 2 else 0
  hardwareAddress label :=
    if label.takeWhile (· ≠ 0x3A) = nameBytes "eth0" then
      some #v[2, 0, 0, 0, 0, 1]
    else none
  inetNtop address := if address = 0 then none else some "10.0.0.1"

def aliasEntry (label : String) : IfAddrs where
  name := label
  flags := 0
  addr := some ⟨.inet, 1⟩
  netmask := some ⟨.inet, 2⟩
  broadaddr := none

def aliasEntries : List IfAddrs := [aliasEntry "eth0:1", aliasEntry "eth0"]

def aliasPolicy : PolicyType := { policy := {"eth0"} }

theorem aliasSystem_indexes (label : String) :
    (aliasSystem.ifNametoindex label).toNat < 2 ^ 31 := by
  simp only [aliasSystem]
  split <;> decide

theorem passAgrees_iff_aliases :
    PassAgrees aliasSystem aliasEntries aliasPolicy {} ↔
      ({} : AttachSpec).opts.addressable = false ∨
        LabelsAlike aliasSystem aliasEntries aliasPolicy :=
  passAgrees_iff aliasSystem_indexes aliasEntries aliasPolicy {}

/-- The policy names `eth0`.  The pass attaches for `eth0`, detaches for
`eth0:1` in the same slot and returns true with the slot empty. -/
theorem alias_pass_fights :
    (((applyTargetsPolicyPerAttacher (.fresh 0 0)).run managerHandler
        (freshShared aliasPolicy {}
          (processEntries aliasSystem aliasEntries))
        (List.replicate 11 answersFaithfully)).map fun result =>
          (result.1,
            result.2.1.kernel.filter (({} : AttachSpec).slot 2),
            result.2.2.map Sigma.fst)) =
      some (true, none,
        [.getAttacher 0, .snapshot,
          .getIfindexByIfname "eth0", .tcHookCreate ⟨2, true⟩,
          .getIfindexByIfname "eth0", .tcQuery ⟨2, true⟩ ⟨1, 100⟩,
          .tcAttach ⟨2, true⟩ ⟨1, 100⟩ 3 false,
          .getIfindexByIfname "eth0:1", .tcQuery ⟨2, true⟩ ⟨1, 100⟩,
          .getIfindexByIfname "eth0:1", .tcDetach ⟨2, true⟩ ⟨1, 100⟩]) ∧
      ¬PassAgrees aliasSystem aliasEntries aliasPolicy {} := by
  constructor
  · decide +kernel
  · intro agrees
    have alike := labelsAlike_of_passAgrees aliasSystem_indexes rfl agrees
    have selected := alike "eth0" "eth0:1" (by decide +kernel)
      (by decide +kernel) (by decide +kernel)
    exact absurd selected (by decide +kernel)

end LibbpfControl.BpfTool
