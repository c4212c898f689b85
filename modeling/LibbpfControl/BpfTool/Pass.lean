import LibbpfControl.BpfTool.Filter

/-!
# What a pass establishes

The specification of one attach or detach call says how it may change the
slot of its interface, and that it changes no other slot.  The loop of a pass
is then followed with one invariant: the interfaces already handled are as
the policy wants them, as long as interfaces with the same index are wanted
alike.

Between two operations of a pass other threads may change attachers and the
queue, and the kernel may change in all slots which are not managed.  The
snapshot, the filters in managed slots and the program behind the descriptor
of the attacher stay as they are (`SameView`).
-/

namespace LibbpfControl.BpfTool

open NicCheck

/-- Two kernels with the same filters in managed slots and the same program
behind a descriptor. -/
def TcKernel.AgreeOn (managed : Slot → Prop) (fd : Int32)
    (first second : TcKernel) : Prop :=
  second.program fd = first.program fd ∧
    ∀ slot : Slot, managed slot →
      second.filter slot = first.filter slot

/-- Interference which keeps what the filter operations work on. -/
def SameView (managed : Slot → Prop) (fd : Int32) (first second : Shared) :
    Prop :=
  second.interfaces = first.interfaces ∧
    first.kernel.AgreeOn managed fd second.kernel

section SameView

variable {managed : Slot → Prop} {fd : Int32}

theorem TcKernel.AgreeOn.refl (kernel : TcKernel) :
    kernel.AgreeOn managed fd kernel :=
  ⟨rfl, fun _ _ => rfl⟩

theorem TcKernel.AgreeOn.trans {first second third : TcKernel}
    (left : first.AgreeOn managed fd second)
    (right : second.AgreeOn managed fd third) :
    first.AgreeOn managed fd third := by
  refine ⟨right.1.trans left.1, ?_⟩
  intro slot covered
  exact (right.2 slot covered).trans (left.2 slot covered)

theorem SameView.refl (shared : Shared) : SameView managed fd shared shared :=
  ⟨rfl, .refl _⟩

theorem SameView.trans (first second third : Shared)
    (left : SameView managed fd first second)
    (right : SameView managed fd second third) :
    SameView managed fd first third :=
  ⟨right.1.trans left.1, left.2.trans right.2⟩

/-- Interference replaces everything but the snapshot, and the kernel by one
which agrees with it. -/
theorem SameView.shape {first second : Shared}
    (view : SameView managed fd first second) :
    ∃ attachers applyRequests kernel,
      second = Shared.mk attachers first.interfaces applyRequests kernel ∧
      first.kernel.AgreeOn managed fd kernel := by
  obtain ⟨attachers, interfaces, applyRequests, kernel⟩ := second
  obtain ⟨sameInterfaces, agree⟩ := view
  dsimp only at sameInterfaces agree
  subst sameInterfaces
  exact ⟨attachers, applyRequests, kernel, rfl, agree⟩

end SameView

/-- The slot holds the program exactly when it is wanted there. -/
def SlotAsWanted (kernel : TcKernel) (slot : Slot) (progId : UInt32)
    (wanted : Bool) : Prop :=
  kernel.filter slot = some progId ↔ wanted = true

/-- What a call on one interface may do to the kernel. -/
structure SlotCall (managed : Slot → Prop) (fd : Int32) (slot : Slot)
    (progId : UInt32) (wanted : Bool)
    (before : TcKernel) (success : Bool) (after : TcKernel) : Prop where
  frame : ∀ other : Slot, managed other → other ≠ slot →
    after.filter other = before.filter other
  programs : after.program fd = before.program fd
  stable : SlotAsWanted before slot progId wanted →
    SlotAsWanted after slot progId wanted
  reached : success = true → SlotAsWanted after slot progId wanted

section SlotCall

variable {managed : Slot → Prop} {fd : Int32} {slot : Slot}
  {progId : UInt32} {wanted success : Bool} {before middle after : TcKernel}

theorem SlotCall.unchanged (covered : managed slot)
    (agree : before.AgreeOn managed fd after)
    (reached : success = true → SlotAsWanted before slot progId wanted) :
    SlotCall managed fd slot progId wanted before success after where
  frame other otherCovered _ := agree.2 other otherCovered
  programs := agree.1
  stable asWanted := by
    rw [SlotAsWanted, agree.2 slot covered]
    exact asWanted
  reached succeeded := by
    rw [SlotAsWanted, agree.2 slot covered]
    exact reached succeeded

/-- Interference before and after a call is not visible in its effect. -/
theorem SlotCall.interfere {later : TcKernel}
    (covered : managed slot)
    (earlier : before.AgreeOn managed fd middle)
    (call : SlotCall managed fd slot progId wanted middle success after)
    (agree : after.AgreeOn managed fd later) :
    SlotCall managed fd slot progId wanted before success later where
  frame other otherCovered different :=
    (agree.2 other otherCovered).trans
      ((call.frame other otherCovered different).trans
        (earlier.2 other otherCovered))
  programs := agree.1.trans (call.programs.trans earlier.1)
  stable asWanted := by
    rw [SlotAsWanted, agree.2 slot covered]
    apply call.stable
    rw [SlotAsWanted, earlier.2 slot covered]
    exact asWanted
  reached succeeded := by
    rw [SlotAsWanted, agree.2 slot covered]
    exact call.reached succeeded

end SlotCall

/-- The index which the loader publishes for a name, as the signed integer
the manager works with. -/
def publishedIndex (interfaces : InterfaceMap) (nicName : String) : Int32 :=
  (getIfindexByIfname interfaces nicName).1.toInt32

/-- The operations which a call on the interface with index `ifindex` makes
on the kernel. -/
def InterfaceOp (wanted : Bool) (spec : AttachSpec) (ifindex : Int32) :
    ManagerOp → Prop
  | .getIfindexByIfname _ => True
  | .tcHookCreate hook => wanted = true ∧ hook = spec.hook ifindex
  | .tcQuery hook opts => hook = spec.hook ifindex ∧ opts = spec.opts
  | .tcAttach hook opts _ _ =>
      wanted = true ∧ hook = spec.hook ifindex ∧ opts = spec.opts
  | .tcDetach hook opts =>
      wanted = false ∧ hook = spec.hook ifindex ∧ opts = spec.opts
  | .getAttacher _ => False
  | .snapshot => False
  | .appendApplyRequest _ => False

/-- The state a query reports agrees with the kernel. -/
structure QueryReports (kernel : TcKernel) (slot : Slot)
    (prog : BpfProgram) (result : FilterQueryResult) : Prop where
  ours : result.state = .ourProgram → kernel.filter slot = some prog.progId
  absent : result.state ≠ .ourProgram → result.state ≠ .error →
    kernel.filter slot ≠ some prog.progId

theorem QueryReports.congr {first second : TcKernel} {slot : Slot}
    {prog : BpfProgram} {result : FilterQueryResult}
    (reports : QueryReports second slot prog result)
    (same : second.filter slot = first.filter slot) :
    QueryReports first slot prog result := by
  constructor
  · intro state
    rw [← same]
    exact reports.ours state
  · intro notOurs notError
    rw [← same]
    exact reports.absent notOurs notError

theorem classifyQuery_reports {kernel after : TcKernel} {spec : AttachSpec}
    {ifindex : Int32} {outcome : TcOutcome} {answer : Int × UInt32}
    (prog : BpfProgram) (addressable : spec.opts.addressable = true)
    (answered : kernel.query (spec.hook ifindex) spec.opts outcome =
      some (after, answer)) :
    after = kernel ∧
      QueryReports kernel (spec.slot ifindex) prog
        (classifyQuery prog answer) := by
  cases outcome with
  | failing error =>
      simp only [TcKernel.query] at answered
      split at answered
      · cases answered
      · rename_i other
        simp only [Option.some.injEq, Prod.mk.injEq] at answered
        obtain ⟨rfl, rfl⟩ := answered
        simp only [not_or] at other
        refine ⟨rfl, ?_⟩
        constructor <;> simp [classifyQuery, other.1, other.2.1, other.2.2]
  | faithful pick =>
      simp only [TcKernel.query, addressable, Bool.true_and] at answered
      by_cases hooked : kernel.clsact (spec.hook ifindex).ifindex = true
      · simp only [hooked, if_true] at answered
        cases content : kernel.filter ⟨spec.hook ifindex, spec.opts⟩ with
        | none =>
            simp only [content, Option.some.injEq, Prod.mk.injEq] at answered
            obtain ⟨rfl, rfl⟩ := answered
            refine ⟨rfl, ?_⟩
            constructor <;> simp [classifyQuery, AttachSpec.slot, content]
        | some progId =>
            simp only [content, Option.some.injEq, Prod.mk.injEq] at answered
            obtain ⟨rfl, rfl⟩ := answered
            refine ⟨rfl, ?_⟩
            by_cases same : progId = prog.progId <;>
              constructor <;>
              simp [classifyQuery, AttachSpec.slot, content, same, eNOENT,
                eINVAL]
      · simp only [hooked, Bool.false_eq_true, if_false, Option.some.injEq,
          Prod.mk.injEq] at answered
        obtain ⟨rfl, rfl⟩ := answered
        refine ⟨rfl, ?_⟩
        have vacant : kernel.filter (spec.slot ifindex) = none := by
          by_contra occupied
          exact hooked (kernel.hooked _ occupied)
        constructor <;> simp [classifyQuery, vacant, eNOENT, eINVAL]

section Calls

variable {managed : Slot → Prop} {nicName : String} {prog : BpfProgram}
  {spec : AttachSpec}

theorem queryFilter_meets (wanted : Bool) (shared : Shared)
    (addressable : spec.opts.addressable = true)
    (covered : managed
      (spec.slot (publishedIndex shared.interfaces nicName))) :
    (queryFilter nicName prog spec).Meets managerHandler
      (SameView managed prog.fd)
      (fun _ => InterfaceOp wanted spec
        (publishedIndex shared.interfaces nicName))
      (fun result final => SameView managed prog.fd shared final ∧
        QueryReports shared.kernel
          (spec.slot (publishedIndex shared.interfaces nicName)) prog result)
      shared := by
  intro first firstView
  obtain ⟨attachers, applyRequests, kernel, rfl, agree⟩ := firstView.shape
  refine ⟨trivial, ?_⟩
  intro choice after index answered
  simp only [managerHandler, Option.some.injEq] at answered
  obtain ⟨rfl, rfl⟩ := answered
  dsimp only
  split
  · intro final finalView
    exact ⟨firstView.trans _ _ _ finalView, by constructor <;> simp⟩
  · intro second secondView
    obtain ⟨attachers, applyRequests, queriedKernel, rfl, secondAgree⟩ :=
      secondView.shape
    refine ⟨⟨rfl, rfl⟩, ?_⟩
    intro choice after answer answered
    simp only [managerHandler, Option.map_eq_some_iff] at answered
    obtain ⟨⟨sameKernel, queried⟩, query, rfl, rfl⟩ := answered
    obtain ⟨unchanged, reports⟩ :=
      classifyQuery_reports prog addressable query
    subst unchanged
    intro final finalView
    refine ⟨(firstView.trans _ _ _ secondView).trans _ _ _ finalView, ?_⟩
    exact reports.congr ((agree.trans secondAgree).2 _ covered)

/-- A call on an interface changes its own slot towards what is wanted and
nothing else. -/
def CallOutcome (managed : Slot → Prop) (nicName : String)
    (prog : BpfProgram) (spec : AttachSpec) (wanted : Bool) (start : Shared)
    (success : Bool) (final : Shared) : Prop :=
  final.interfaces = start.interfaces ∧
    SlotCall managed prog.fd
      (spec.slot (publishedIndex start.interfaces nicName))
      prog.progId wanted start.kernel success final.kernel

theorem CallOutcome.unchanged {wanted success : Bool} {start final : Shared}
    (covered : managed
      (spec.slot (publishedIndex start.interfaces nicName)))
    (view : SameView managed prog.fd start final)
    (reached : success = true → SlotAsWanted start.kernel
      (spec.slot (publishedIndex start.interfaces nicName))
      prog.progId wanted) :
    CallOutcome managed nicName prog spec wanted start success final :=
  ⟨view.1, .unchanged covered view.2 reached⟩

/-- The end of `attach_filter`, after the query. -/
theorem attachQueried_meets {start shared : Shared}
    {query : FilterQueryResult}
    (addressable : spec.opts.addressable = true)
    (covered : managed
      (spec.slot (publishedIndex start.interfaces nicName)))
    (loaded : start.kernel.program prog.fd = some prog.progId)
    (view : SameView managed prog.fd start shared)
    (reports : QueryReports start.kernel
      (spec.slot (publishedIndex start.interfaces nicName)) prog query) :
    (if query.state = .ourProgram then return true
      else if query.state = .error then return false
      else
        .call (.tcAttach (spec.hook (publishedIndex start.interfaces nicName))
            spec.opts prog.fd (decide (query.state = .otherProgram)))
          fun rc : Int => .done (decide (rc = 0)) :
        ManagerProgram Bool).Meets managerHandler (SameView managed prog.fd)
      (fun _ => InterfaceOp true spec
        (publishedIndex start.interfaces nicName))
      (CallOutcome managed nicName prog spec true start) shared := by
  have unchanged : ∀ {final : Shared} {success : Bool},
      SameView managed prog.fd shared final →
      (success = true → query.state = .ourProgram) →
      CallOutcome managed nicName prog spec true start success final := by
    intro final success finalView attached
    apply CallOutcome.unchanged covered (view.trans _ _ _ finalView)
    intro succeeded
    simp [SlotAsWanted, reports.ours (attached succeeded)]
  split
  · rename_i ours
    intro final finalView
    exact unchanged finalView (fun _ => ours)
  · rename_i notOurs
    split
    · intro final finalView
      exact unchanged finalView (by simp)
    · intro second secondView
      obtain ⟨attachers, applyRequests, kernel, rfl, agree⟩ :=
        secondView.shape
      refine ⟨⟨rfl, rfl, rfl⟩, ?_⟩
      intro choice after rc answered
      simp only [managerHandler, Option.map_eq_some_iff] at answered
      obtain ⟨⟨changed, code⟩, attached, rfl, rfl⟩ := answered
      intro final finalView
      have earlier := view.2.trans agree
      rcases TcKernel.attach_effect addressable attached with
        ⟨rfl, progId, secured, behindFd, rfl⟩ | ⟨failed, rfl⟩
      · -- the slot now holds the program behind our descriptor
        have sameProgram : progId = prog.progId := by
          rw [earlier.1, loaded] at behindFd
          exact (Option.some.inj behindFd).symm
        have call : SlotCall managed prog.fd
            (spec.slot (publishedIndex start.interfaces nicName))
            prog.progId true kernel true
            (kernel.install ⟨spec.hook (publishedIndex start.interfaces
              nicName), spec.opts⟩ progId secured) := by
          refine ⟨?_, rfl, ?_, ?_⟩
          · intro other _ different
            exact TcKernel.install_other _ _ secured different
          · intro _
            simp [SlotAsWanted, AttachSpec.slot, sameProgram]
          · intro _
            simp [SlotAsWanted, AttachSpec.slot, sameProgram]
        exact ⟨finalView.1.trans view.1,
          call.interfere covered earlier finalView.2⟩
      · exact unchanged (secondView.trans _ _ _ finalView) (by simp [failed])

theorem attachFilter_meets (shared : Shared)
    (addressable : spec.opts.addressable = true)
    (covered : managed
      (spec.slot (publishedIndex shared.interfaces nicName)))
    (loaded : shared.kernel.program prog.fd = some prog.progId) :
    (attachFilter nicName prog spec).Meets managerHandler
      (SameView managed prog.fd)
      (fun _ => InterfaceOp true spec
        (publishedIndex shared.interfaces nicName))
      (CallOutcome managed nicName prog spec true shared) shared := by
  intro first firstView
  obtain ⟨attachers, applyRequests, kernel, rfl, agree⟩ := firstView.shape
  refine ⟨trivial, ?_⟩
  intro choice after index answered
  simp only [managerHandler, Option.some.injEq] at answered
  obtain ⟨rfl, rfl⟩ := answered
  dsimp only
  split
  · intro final finalView
    exact CallOutcome.unchanged covered (firstView.trans _ _ _ finalView)
      (by simp)
  · intro second secondView
    obtain ⟨attachers, applyRequests, kernel, rfl, secondAgree⟩ :=
      secondView.shape
    refine ⟨⟨rfl, rfl⟩, ?_⟩
    intro choice after rc answered
    simp only [managerHandler, Option.map_eq_some_iff] at answered
    obtain ⟨⟨hooked, code⟩, created, rfl, rfl⟩ := answered
    obtain ⟨sameFilter, samePrograms, _⟩ :=
      TcKernel.hookCreate_effect created
    -- creating the qdisc is no change of the filters
    have hookedView : SameView managed prog.fd shared
        (Shared.mk attachers shared.interfaces applyRequests hooked) := by
      refine ⟨rfl, (agree.trans secondAgree).trans ⟨?_, ?_⟩⟩
      · rw [samePrograms]
      · intro slot _
        rw [sameFilter]
    dsimp only
    split
    · intro final finalView
      exact CallOutcome.unchanged covered (hookedView.trans _ _ _ finalView)
        (by simp)
    · refine Program.Meets.bind SameView.refl
        (queryFilter_meets true _ addressable covered) ?_
      intro query env queried
      obtain ⟨view, reports⟩ := queried
      apply attachQueried_meets addressable covered loaded
        (hookedView.trans _ _ _ view)
      exact reports.congr (hookedView.2.2 _ covered)

theorem detachFilter_meets (shared : Shared)
    (addressable : spec.opts.addressable = true)
    (covered : managed
      (spec.slot (publishedIndex shared.interfaces nicName))) :
    (detachFilter nicName prog spec).Meets managerHandler
      (SameView managed prog.fd)
      (fun _ => InterfaceOp false spec
        (publishedIndex shared.interfaces nicName))
      (CallOutcome managed nicName prog spec false shared) shared := by
  refine Program.Meets.bind SameView.refl
    (queryFilter_meets false shared addressable covered) ?_
  intro query env queried
  obtain ⟨view, reports⟩ := queried
  obtain ⟨attachers, applyRequests, kernel, rfl, agree⟩ := view.shape
  split
  · intro final finalView
    exact CallOutcome.unchanged covered (view.trans _ _ _ finalView) (by simp)
  · rename_i notError
    split
    · rename_i notOurs
      intro final finalView
      apply CallOutcome.unchanged covered (view.trans _ _ _ finalView)
      intro _
      simpa [SlotAsWanted] using reports.absent notOurs notError
    · intro first firstView
      have firstView := view.trans _ _ _ firstView
      obtain ⟨attachers, applyRequests, kernel, rfl, agree⟩ :=
        firstView.shape
      refine ⟨trivial, ?_⟩
      intro choice after index answered
      simp only [managerHandler, Option.some.injEq] at answered
      obtain ⟨rfl, rfl⟩ := answered
      dsimp only
      split
      · intro final finalView
        exact CallOutcome.unchanged covered (firstView.trans _ _ _ finalView)
          (by simp)
      · intro second secondView
        have secondView := firstView.trans _ _ _ secondView
        obtain ⟨attachers, applyRequests, kernel, rfl, agree⟩ :=
          secondView.shape
        refine ⟨⟨rfl, rfl, rfl⟩, ?_⟩
        intro choice after rc answered
        simp only [managerHandler, Option.map_eq_some_iff] at answered
        obtain ⟨⟨changed, code⟩, detached, rfl, rfl⟩ := answered
        intro final finalView
        rcases TcKernel.detach_effect detached with
          ⟨rfl, rfl⟩ | ⟨rfl, vacant, rfl⟩ | ⟨nonzero, notMissing, rfl⟩
        · have call : SlotCall managed prog.fd
              (spec.slot (publishedIndex shared.interfaces nicName))
              prog.progId false kernel true
              (kernel.remove (spec.slot (publishedIndex shared.interfaces
                nicName))) := by
            refine ⟨?_, rfl, ?_, ?_⟩
            · intro other _ different
              exact TcKernel.remove_other _ different
            · intro _
              simp [SlotAsWanted]
            · intro _
              simp [SlotAsWanted]
          exact ⟨finalView.1, call.interfere covered agree finalView.2⟩
        · apply CallOutcome.unchanged covered
            (secondView.trans _ _ _ finalView)
          intro _
          have vacantBefore := (agree.2 _ covered).symm.trans vacant
          simp only [SlotAsWanted, Bool.false_eq_true, iff_false]
          intro occupied
          cases vacantBefore.symm.trans occupied
        · exact CallOutcome.unchanged covered
            (secondView.trans _ _ _ finalView) (by simp [nonzero, notMissing])

/-- One interface of a pass, attached or detached as the policy says. -/
theorem applyInterface_meets (policy : PolicyType) (shared : Shared)
    (addressable : spec.opts.addressable = true)
    (covered : managed
      (spec.slot (publishedIndex shared.interfaces nicName)))
    (loaded : shared.kernel.program prog.fd = some prog.progId) :
    (applyInterface policy spec prog nicName).Meets managerHandler
      (SameView managed prog.fd)
      (fun _ => InterfaceOp (policy.selects nicName) spec
        (publishedIndex shared.interfaces nicName))
      (CallOutcome managed nicName prog spec (policy.selects nicName) shared)
      shared := by
  unfold applyInterface
  split
  · rename_i selected
    rw [selected]
    exact attachFilter_meets shared addressable covered loaded
  · rename_i unselected
    rw [Bool.not_eq_true] at unselected
    rw [unselected]
    exact detachFilter_meets shared addressable covered

end Calls

/-- Interfaces which share an index are wanted alike. -/
def SelectsByIndex (policy : PolicyType) (interfaces : InterfaceMap) : Prop :=
  ∀ left leftInfo right rightInfo,
    (left, leftInfo) ∈ interfaces → (right, rightInfo) ∈ interfaces →
    leftInfo.ifindex = rightInfo.ifindex →
    policy.selects left = policy.selects right

/-- Every interface of the list has the program exactly when it is
selected. -/
def Reconciled (policy : PolicyType) (spec : AttachSpec)
    (prog : BpfProgram) (entries : List (String × InterfaceInfo))
    (kernel : TcKernel) : Prop :=
  ∀ nicName info, (nicName, info) ∈ entries →
    SlotAsWanted kernel (spec.slot info.ifindex.toInt32) prog.progId
      (policy.selects nicName)

/-- The slots of an attacher on the interfaces of a snapshot are managed. -/
def Covers (managed : Slot → Prop) (spec : AttachSpec)
    (interfaces : InterfaceMap) : Prop :=
  ∀ nicName info, (nicName, info) ∈ interfaces →
    managed (spec.slot info.ifindex.toInt32)

theorem slot_ifindex_injective {spec : AttachSpec} {left right : UInt32}
    (same : spec.slot left.toInt32 = spec.slot right.toInt32) :
    left = right := by
  have sameHook := congrArg (fun slot => slot.hook.ifindex.toUInt32) same
  exact sameHook

/-- What a pass wants depends only on the filters of its interfaces. -/
theorem Reconciled.congr {policy : PolicyType} {spec : AttachSpec}
    {prog : BpfProgram} {entries : List (String × InterfaceInfo)}
    {first second : TcKernel}
    (reconciled : Reconciled policy spec prog entries first)
    (same : ∀ nicName info, (nicName, info) ∈ entries →
      second.filter (spec.slot info.ifindex.toInt32) =
        first.filter (spec.slot info.ifindex.toInt32)) :
    Reconciled policy spec prog entries second := by
  intro nicName info member
  rw [SlotAsWanted, same nicName info member]
  exact reconciled nicName info member

section Loop

variable {managed : Slot → Prop} {policy : PolicyType} {spec : AttachSpec}
  {prog : BpfProgram} {interfaces : InterfaceMap}

/-- A call on one interface keeps the others as they are wanted. -/
theorem SlotCall.keepsReconciled
    {entries : List (String × InterfaceInfo)} {nicName : String}
    {info : InterfaceInfo} {before after : TcKernel} {success : Bool}
    (call : SlotCall managed prog.fd (spec.slot info.ifindex.toInt32)
      prog.progId (policy.selects nicName) before success after)
    (alike : SelectsByIndex policy interfaces)
    (covers : Covers managed spec interfaces)
    (within : ∀ entry ∈ entries, entry ∈ interfaces)
    (member : (nicName, info) ∈ interfaces)
    (reconciled : Reconciled policy spec prog entries before) :
    Reconciled policy spec prog entries after := by
  intro other otherInfo otherMember
  have asWanted := reconciled other otherInfo otherMember
  by_cases same : spec.slot otherInfo.ifindex.toInt32 =
      spec.slot info.ifindex.toInt32
  · have sameWanted := alike other otherInfo nicName info
      (within _ otherMember) member (slot_ifindex_injective same)
    rw [same, sameWanted] at asWanted ⊢
    exact call.stable asWanted
  · have otherCovered := covers other otherInfo (within _ otherMember)
    unfold SlotAsWanted at asWanted ⊢
    rw [call.frame _ otherCovered same]
    exact asWanted

/-- The operations a pass makes on the kernel. -/
def PassOp (policy : PolicyType) (spec : AttachSpec)
    (interfaces : InterfaceMap) (operation : ManagerOp) : Prop :=
  ∃ nicName info, (nicName, info) ∈ interfaces ∧
    InterfaceOp (policy.selects nicName) spec info.ifindex.toInt32 operation

/-- The induction over the entries of the snapshot.  `holds` relates the
entries handled so far, the success flag and the environment. -/
theorem applyInterfaces_rule
    {rely : Shared → Shared → Prop} {before : Shared → ManagerOp → Prop}
    {holds : List (String × InterfaceInfo) → Bool → Shared → Prop}
    (reflexive : ∀ shared, rely shared shared)
    (stable : ∀ handled success first second,
      holds handled success first → rely first second →
      holds handled success second)
    (step : ∀ handled nicName info success shared,
      (nicName, info) ∈ interfaces → holds handled success shared →
      (applyInterface policy spec prog nicName).Meets managerHandler rely
        before
        (fun applied =>
          holds (handled ++ [(nicName, info)]) (success && applied))
        shared)
    (handled rest : List (String × InterfaceInfo))
    (restWithin : ∀ entry ∈ rest, entry ∈ interfaces)
    (isApplySuccess : Bool) (shared : Shared)
    (start : holds handled isApplySuccess shared) :
    (applyInterfaces policy spec prog rest isApplySuccess).Meets
      managerHandler rely before (holds (handled ++ rest)) shared := by
  induction rest generalizing handled isApplySuccess shared with
  | nil =>
      intro final finalView
      rw [List.append_nil]
      exact stable _ _ _ _ start finalView
  | cons entry rest induction =>
      obtain ⟨nicName, info⟩ := entry
      have member : (nicName, info) ∈ interfaces :=
        restWithin _ List.mem_cons_self
      refine Program.Meets.bind reflexive
        (step handled nicName info isApplySuccess shared member start) ?_
      intro applied env next
      have split : handled ++ (nicName, info) :: rest =
          (handled ++ [(nicName, info)]) ++ rest := by simp
      rw [split]
      apply induction (handled ++ [(nicName, info)]) ?_ _ env next
      intro entry entryMember
      exact restWithin entry (List.mem_cons_of_mem _ entryMember)

/-- The invariant of a pass: the interfaces handled so far are as wanted
unless one of the calls failed. -/
def PassInvariant (policy : PolicyType) (spec : AttachSpec)
    (prog : BpfProgram) (interfaces : InterfaceMap)
    (handled : List (String × InterfaceInfo)) (success : Bool)
    (shared : Shared) : Prop :=
  shared.interfaces = interfaces ∧
    shared.kernel.program prog.fd = some prog.progId ∧
    (∀ entry ∈ handled, entry ∈ interfaces) ∧
    (success = true → Reconciled policy spec prog handled shared.kernel)

theorem PassInvariant.sameView
    {handled : List (String × InterfaceInfo)} {success : Bool}
    {first second : Shared} (covers : Covers managed spec interfaces)
    (invariant : PassInvariant policy spec prog interfaces handled success
      first)
    (view : SameView managed prog.fd first second) :
    PassInvariant policy spec prog interfaces handled success second := by
  obtain ⟨published, loaded, within, reconciled⟩ := invariant
  refine ⟨view.1.trans published, view.2.1.trans loaded, within, ?_⟩
  intro succeeded
  apply (reconciled succeeded).congr
  intro nicName info member
  exact view.2.2 _ (covers nicName info (within _ member))

theorem applyInterface_keeps_passInvariant
    {handled : List (String × InterfaceInfo)} {nicName : String}
    {info : InterfaceInfo} {success : Bool} {shared : Shared}
    (addressable : spec.opts.addressable = true)
    (alike : SelectsByIndex policy interfaces)
    (covers : Covers managed spec interfaces)
    (member : (nicName, info) ∈ interfaces)
    (invariant : PassInvariant policy spec prog interfaces handled success
      shared) :
    (applyInterface policy spec prog nicName).Meets managerHandler
      (SameView managed prog.fd)
      (fun _ => PassOp policy spec interfaces)
      (fun applied => PassInvariant policy spec prog interfaces
        (handled ++ [(nicName, info)]) (success && applied))
      shared := by
  obtain ⟨published, loaded, within, soFar⟩ := invariant
  have index : publishedIndex shared.interfaces nicName =
      info.ifindex.toInt32 := by
    rw [publishedIndex, published, getIfindexByIfname_of_mem member]
  have covered : managed
      (spec.slot (publishedIndex shared.interfaces nicName)) := by
    rw [index]
    exact covers nicName info member
  refine (applyInterface_meets policy shared addressable covered
    loaded).mono ?_ ?_
  · intro env operation made
    rw [index] at made
    exact ⟨nicName, info, member, made⟩
  · intro applied env outcome
    obtain ⟨sameInterfaces, call⟩ := outcome
    rw [index] at call
    refine ⟨sameInterfaces.trans published, call.programs.trans loaded,
      ?_, ?_⟩
    · intro entry entryMember
      rcases List.mem_append.mp entryMember with old | new
      · exact within entry old
      · rw [List.mem_singleton.mp new]
        exact member
    · intro succeeded
      simp only [Bool.and_eq_true] at succeeded
      have kept := call.keepsReconciled alike covers within member
        (soFar succeeded.1)
      intro other otherInfo otherMember
      rcases List.mem_append.mp otherMember with old | new
      · exact kept other otherInfo old
      · simp only [List.mem_singleton, Prod.mk.injEq] at new
        obtain ⟨rfl, rfl⟩ := new
        exact call.reached succeeded.2

/-- A pass whose calls all succeed leaves every interface of its snapshot as
the policy wants it. -/
theorem applyInterfaces_meets (shared : Shared)
    (addressable : spec.opts.addressable = true)
    (alike : SelectsByIndex policy shared.interfaces)
    (covers : Covers managed spec shared.interfaces)
    (loaded : shared.kernel.program prog.fd = some prog.progId) :
    (applyInterfaces policy spec prog shared.interfaces.items true).Meets
      managerHandler (SameView managed prog.fd)
      (fun _ => PassOp policy spec shared.interfaces)
      (PassInvariant policy spec prog shared.interfaces
        shared.interfaces.items)
      shared := by
  have start : PassInvariant policy spec prog shared.interfaces [] true
      shared :=
    ⟨rfl, loaded, by simp, fun _ _ _ member => by simp at member⟩
  apply applyInterfaces_rule SameView.refl
    (fun _ _ _ _ invariant view => invariant.sameView covers view) ?_ []
    shared.interfaces.items (fun _ member => member) true shared start
  intro handled nicName info success env member invariant
  exact applyInterface_keeps_passInvariant addressable alike covers member
    invariant

variable (managed) in
/-- Whatever follows the loop, only the queue changes after it, and a pass
reports success only when the loop did. -/
theorem finishPass_meets {before : Shared → ManagerOp → Prop}
    {post : Bool → Shared → Prop} (fd : Int32) (request : ApplyRequest)
    (isApplySuccess : Bool) (shared : Shared)
    (appends : ∀ env retry, before env (.appendApplyRequest retry))
    (success : isApplySuccess = true →
      ∀ final, SameView managed fd shared final → post true final)
    (failure : isApplySuccess = false →
      ∀ final, SameView managed fd shared final → post false final) :
    (finishPass request isApplySuccess).Meets managerHandler
      (SameView managed fd) before post shared := by
  unfold finishPass
  cases isApplySuccess with
  | true => exact success rfl
  | false =>
      simp only [Bool.false_eq_true, if_false]
      split
      · exact failure rfl
      · intro first firstView
        refine ⟨appends first _, ?_⟩
        intro choice after answer answered
        simp only [managerHandler, Option.some.injEq] at answered
        obtain ⟨rfl, rfl⟩ := answered
        intro final finalView
        exact failure rfl final
          ⟨finalView.1.trans firstView.1, firstView.2.trans finalView.2⟩

variable (managed) in
/-- The part of a pass after its reads, with the snapshot it has read still
published. -/
theorem passBody_meets (request : ApplyRequest) (shared : Shared)
    (addressable : spec.opts.addressable = true)
    (alike : SelectsByIndex policy shared.interfaces)
    (covers : Covers managed spec shared.interfaces)
    (loaded : shared.kernel.program prog.fd = some prog.progId) :
    (passBody request (policy, spec, prog) shared.interfaces).Meets
      managerHandler (SameView managed prog.fd)
      (fun _ operation => PassOp policy spec shared.interfaces operation ∨
        ∃ retry, operation = .appendApplyRequest retry)
      (fun success final => success = true →
        final.interfaces = shared.interfaces ∧
        Reconciled policy spec prog shared.interfaces.items final.kernel)
      shared := by
  refine Program.Meets.bind SameView.refl
    ((applyInterfaces_meets shared addressable alike covers loaded).mono
      (fun _ _ made => Or.inl made) (fun _ _ reached => reached)) ?_
  intro isApplySuccess env invariant
  apply finishPass_meets managed prog.fd request isApplySuccess env
    (fun _ retry => Or.inr ⟨retry, rfl⟩)
  · intro succeeded final view _
    obtain ⟨published, _, _, reconciled⟩ := invariant.sameView covers view
    exact ⟨published, reconciled succeeded⟩
  · intro _ final _ contradiction
    cases contradiction

end Loop

end LibbpfControl.BpfTool
