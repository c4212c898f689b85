import LibbpfControl.BpfTool.PassSoundness

/-!
# Passes which are repeated and taken back

A pass is meant to bring the filters of an attacher into the state its policy
asks for: a second pass finds nothing to do, and a pass for a policy without
targets removes what earlier passes have installed.  Here no call of the
kernel fails, and nobody else changes the filters.

Both hold when the specification addresses one filter on each interface.  A
handle or a priority of zero is different.  `bpf_tc_query` refuses such
options with `-EINVAL`, which `query_filter` takes for a missing `clsact`, and
`bpf_tc_attach` installs at an address of its own choice.  So each pass adds
another filter, and none is ever detached.
-/

namespace LibbpfControl.BpfTool

open NicCheck

def TcOutcome.isFaithful : TcOutcome → Bool
  | .faithful _ => true
  | .failing _ => false

theorem onlyFaithful_isFaithful : OnlyFaithful TcOutcome.isFaithful :=
  fun _ => rfl

/-- A pass of an attacher without failures, over the snapshot in any
iteration order of the map, and its effect on the kernel. -/
def FaithfulPass (interfaces : InterfaceMap) (spec : AttachSpec)
    (prog : BpfProgram) (policy : PolicyType) (before after : TcKernel) :
    Prop :=
  ∃ request shared outcomes success final trace,
    AttacherReads shared request policy spec prog ∧
      shared.interfaces.items.Perm interfaces.items ∧
      shared.kernel = before ∧
      (∀ outcome ∈ outcomes, outcome.isFaithful = true) ∧
      (applyTargetsPolicyPerAttacher request).run managerHandler shared
        outcomes = some (success, final, trace) ∧
      final.kernel = after

/-- A program which `create_attacher` accepts and the kernel has loaded. -/
def AcceptedIn (kernel : TcKernel) (prog : BpfProgram) : Prop :=
  (0 ≤ prog.fd ∧ prog.progId ≠ 0) ∧
    kernel.program prog.fd = some prog.progId

/-- The program came into the slot. -/
def Installs (progId : UInt32) (before after : TcKernel) (slot : Slot) :
    Prop :=
  before.filter slot ≠ some progId ∧ after.filter slot = some progId

/-- Passes of one attacher with the policies it had, and the slots into which
they have put its program. -/
inductive PassHistory (interfaces : InterfaceMap) (spec : AttachSpec)
    (prog : BpfProgram) (start : TcKernel) :
    List PolicyType → TcKernel → (Slot → Prop) → Prop where
  | start : PassHistory interfaces spec prog start [] start fun _ => False
  | pass {policies : List PolicyType} {policy : PolicyType}
      {before after : TcKernel} {installed : Slot → Prop} :
      PassHistory interfaces spec prog start policies before installed →
      FaithfulPass interfaces spec prog policy before after →
      PassHistory interfaces spec prog start (policies ++ [policy]) after
        fun slot => installed slot ∨
          Installs prog.progId before after slot

/-- The second of two passes with one policy changes no filter. -/
def Idempotent (interfaces : InterfaceMap) (spec : AttachSpec)
    (policy : PolicyType) : Prop :=
  ∀ prog before first second, AcceptedIn before prog →
    FaithfulPass interfaces spec prog policy before first →
    FaithfulPass interfaces spec prog policy first second →
    second.filter = first.filter

/-- A pass after all targets were removed leaves no filter which an earlier
pass has installed. -/
def Reversible (interfaces : InterfaceMap) (spec : AttachSpec)
    (policies : List PolicyType) : Prop :=
  ∀ prog start kernel cleared installed nothing, AcceptedIn start prog →
    PassHistory interfaces spec prog start policies kernel installed →
    (∀ nicName, nothing.selects nicName = false) →
    FaithfulPass interfaces spec prog nothing kernel cleared →
    ∀ slot, installed slot → cleared.filter slot ≠ some prog.progId

section Addressed

variable {interfaces : InterfaceMap} {spec : AttachSpec} {prog : BpfProgram}
  {policy : PolicyType} {before after : TcKernel}

/-- Interfaces without a positive index are passed over. -/
structure PassEffect (interfaces : InterfaceMap) (spec : AttachSpec)
    (prog : BpfProgram) (policy : PolicyType) (before after : TcKernel) :
    Prop where
  content : ∀ entry ∈ interfaces,
    after.filter (spec.slot entry.2.ifindex.toInt32) =
      if 0 < entry.2.ifindex.toInt32 then
        wantedFilter prog.progId (policy.selects entry.1)
          (before.filter (spec.slot entry.2.ifindex.toInt32))
      else before.filter (spec.slot entry.2.ifindex.toInt32)
  frame : ∀ slot,
    (∀ entry ∈ interfaces, slot ≠ spec.slot entry.2.ifindex.toInt32) →
    after.filter slot = before.filter slot

theorem FaithfulPass.programs
    (pass : FaithfulPass interfaces spec prog policy before after) :
    after.program = before.program := by
  obtain ⟨_, shared, _, _, _, _, _, _, rfl, _, completed, rfl⟩ := pass
  refine Program.run_keeps
    (fun later => later.kernel.program = shared.kernel.program) ?_ completed
    rfl
  intro env operation outcome later answer same answered
  exact (answer_frame answered).2.2.trans same

theorem FaithfulPass.effect (addressable : spec.opts.addressable = true)
    (distinct : (interfaces.items.map fun entry =>
      entry.2.ifindex).Nodup)
    (loaded : before.program prog.fd = some prog.progId)
    (pass : FaithfulPass interfaces spec prog policy before after) :
    PassEffect interfaces spec prog policy before after := by
  obtain ⟨request, shared, outcomes, success, final, trace, reads, order,
    rfl, faithful, completed, rfl⟩ := pass
  obtain ⟨_, results, _, _, _, _, _, effect, returns⟩ :=
    pass_effect addressable reads loaded
      ((order.map fun entry => entry.2.ifindex).nodup_iff.mpr distinct)
      faithful completed
  refine ⟨?_, ?_⟩
  · intro entry member
    have called : entry ∈ results.map Prod.fst := by
      rw [effect.calls]
      exact order.mem_iff.mpr member
    obtain ⟨⟨same, applied⟩, result, rfl⟩ := List.mem_map.mp called
    obtain ⟨usable, succeeds⟩ := returns same applied result
    rw [effect.content same applied result]
    have decided : applied = true ↔ 0 < same.2.ifindex.toInt32 :=
      ⟨usable, succeeds onlyFaithful_isFaithful⟩
    simp only [decided]
  · intro slot outside
    exact effect.frame slot fun entry member =>
      outside entry (order.mem_iff.mp member)

theorem PassEffect.again {second : TcKernel}
    (first : PassEffect interfaces spec prog policy before after)
    (again : PassEffect interfaces spec prog policy after second) :
    second.filter = after.filter := by
  funext slot
  by_cases managed : ∃ entry ∈ interfaces,
      slot = spec.slot entry.2.ifindex.toInt32
  · obtain ⟨entry, member, rfl⟩ := managed
    rw [again.content entry member, first.content entry member]
    split
    · exact wantedFilter_idem
    · rfl
  · exact again.frame slot fun entry member same =>
      managed ⟨entry, member, same⟩

/-- A pass installs in the slots of interfaces with a positive index. -/
theorem PassEffect.installs {slot : Slot}
    (effect : PassEffect interfaces spec prog policy before after)
    (installs : Installs prog.progId before after slot) :
    ∃ entry ∈ interfaces, 0 < entry.2.ifindex.toInt32 ∧
      slot = spec.slot entry.2.ifindex.toInt32 := by
  obtain ⟨absent, present⟩ := installs
  by_contra unmanaged
  refine absent (Eq.trans ?_ present)
  by_cases managed : ∃ entry ∈ interfaces,
      slot = spec.slot entry.2.ifindex.toInt32
  · obtain ⟨entry, member, rfl⟩ := managed
    rw [effect.content entry member, if_neg]
    intro usable
    exact unmanaged ⟨entry, member, usable, rfl⟩
  · exact (effect.frame slot fun entry member same =>
      managed ⟨entry, member, same⟩).symm

end Addressed

section History

variable {interfaces : InterfaceMap} {spec : AttachSpec} {prog : BpfProgram}
  {start kernel : TcKernel} {policies : List PolicyType}
  {installed : Slot → Prop}

theorem PassHistory.programs
    (history : PassHistory interfaces spec prog start policies kernel
      installed) : kernel.program = start.program := by
  induction history with
  | start => rfl
  | pass _ pass induction => exact pass.programs.trans induction

/-- Induction over the passes; whatever is installed lies in a slot which the
attacher manages. -/
theorem PassHistory.installed_managed
    (addressable : spec.opts.addressable = true)
    (distinct : (interfaces.items.map fun entry =>
      entry.2.ifindex).Nodup)
    (loaded : start.program prog.fd = some prog.progId)
    (history : PassHistory interfaces spec prog start policies kernel
      installed) {slot : Slot} (present : installed slot) :
    ∃ entry ∈ interfaces, 0 < entry.2.ifindex.toInt32 ∧
      slot = spec.slot entry.2.ifindex.toInt32 := by
  induction history with
  | start => exact present.elim
  | pass earlier pass induction =>
      rcases present with before | now
      · exact induction before
      · rw [← earlier.programs] at loaded
        exact (pass.effect addressable distinct loaded).installs now

end History

theorem idempotent_of_addressable {interfaces : InterfaceMap}
    {spec : AttachSpec} (addressable : spec.opts.addressable = true)
    (distinct : (interfaces.items.map fun entry =>
      entry.2.ifindex).Nodup) (policy : PolicyType) :
    Idempotent interfaces spec policy := by
  intro prog before first second accepted firstPass secondPass
  have loaded : first.program prog.fd = some prog.progId := by
    rw [firstPass.programs]
    exact accepted.2
  exact (firstPass.effect addressable distinct accepted.2).again
    (secondPass.effect addressable distinct loaded)

theorem reversible_of_addressable {interfaces : InterfaceMap}
    {spec : AttachSpec} (addressable : spec.opts.addressable = true)
    (distinct : (interfaces.items.map fun entry =>
      entry.2.ifindex).Nodup) (policies : List PolicyType) :
    Reversible interfaces spec policies := by
  intro prog start kernel cleared installed nothing accepted history empty
    pass slot present
  obtain ⟨entry, member, usable, rfl⟩ :=
    history.installed_managed addressable distinct accepted.2 present
  have loaded : kernel.program prog.fd = some prog.progId := by
    rw [history.programs]
    exact accepted.2
  rw [(pass.effect addressable distinct loaded).content entry member,
    if_pos usable]
  intro held
  have selected := wantedFilter_eq_some_iff.mp held
  rw [empty entry.1] at selected
  cases selected

/-- The call for this interface has nothing to install: it does not attach,
or the attach is refused. -/
def Quiet (spec : AttachSpec) (policy : PolicyType)
    (entry : String × InterfaceInfo) : Prop :=
  65535 < spec.opts.priority ∨
    (policy.selects entry.1 = true → entry.2.ifindex.toInt32 ≤ 0)

theorem attach_refused {kernel after : TcKernel} {hook : TcHook}
    {opts : TcOpts} {progFd : Int32} {replace : Bool} {outcome : TcOutcome}
    {rc : Int} (large : 65535 < opts.priority)
    (answered : kernel.attach hook opts progFd replace outcome =
      some (after, rc)) : after = kernel := by
  cases outcome with
  | failing error =>
      simp only [TcKernel.attach] at answered
      split at answered
      · cases answered
      · cases answered
        rfl
  | faithful pick =>
      simp only [TcKernel.attach, large, if_true] at answered
      cases answered
      rfl

/-- A call with the same snapshot and the same filters at its end. -/
def FiltersUnchanged (start final : Shared) : Prop :=
  final.interfaces = start.interfaces ∧
    final.kernel.filter = start.kernel.filter

section Quiet

variable {nicName : String} {prog : BpfProgram} {spec : AttachSpec}

theorem attachFilter_quiet (shared : Shared)
    (unaddressable : spec.opts.addressable = false)
    (quiet : 65535 < spec.opts.priority ∨
      publishedIndex shared.interfaces nicName ≤ 0) :
    (attachFilter nicName prog spec).Meets managerHandler (· = ·)
      (fun _ _ => True) (fun _ => FiltersUnchanged shared) shared := by
  rintro first rfl
  refine ⟨trivial, ?_⟩
  intro choice after index answered
  simp only [managerHandler, Option.some.injEq] at answered
  obtain ⟨rfl, rfl⟩ := answered
  dsimp only
  split
  · rintro final rfl
    exact ⟨rfl, rfl⟩
  · rename_i positive
    have large := quiet.resolve_right positive
    rintro second rfl
    refine ⟨trivial, ?_⟩
    intro choice after rc answered
    simp only [managerHandler, Option.map_eq_some_iff] at answered
    obtain ⟨⟨hooked, code⟩, created, rfl, rfl⟩ := answered
    have sameFilter := (TcKernel.hookCreate_effect created).1
    dsimp only
    split
    · rintro final rfl
      exact ⟨rfl, sameFilter⟩
    · refine Program.Meets.bind (fun _ => rfl)
        ((queryFilter_open_meets nicName prog _ unaddressable).mono
          (fun _ _ _ => trivial) (fun _ _ reported => reported)) ?_
      rintro query env ⟨rfl, _, _⟩
      split
      · rintro final rfl
        exact ⟨rfl, sameFilter⟩
      · split
        · rintro final rfl
          exact ⟨rfl, sameFilter⟩
        · rintro third rfl
          refine ⟨trivial, ?_⟩
          intro choice after rc answered
          simp only [managerHandler, Option.map_eq_some_iff] at answered
          obtain ⟨⟨kernel, code⟩, attached, rfl, rfl⟩ := answered
          obtain rfl := attach_refused large attached
          rintro final rfl
          exact ⟨rfl, sameFilter⟩

theorem applyInterface_quiet {policy : PolicyType} {info : InterfaceInfo}
    (shared : Shared) (unaddressable : spec.opts.addressable = false)
    (member : (nicName, info) ∈ shared.interfaces)
    (quiet : Quiet spec policy (nicName, info)) :
    (applyInterface policy spec prog nicName).Meets managerHandler (· = ·)
      (fun _ _ => True) (fun _ => FiltersUnchanged shared) shared := by
  have index : publishedIndex shared.interfaces nicName =
      info.ifindex.toInt32 := by
    rw [publishedIndex, getIfindexByIfname_of_mem member]
  unfold applyInterface
  split
  · rename_i selected
    refine attachFilter_quiet shared unaddressable ?_
    rw [index]
    exact quiet.imp_right fun unusable => unusable selected
  · refine (detachFilter_open_idle nicName prog shared unaddressable).mono
      (fun _ _ _ => trivial) ?_
    rintro _ final rfl
    exact ⟨rfl, rfl⟩

theorem applyResults_quiet {policy : PolicyType}
    {entries : List (String × InterfaceInfo)} {shared final : Shared}
    {outcomes : List TcOutcome}
    {results : List ((String × InterfaceInfo) × Bool)}
    {trace : ManagerTrace} (unaddressable : spec.opts.addressable = false)
    (within : ∀ entry ∈ entries, entry ∈ shared.interfaces)
    (quiet : ∀ entry ∈ entries, Quiet spec policy entry)
    (completed : (applyResults policy spec prog entries).run managerHandler
      shared outcomes = some (results, final, trace)) :
    FiltersUnchanged shared final := by
  induction entries generalizing shared outcomes results trace with
  | nil =>
      obtain ⟨_, _, rfl, _⟩ := Program.eq_of_run_done completed
      exact ⟨rfl, rfl⟩
  | cons entry entries induction =>
      obtain ⟨_, middle, _, _, _, _, _, _, firstRun, laterRun⟩ :=
        exists_run_of_applyResults_cons completed
      obtain ⟨⟨sameInterfaces, sameFilter⟩, _⟩ :=
        (applyInterface_quiet shared unaddressable
          (within entry List.mem_cons_self)
          (quiet entry List.mem_cons_self)).run firstRun
      obtain ⟨restInterfaces, restFilter⟩ := induction
        (fun other member => sameInterfaces ▸
          within other (List.mem_cons_of_mem _ member))
        (fun other member => quiet other (List.mem_cons_of_mem _ member))
        laterRun
      exact ⟨restInterfaces.trans sameInterfaces,
        restFilter.trans sameFilter⟩

theorem FaithfulPass.quiet {interfaces : InterfaceMap} {policy : PolicyType}
    {before after : TcKernel}
    (unaddressable : spec.opts.addressable = false)
    (quiet : ∀ entry ∈ interfaces, Quiet spec policy entry)
    (pass : FaithfulPass interfaces spec prog policy before after) :
    after.filter = before.filter := by
  obtain ⟨_, shared, _, _, _, _, reads, order, rfl, _, completed, rfl⟩ := pass
  obtain ⟨_, _, _, _, _, loop, _, sameKernel⟩ := pass_loop reads completed
  obtain ⟨_, sameFilter⟩ := applyResults_quiet unaddressable
    (fun _ member => member)
    (fun entry member => quiet entry (order.mem_iff.mp member)) loop
  rw [sameKernel]
  exact sameFilter

end Quiet

theorem idempotent_of_quiet {interfaces : InterfaceMap} {spec : AttachSpec}
    {policy : PolicyType} (unaddressable : spec.opts.addressable = false)
    (quiet : ∀ entry ∈ interfaces, Quiet spec policy entry) :
    Idempotent interfaces spec policy := by
  intro prog before first second _ _ again
  exact again.quiet unaddressable quiet

/-- Quiet passes install nothing which would have to be removed. -/
theorem PassHistory.nothing_installed {interfaces : InterfaceMap}
    {spec : AttachSpec} {prog : BpfProgram} {start kernel : TcKernel}
    {policies : List PolicyType} {installed : Slot → Prop}
    (unaddressable : spec.opts.addressable = false)
    (history : PassHistory interfaces spec prog start policies kernel
      installed)
    (quiet : ∀ policy ∈ policies, ∀ entry ∈ interfaces,
      Quiet spec policy entry) (slot : Slot) : ¬installed slot := by
  induction history with
  | start => exact id
  | pass earlier pass induction =>
      rintro (before | ⟨absent, present⟩)
      · refine induction (fun policy member => quiet policy ?_) before
        exact List.mem_append_left _ member
      · have same := pass.quiet unaddressable
          (quiet _ (List.mem_append_right _ List.mem_cons_self))
        exact absent (same ▸ present)

theorem reversible_of_quiet {interfaces : InterfaceMap} {spec : AttachSpec}
    {policies : List PolicyType}
    (unaddressable : spec.opts.addressable = false)
    (quiet : ∀ policy ∈ policies, ∀ entry ∈ interfaces,
      Quiet spec policy entry) :
    Reversible interfaces spec policies := by
  intro prog start kernel cleared installed nothing _ history _ _ slot
    present
  exact absurd present
    (history.nothing_installed unaddressable quiet slot)

/-- An address for open options, with one number for all that is open. -/
def TcOpts.numbered (opts : TcOpts) (number : UInt32) : TcOpts :=
  ⟨if opts.handle = 0 then number else opts.handle,
    if opts.priority = 0 then number else opts.priority⟩

theorem TcOpts.numbered_addressable {opts : TcOpts} {number : UInt32}
    (small : opts.priority ≤ 65535) (nonzero : number ≠ 0)
    (bounded : number ≤ 65535) :
    (opts.numbered number).addressable = true := by
  rw [TcOpts.addressable_iff]
  unfold numbered
  refine ⟨⟨?_, ?_⟩, ?_⟩
  · dsimp only
    split
    · exact nonzero
    · assumption
  · dsimp only
    split
    · exact nonzero
    · assumption
  · dsimp only
    split
    · exact bounded
    · exact small

theorem TcOpts.numbered_matches (opts : TcOpts) (number : UInt32) :
    opts.Matches (opts.numbered number) := by
  refine ⟨?_, ?_⟩
  · intro fixed
    simp [numbered, fixed]
  · intro fixed
    simp [numbered, fixed]

theorem TcOpts.numbered_injective {opts : TcOpts} {left right : UInt32}
    (unaddressable : opts.addressable = false)
    (small : opts.priority ≤ 65535)
    (same : opts.numbered left = opts.numbered right) : left = right := by
  unfold numbered at same
  obtain ⟨handle, priority⟩ := TcOpts.mk.inj same
  by_cases noHandle : opts.handle = 0
  · simpa [noHandle] using handle
  · by_cases noPriority : opts.priority = 0
    · simpa [noPriority] using priority
    · simp [addressable, noHandle, noPriority, small] at unaddressable

section Open

variable {nicName : String} {prog : BpfProgram} {spec : AttachSpec}
  {pick : TcOpts}

/-- What the kernel may answer to options with an open address. -/
structure OpenPick (spec : AttachSpec) (pick : TcOpts) : Prop where
  unaddressable : spec.opts.addressable = false
  small : spec.opts.priority ≤ 65535
  addressable : pick.addressable = true
  matched : spec.opts.Matches pick

theorem OpenPick.attach {kernel : TcKernel} {hook : TcHook}
    (choice : OpenPick spec pick) (secured : kernel.clsact hook.ifindex = true)
    (loaded : kernel.program prog.fd = some prog.progId)
    (free : kernel.filter ⟨hook, pick⟩ = none) :
    kernel.attach hook spec.opts prog.fd false (.faithful pick) =
      some (kernel.install ⟨hook, pick⟩ prog.progId secured, 0) := by
  have notFixed : ¬(spec.opts.handle ≠ 0 ∧ spec.opts.priority ≠ 0) := by
    intro fixed
    have addressable := TcOpts.addressable_iff.mpr ⟨fixed, choice.small⟩
    rw [choice.unaddressable] at addressable
    cases addressable
  have address : kernel.attachAddress hook spec.opts pick = some pick := by
    rw [TcKernel.attachAddress, if_neg notFixed, if_pos]
    exact ⟨choice.addressable, free, choice.matched.1, choice.matched.2⟩
  simp [TcKernel.attach, UInt32.not_lt.mpr choice.small, secured, loaded,
    address, free]

/-- The query is refused where the index is positive. -/
theorem queryFilter_open_reaches (shared : Shared)
    (unaddressable : spec.opts.addressable = false) :
    (queryFilter nicName prog spec).Reaches managerHandler
      TcOutcome.isFaithful
      (fun result final => final = shared ∧ result.state ≠ .ourProgram ∧
        (0 < publishedIndex shared.interfaces nicName →
          result.state = .noHook))
      shared := by
  refine ⟨.faithful spec.opts, shared, _, rfl, rfl, ?_⟩
  dsimp only
  split
  · rename_i unusable
    exact ⟨rfl, by simp, fun usable =>
      absurd unusable (Int32.not_le.mpr usable)⟩
  · have queried : ∀ ifindex, shared.kernel.query (spec.hook ifindex)
        spec.opts (.faithful spec.opts) =
          some (shared.kernel, -eINVAL, 0) := by
      simp [TcKernel.query, unaddressable]
    refine ⟨.faithful spec.opts, shared, (-eINVAL, 0), rfl, ?_, rfl, ?_, ?_⟩
    · exact congrArg (Option.map _) (queried _)
    · simp [classifyQuery, eNOENT, eINVAL]
    · simp [classifyQuery, eNOENT, eINVAL]

/-- What calls with an open address have done on the interfaces `entries`,
each attach at the address `pick`. -/
structure OpenEffect (spec : AttachSpec) (prog : BpfProgram) (pick : TcOpts)
    (policy : PolicyType) (entries : List (String × InterfaceInfo))
    (start final : Shared) : Prop where
  interfaces : final.interfaces = start.interfaces
  programs : final.kernel.program = start.kernel.program
  kept : FiltersKept start.kernel final.kernel
  frame : ∀ slot,
    (∀ entry ∈ entries, slot ≠ ⟨spec.hook entry.2.ifindex.toInt32, pick⟩) →
    final.kernel.filter slot = start.kernel.filter slot
  installed : ∀ entry ∈ entries, policy.selects entry.1 = true →
    0 < entry.2.ifindex.toInt32 →
    final.kernel.filter ⟨spec.hook entry.2.ifindex.toInt32, pick⟩ =
      some prog.progId

variable {policy : PolicyType}

theorem OpenEffect.unchanged {entries : List (String × InterfaceInfo)}
    (shared : Shared)
    (idle : ∀ entry ∈ entries, policy.selects entry.1 = true →
      ¬0 < entry.2.ifindex.toInt32) :
    OpenEffect spec prog pick policy entries shared shared where
  interfaces := rfl
  programs := rfl
  kept _ _ held := held
  frame _ _ := rfl
  installed entry member selected usable :=
    absurd usable (idle entry member selected)

theorem OpenEffect.cons {entry : String × InterfaceInfo}
    {entries : List (String × InterfaceInfo)} {start middle final : Shared}
    (first : OpenEffect spec prog pick policy [entry] start middle)
    (rest : OpenEffect spec prog pick policy entries middle final) :
    OpenEffect spec prog pick policy (entry :: entries) start final where
  interfaces := rest.interfaces.trans first.interfaces
  programs := rest.programs.trans first.programs
  kept slot progId held := rest.kept slot progId (first.kept slot progId held)
  frame := by
    intro slot outside
    rw [rest.frame slot fun other member =>
      outside other (List.mem_cons_of_mem _ member)]
    refine first.frame slot fun other member => ?_
    rw [List.mem_singleton.mp member]
    exact outside entry List.mem_cons_self
  installed := by
    intro other member selected usable
    rcases List.mem_cons.mp member with rfl | later
    · exact rest.kept _ _
        (first.installed other List.mem_cons_self selected usable)
    · exact rest.installed other later selected usable

/-- The effect of an attach at a free address, below a qdisc which may be
new. -/
theorem OpenEffect.install {info : InterfaceInfo} {shared : Shared}
    {hooked : TcKernel} (sameFilter : hooked.filter = shared.kernel.filter)
    (samePrograms : hooked.program = shared.kernel.program)
    (secured : hooked.clsact (spec.hook info.ifindex.toInt32).ifindex = true)
    (free : hooked.filter ⟨spec.hook info.ifindex.toInt32, pick⟩ = none) :
    OpenEffect spec prog pick policy [(nicName, info)] shared
      { shared with
        kernel := hooked.install ⟨spec.hook info.ifindex.toInt32, pick⟩
          prog.progId secured } where
  interfaces := rfl
  programs := samePrograms
  kept := (filtersKept_of_eq sameFilter).trans
    (filtersKept_install _ secured free)
  frame slot outside := by
    rw [← sameFilter]
    exact TcKernel.install_other _ _ secured (outside _ List.mem_cons_self)
  installed entry single _ _ := by
    rw [List.mem_singleton.mp single]
    exact TcKernel.install_same _ _ _ secured

theorem attachFilter_open_reaches {info : InterfaceInfo} (shared : Shared)
    (choice : OpenPick spec pick)
    (member : (nicName, info) ∈ shared.interfaces)
    (loaded : shared.kernel.program prog.fd = some prog.progId)
    (free : shared.kernel.filter ⟨spec.hook info.ifindex.toInt32, pick⟩ =
      none) :
    (attachFilter nicName prog spec).Reaches managerHandler
      TcOutcome.isFaithful
      (fun _ => OpenEffect spec prog pick policy [(nicName, info)] shared)
      shared := by
  have published : (getIfindexByIfname shared.interfaces nicName).1 =
      info.ifindex := getIfindexByIfname_of_mem member
  refine ⟨.faithful pick, shared, info.ifindex, rfl, ?_, ?_⟩
  · rw [← published]
    rfl
  dsimp only
  split
  · rename_i unusable
    refine .unchanged shared fun entry single _ => ?_
    rw [List.mem_singleton.mp single]
    exact Int32.not_lt.mpr unusable
  · rename_i positive
    -- whether the qdisc exists or is created, the call goes on with it
    obtain ⟨hooked, rc, created, notFailed, sameFilter, samePrograms,
      secured⟩ := shared.kernel.exists_hookCreate
        (spec.hook info.ifindex.toInt32) pick
    refine ⟨.faithful pick, { shared with kernel := hooked }, rc, rfl, ?_,
      ?_⟩
    · simp [managerHandler, created]
    dsimp only
    rw [if_neg notFailed]
    refine Program.Reaches.bind
      (queryFilter_open_reaches _ choice.unaddressable) ?_
    rintro query env ⟨rfl, _, refused⟩
    have missing : query.state = .noHook := by
      apply refused
      simp only [publishedIndex, published]
      exact Int32.not_le.mp positive
    simp only [missing, reduceCtorEq, if_false]
    have stillFree : hooked.filter
        ⟨spec.hook info.ifindex.toInt32, pick⟩ = none := by
      rw [sameFilter]
      exact free
    have stillLoaded : hooked.program prog.fd = some prog.progId := by
      rw [samePrograms]
      exact loaded
    have attached := choice.attach secured stillLoaded stillFree
    refine ⟨.faithful pick, _, (0 : Int), rfl, ?_,
      OpenEffect.install sameFilter samePrograms secured stillFree⟩
    simp [managerHandler, missing, attached]

theorem detachFilter_open_reaches {info : InterfaceInfo} (shared : Shared)
    (unaddressable : spec.opts.addressable = false)
    (unselected : policy.selects nicName = false) :
    (detachFilter nicName prog spec).Reaches managerHandler
      TcOutcome.isFaithful
      (fun _ => OpenEffect spec prog pick policy [(nicName, info)] shared)
      shared := by
  have unchanged : OpenEffect spec prog pick policy [(nicName, info)] shared
      shared := by
    refine .unchanged shared fun entry single selected => ?_
    rw [List.mem_singleton.mp single, unselected] at selected
    cases selected
  refine Program.Reaches.bind
    (queryFilter_open_reaches _ unaddressable) ?_
  rintro query env ⟨rfl, notOurs, _⟩
  split
  · exact unchanged
  · exact unchanged

theorem applyInterfaces_open_reaches
    {entries : List (String × InterfaceInfo)} (shared : Shared)
    (isApplySuccess : Bool) (choice : OpenPick spec pick)
    (within : ∀ entry ∈ entries, entry ∈ shared.interfaces)
    (distinct : (entries.map fun entry => entry.2.ifindex).Nodup)
    (loaded : shared.kernel.program prog.fd = some prog.progId)
    (free : ∀ entry ∈ entries, shared.kernel.filter
      ⟨spec.hook entry.2.ifindex.toInt32, pick⟩ = none) :
    (applyInterfaces policy spec prog entries isApplySuccess).Reaches
      managerHandler TcOutcome.isFaithful
      (fun _ => OpenEffect spec prog pick policy entries shared) shared := by
  induction entries generalizing shared isApplySuccess with
  | nil => exact .unchanged shared (by simp)
  | cons entry entries induction =>
      obtain ⟨fresh, distinct⟩ := List.nodup_cons.mp distinct
      have call : (applyInterface policy spec prog entry.1).Reaches
          managerHandler TcOutcome.isFaithful
          (fun _ => OpenEffect spec prog pick policy [entry] shared)
          shared := by
        unfold applyInterface
        split
        · exact attachFilter_open_reaches shared choice
            (within entry List.mem_cons_self) loaded
            (free entry List.mem_cons_self)
        · rename_i unselected
          exact detachFilter_open_reaches shared choice.unaddressable
            (Bool.not_eq_true _ ▸ unselected)
      refine Program.Reaches.bind call ?_
      intro applied middle first
      refine (induction middle (isApplySuccess && applied) ?_ distinct
        (first.programs ▸ loaded) ?_).mono fun _ _ rest => first.cons rest
      · intro other member
        rw [first.interfaces]
        exact within other (List.mem_cons_of_mem _ member)
      · -- the call has changed a slot of its own interface only
        intro other member
        rw [first.frame]
        · exact free other (List.mem_cons_of_mem _ member)
        · intro called single same
          rw [List.mem_singleton.mp single] at same
          have sameIndex : other.2.ifindex = entry.2.ifindex :=
            congrArg (fun slot : Slot => slot.hook.ifindex.toUInt32) same
          exact fresh (List.mem_map.mpr ⟨other, member, sameIndex⟩)

theorem finishPass_reaches (request : ApplyRequest) (isApplySuccess : Bool)
    (shared : Shared) :
    (finishPass request isApplySuccess).Reaches managerHandler
      TcOutcome.isFaithful
      (fun _ final => final.kernel = shared.kernel) shared := by
  unfold finishPass
  split
  · rfl
  · dsimp only
    split
    · rfl
    · exact ⟨.faithful ⟨0, 0⟩, _, (), rfl, rfl, rfl⟩

end Open

/-- A pass of the attacher in `freshShared`, from any kernel. -/
theorem faithfulPass_of_run {interfaces : InterfaceMap} {spec : AttachSpec}
    {policy : PolicyType} {kernel : TcKernel} {outcomes : List TcOutcome}
    {success : Bool} {final : Shared} {trace : ManagerTrace}
    (faithful : ∀ outcome ∈ outcomes, outcome.isFaithful = true)
    (completed : (applyTargetsPolicyPerAttacher (.fresh 0 0)).run
      managerHandler
      { freshShared policy spec interfaces with kernel := kernel }
      outcomes = some (success, final, trace)) :
    FaithfulPass interfaces spec sampleProgram policy kernel final.kernel :=
  ⟨_, _, _, _, _, _, ⟨_, rfl, rfl, rfl, rfl⟩, .refl _, rfl, faithful,
    completed, rfl⟩

/-- Where the picked address is free on all interfaces, a pass installs at
it. -/
theorem exists_openPass {interfaces : InterfaceMap} {spec : AttachSpec}
    {pick : TcOpts} (policy : PolicyType) (kernel : TcKernel)
    (choice : OpenPick spec pick)
    (distinct : (interfaces.items.map fun entry =>
      entry.2.ifindex).Nodup)
    (loaded : kernel.program sampleProgram.fd = some sampleProgram.progId)
    (free : ∀ entry ∈ interfaces,
      kernel.filter ⟨spec.hook entry.2.ifindex.toInt32, pick⟩ = none) :
    ∃ after, FaithfulPass interfaces spec sampleProgram policy kernel after ∧
      (∀ slot, slot.opts ≠ pick → after.filter slot = kernel.filter slot) ∧
      ∀ entry ∈ interfaces, policy.selects entry.1 = true →
        0 < entry.2.ifindex.toInt32 →
        after.filter ⟨spec.hook entry.2.ifindex.toInt32, pick⟩ =
          some sampleProgram.progId := by
  let shared : Shared :=
    { freshShared policy spec interfaces with kernel := kernel }
  have body : (passBody (.fresh 0 0) (policy, spec, sampleProgram)
      interfaces).Reaches managerHandler TcOutcome.isFaithful
      (fun _ final => ∃ last,
        OpenEffect spec sampleProgram pick policy interfaces.items shared
          last ∧ final.kernel = last.kernel) shared := by
    refine Program.Reaches.bind (applyInterfaces_open_reaches shared true
      choice (fun _ member => member) distinct loaded free) ?_
    intro isApplySuccess last effect
    exact (finishPass_reaches _ _ last).mono
      fun _ _ sameKernel => ⟨last, effect, sameKernel⟩
  have pass : (applyTargetsPolicyPerAttacher (.fresh 0 0)).Reaches
      managerHandler TcOutcome.isFaithful _ shared :=
    ⟨.faithful pick, shared, _, rfl, rfl, .faithful pick, shared, _, rfl,
      rfl, body⟩
  obtain ⟨outcomes, _, final, _, faithful, completed, last, effect,
    sameKernel⟩ := pass.run
  refine ⟨final.kernel, faithfulPass_of_run faithful completed, ?_, ?_⟩
  · intro slot different
    rw [sameKernel]
    exact effect.frame slot fun entry _ same =>
      different (congrArg Slot.opts same)
  · rw [sameKernel]
    exact effect.installed

/-- Two passes install at two addresses. -/
theorem not_idempotent_of_open {interfaces : InterfaceMap}
    {spec : AttachSpec} {policy : PolicyType}
    {entry : String × InterfaceInfo}
    (distinct : (interfaces.items.map fun entry =>
      entry.2.ifindex).Nodup)
    (unaddressable : spec.opts.addressable = false)
    (small : spec.opts.priority ≤ 65535) (member : entry ∈ interfaces)
    (selected : policy.selects entry.1 = true)
    (usable : 0 < entry.2.ifindex.toInt32) :
    ¬Idempotent interfaces spec policy := by
  intro idempotent
  have firstChoice : OpenPick spec (spec.opts.numbered 1) :=
    ⟨unaddressable, small,
      TcOpts.numbered_addressable small (by decide) (by decide),
      TcOpts.numbered_matches _ _⟩
  have secondChoice : OpenPick spec (spec.opts.numbered 2) :=
    ⟨unaddressable, small,
      TcOpts.numbered_addressable small (by decide) (by decide),
      TcOpts.numbered_matches _ _⟩
  have different : spec.opts.numbered 2 ≠ spec.opts.numbered 1 := by
    intro same
    exact absurd (TcOpts.numbered_injective unaddressable small same)
      (by decide)
  obtain ⟨first, firstPass, firstFrame, _⟩ := exists_openPass policy
    sampleKernel firstChoice distinct rfl (fun _ _ => rfl)
  have free : ∀ entry ∈ interfaces, first.filter
      ⟨spec.hook entry.2.ifindex.toInt32, spec.opts.numbered 2⟩ = none := by
    intro other _
    exact firstFrame _ different
  have loaded : first.program sampleProgram.fd =
      some sampleProgram.progId := by
    rw [firstPass.programs]
    rfl
  obtain ⟨second, secondPass, _, installed⟩ :=
    exists_openPass policy first secondChoice distinct loaded free
  have same := idempotent sampleProgram sampleKernel first second
    ⟨by decide, rfl⟩ firstPass secondPass
  have present := installed entry member selected usable
  rw [same, free entry member] at present
  cases present

/-- The policies are those which an attacher had one after the other.  Its
passes over a snapshot with pairwise different indexes can be repeated and
taken back exactly when the specification addresses one filter, cannot
address any, or no pass has anything to attach. -/
theorem passes_settle_iff {interfaces : InterfaceMap} (spec : AttachSpec)
    (distinct : (interfaces.items.map fun entry =>
      entry.2.ifindex).Nodup) (policies : List PolicyType) :
    ((∀ policy ∈ policies, Idempotent interfaces spec policy) ∧
        Reversible interfaces spec policies) ↔
      spec.opts.addressable = true ∨ 65535 < spec.opts.priority ∨
        ∀ policy ∈ policies, ∀ entry ∈ interfaces,
          policy.selects entry.1 = true →
          entry.2.ifindex.toInt32 ≤ 0 := by
  constructor
  · rintro ⟨idempotent, _⟩
    by_contra failing
    simp only [not_or, Bool.not_eq_true] at failing
    obtain ⟨unaddressable, small, usable⟩ := failing
    refine usable fun policy used entry member selected => ?_
    by_contra positive
    exact not_idempotent_of_open distinct unaddressable
      (UInt32.not_lt.mp small) member selected (Int32.not_le.mp positive)
      (idempotent policy used)
  · cases addressable : spec.opts.addressable with
    | true =>
        intro _
        exact ⟨fun policy _ =>
            idempotent_of_addressable addressable distinct policy,
          reversible_of_addressable addressable distinct policies⟩
    | false =>
        intro condition
        have quiet : ∀ policy ∈ policies, ∀ entry ∈ interfaces,
            Quiet spec policy entry := by
          intro policy used entry member
          rcases condition with contradiction | large | unusable
          · cases contradiction
          · exact .inl large
          · exact .inr (unusable policy used entry member)
        exact ⟨fun policy used =>
            idempotent_of_quiet addressable (quiet policy used),
          reversible_of_quiet addressable quiet⟩

theorem singleInterface_distinct (ifname : String) (ifindex : UInt32) :
    ((singleInterface ifname ifindex).items.map fun entry =>
      entry.2.ifindex).Nodup :=
  List.nodup_singleton _

theorem passes_settle_single :
    (∀ policy ∈ [aliasPolicy, {}],
        Idempotent (singleInterface "eth0" 2) {} policy) ∧
      Reversible (singleInterface "eth0" 2) {} [aliasPolicy, {}] :=
  (passes_settle_iff {} (singleInterface_distinct "eth0" 2) _).mpr
    (.inl rfl)

/-- A specification which leaves the handle to the kernel. -/
def openHandle : AttachSpec := { handle := 0 }

/-- The kernel after a pass of an attacher for `eth0`, in which the kernel
picks the given address. -/
def openHandlePass (policy : PolicyType) (pick : TcOpts) (count : Nat)
    (kernel : TcKernel) : Option TcKernel :=
  ((applyTargetsPolicyPerAttacher (.fresh 0 0)).run managerHandler
    { freshShared policy openHandle (singleInterface "eth0" 2) with
      kernel := kernel }
    (List.replicate count (.faithful pick))).map
      fun result => result.2.1.kernel

theorem openHandlePass_faithful {policy : PolicyType} {pick : TcOpts}
    {count : Nat} {kernel after : TcKernel}
    (completed : openHandlePass policy pick count kernel = some after) :
    FaithfulPass (singleInterface "eth0" 2) openHandle sampleProgram policy
      kernel after := by
  obtain ⟨⟨_, final, _⟩, run, rfl⟩ := Option.map_eq_some_iff.mp completed
  refine faithfulPass_of_run ?_ run
  intro outcome member
  rw [List.eq_of_mem_replicate member]
  rfl

theorem openHandle_filters :
    (do
      let first ← openHandlePass aliasPolicy ⟨1, 100⟩ 7 sampleKernel
      let second ← openHandlePass aliasPolicy ⟨2, 100⟩ 7 first
      let cleared ← openHandlePass {} ⟨1, 100⟩ 4 second
      some (first.filter ⟨⟨2, true⟩, ⟨2, 100⟩⟩,
        second.filter ⟨⟨2, true⟩, ⟨2, 100⟩⟩,
        cleared.filter ⟨⟨2, true⟩, ⟨1, 100⟩⟩,
        cleared.filter ⟨⟨2, true⟩, ⟨2, 100⟩⟩)) =
      some (none, some 1, some 1, some 1) := by
  decide +kernel

/-- Two passes for `eth0` install two filters, and a pass after the target
was removed leaves both. -/
theorem openHandle_accumulates :
    (∃ first second cleared,
      FaithfulPass (singleInterface "eth0" 2) openHandle sampleProgram
          aliasPolicy sampleKernel first ∧
        FaithfulPass (singleInterface "eth0" 2) openHandle sampleProgram
          aliasPolicy first second ∧
        FaithfulPass (singleInterface "eth0" 2) openHandle sampleProgram
          {} second cleared ∧
        first.filter ⟨⟨2, true⟩, ⟨2, 100⟩⟩ = none ∧
        second.filter ⟨⟨2, true⟩, ⟨2, 100⟩⟩ = some 1 ∧
        cleared.filter ⟨⟨2, true⟩, ⟨1, 100⟩⟩ = some 1 ∧
        cleared.filter ⟨⟨2, true⟩, ⟨2, 100⟩⟩ = some 1) ∧
      ¬Idempotent (singleInterface "eth0" 2) openHandle aliasPolicy ∧
      ¬Reversible (singleInterface "eth0" 2) openHandle
        [aliasPolicy, aliasPolicy] := by
  obtain ⟨first, firstRun, rest⟩ :=
    Option.bind_eq_some_iff.mp openHandle_filters
  obtain ⟨second, secondRun, rest⟩ := Option.bind_eq_some_iff.mp rest
  obtain ⟨cleared, clearedRun, filters⟩ := Option.bind_eq_some_iff.mp rest
  simp only [Option.some.injEq, Prod.mk.injEq] at filters
  obtain ⟨vacant, present, left, leftToo⟩ := filters
  have firstPass := openHandlePass_faithful firstRun
  have secondPass := openHandlePass_faithful secondRun
  have lastPass := openHandlePass_faithful clearedRun
  refine ⟨⟨first, second, cleared, firstPass, secondPass, lastPass, vacant,
    present, left, leftToo⟩, ?_, ?_⟩
  · intro idempotent
    have same := idempotent sampleProgram sampleKernel first second
      ⟨by decide, rfl⟩ firstPass secondPass
    rw [same, vacant] at present
    cases present
  · intro reversible
    refine reversible sampleProgram sampleKernel second cleared _ {}
      ⟨by decide, rfl⟩ (.pass (.pass .start firstPass) secondPass)
      (fun _ => rfl) lastPass ⟨⟨2, true⟩, ⟨2, 100⟩⟩ (.inr ⟨?_, present⟩)
      leftToo
    rw [vacant]
    simp

end LibbpfControl.BpfTool
