import LibbpfControl.BpfTool.PassAgreement

/-!
# What a pass leaves behind, call by call

The kernel may fail any of the calls of a pass.  A call of `attach_filter` or
`detach_filter` which returns true has put the slot of its interface into the
state the policy asks for, one which returns false has left it alone, and
neither touches another slot.  With pairwise different indexes the calls of a
pass do not meet, so the effect of the whole pass can be read off the values
they returned.

The choices of the kernel are restricted by a parameter.  Without failures
the calls on interfaces with an index all succeed.
-/

namespace LibbpfControl.BpfTool

open NicCheck

/-- What a slot should hold, given what it holds. -/
def wantedFilter (progId : UInt32) (wanted : Bool) (held : Option UInt32) :
    Option UInt32 :=
  if wanted then some progId
  else if held = some progId then none
  else held

theorem wantedFilter_eq_some_iff {progId : UInt32} {wanted : Bool}
    {held : Option UInt32} :
    wantedFilter progId wanted held = some progId ↔ wanted = true := by
  cases wanted with
  | true => simp [wantedFilter]
  | false =>
      by_cases ours : held = some progId
      · simp [wantedFilter, ours]
      · simp [wantedFilter, ours]

/-- What is wanted stays as it is. -/
theorem wantedFilter_idem {progId : UInt32} {wanted : Bool}
    {held : Option UInt32} :
    wantedFilter progId wanted (wantedFilter progId wanted held) =
      wantedFilter progId wanted held := by
  cases wanted with
  | true => rfl
  | false =>
      by_cases ours : held = some progId
      · simp [wantedFilter, ours]
      · simp [wantedFilter, ours]

/-- The effect of one call of `attach_filter` (`wanted`) or `detach_filter`
on the kernel.  A `clsact` is only ever added, and only where a filter is
wanted. -/
structure CallEffect (spec : AttachSpec) (prog : BpfProgram)
    (ifindex : Int32) (wanted : Bool) (before : TcKernel) (applied : Bool)
    (after : TcKernel) : Prop where
  frame : ∀ slot, slot ≠ spec.slot ifindex →
    after.filter slot = before.filter slot
  content : after.filter (spec.slot ifindex) =
    if applied then
      wantedFilter prog.progId wanted (before.filter (spec.slot ifindex))
    else before.filter (spec.slot ifindex)
  programs : after.program = before.program
  qdiscs : ∀ index, after.clsact index = before.clsact index ∨
    wanted = true ∧ index = ifindex ∧ after.clsact index = true

/-- No failure is permitted. -/
def OnlyFaithful (permitted : TcOutcome → Bool) : Prop :=
  ∀ error, permitted (.failing error) = false

theorem OnlyFaithful.pick {permitted : TcOutcome → Bool}
    {outcome : TcOutcome} (faithful : OnlyFaithful permitted)
    (chosen : permitted outcome = true) :
    ∃ pick, outcome = .faithful pick := by
  cases outcome with
  | faithful pick => exact ⟨pick, rfl⟩
  | failing error =>
      rw [faithful error] at chosen
      cases chosen

/-- The result of a call which is not interfered with. -/
structure CallResult (permitted : TcOutcome → Bool) (nicName : String)
    (prog : BpfProgram) (spec : AttachSpec) (wanted : Bool) (start : Shared)
    (applied : Bool) (final : Shared) : Prop where
  interfaces : final.interfaces = start.interfaces
  effect : CallEffect spec prog (publishedIndex start.interfaces nicName)
    wanted start.kernel applied final.kernel
  usable : applied = true → 0 < publishedIndex start.interfaces nicName
  succeeds : OnlyFaithful permitted →
    0 < publishedIndex start.interfaces nicName → applied = true

section Kernel

variable {kernel after : TcKernel} {spec : AttachSpec} {ifindex : Int32}
  {outcome : TcOutcome} {prog : BpfProgram}

/-- A slot which is neither ours nor another program's is empty. -/
theorem classifyQuery_vacant {answer : Int × UInt32}
    (addressable : spec.opts.addressable = true)
    (answered : kernel.query (spec.hook ifindex) spec.opts outcome =
      some (after, answer))
    (notOurs : (classifyQuery prog answer).state ≠ .ourProgram)
    (notOther : (classifyQuery prog answer).state ≠ .otherProgram)
    (notError : (classifyQuery prog answer).state ≠ .error) :
    kernel.filter (spec.slot ifindex) = none := by
  cases content : kernel.filter (spec.slot ifindex) with
  | none => rfl
  | some held =>
      exfalso
      have content : kernel.filter ⟨spec.hook ifindex, spec.opts⟩ =
          some held := content
      have hooked : kernel.clsact (spec.hook ifindex).ifindex = true :=
        kernel.hooked ⟨spec.hook ifindex, spec.opts⟩ (by simp [content])
      cases outcome with
      | failing error =>
          simp only [TcKernel.query] at answered
          split at answered
          · cases answered
          · rename_i other
            cases answered
            simp only [not_or] at other
            simp [classifyQuery, other] at notError
      | faithful pick =>
          simp only [TcKernel.query, addressable, hooked, content,
            Bool.and_self, if_true, Option.some.injEq] at answered
          cases answered
          by_cases same : held = prog.progId
          · simp [classifyQuery, same, eNOENT, eINVAL] at notOurs
          · simp [classifyQuery, same, eNOENT, eINVAL] at notOther

theorem classifyQuery_faithful {answer : Int × UInt32} {pick : TcOpts}
    (answered : kernel.query (spec.hook ifindex) spec.opts
      (.faithful pick) = some (after, answer)) :
    (classifyQuery prog answer).state ≠ .error := by
  simp only [TcKernel.query] at answered
  split at answered
  · split at answered
    · cases answered
      simp [classifyQuery]
    · cases answered
      by_cases same : (‹UInt32›) = prog.progId <;>
        simp [classifyQuery, eNOENT, eINVAL, same]
  · cases answered
    simp [classifyQuery, eNOENT, eINVAL]

theorem hookCreate_faithful {hook : TcHook} {pick : TcOpts} {rc : Int}
    (answered : kernel.hookCreate hook (.faithful pick) =
      some (after, rc)) : rc = 0 ∨ rc = -eEXIST := by
  simp only [TcKernel.hookCreate] at answered
  split at answered
  · cases answered
    exact .inr rfl
  · cases answered
    exact .inl rfl

/-- An attach which finds what it was told to expect succeeds. -/
theorem attach_faithful {progFd : Int32} {replace : Bool} {pick : TcOpts}
    {rc : Int} (addressable : spec.opts.addressable = true)
    (secured : kernel.clsact (spec.hook ifindex).ifindex = true)
    (loaded : kernel.program progFd = some prog.progId)
    (expected : replace = false →
      kernel.filter (spec.slot ifindex) = none)
    (answered : kernel.attach (spec.hook ifindex) spec.opts progFd replace
      (.faithful pick) = some (after, rc)) : rc = 0 := by
  obtain ⟨nonzero, bounded⟩ := TcOpts.addressable_iff.mp addressable
  have free : ¬(kernel.filter ⟨spec.hook ifindex, spec.opts⟩ ≠ none ∧
      replace = false) := fun blocked => blocked.1 (expected blocked.2)
  simp only [TcKernel.attach, UInt32.not_lt.mpr bounded, if_false] at answered
  rw [dif_pos secured] at answered
  simp only [loaded, TcKernel.attachAddress, nonzero, ne_eq,
    not_false_eq_true, and_self, if_true, Option.map_some, if_neg free,
    Option.some.injEq, Prod.mk.injEq] at answered
  exact answered.2.symm

/-- Where a filter is, it can be detached. -/
theorem detach_faithful {pick : TcOpts} {held : UInt32} {rc : Int}
    (addressable : spec.opts.addressable = true)
    (occupied : kernel.filter (spec.slot ifindex) = some held)
    (answered : kernel.detach (spec.hook ifindex) spec.opts
      (.faithful pick) = some (after, rc)) : rc = 0 := by
  have hooked : kernel.clsact (spec.hook ifindex).ifindex = true :=
    kernel.hooked (spec.slot ifindex) (by simp [occupied])
  have occupied : kernel.filter ⟨spec.hook ifindex, spec.opts⟩ = some held :=
    occupied
  simp only [TcKernel.detach, addressable, hooked, occupied, Bool.and_self,
    if_true, Option.some.injEq, Prod.mk.injEq] at answered
  exact answered.2.symm

/-- A call without effect on the filters. -/
theorem CallEffect.kept {wanted applied : Bool} {before : TcKernel}
    (filters : after.filter = before.filter)
    (programs : after.program = before.program)
    (qdiscs : ∀ index, after.clsact index = before.clsact index ∨
      wanted = true ∧ index = ifindex ∧ after.clsact index = true)
    (settled : applied = true →
      before.filter (spec.slot ifindex) = wantedFilter prog.progId wanted
        (before.filter (spec.slot ifindex))) :
    CallEffect spec prog ifindex wanted before applied after where
  frame slot _ := by rw [filters]
  content := by
    rw [filters]
    split
    · rename_i succeeded
      exact settled succeeded
    · rfl
  programs := programs
  qdiscs := qdiscs

theorem CallEffect.unchanged {wanted applied : Bool} {before : TcKernel}
    (settled : applied = true →
      before.filter (spec.slot ifindex) = wantedFilter prog.progId wanted
        (before.filter (spec.slot ifindex))) :
    CallEffect spec prog ifindex wanted before applied before :=
  .kept rfl rfl (fun _ => .inl rfl) settled

end Kernel

section Calls

variable {permitted : TcOutcome → Bool} {nicName : String}
  {prog : BpfProgram} {spec : AttachSpec}

/-- What a query which is not interfered with says. -/
structure Queried (permitted : TcOutcome → Bool) (nicName : String)
    (prog : BpfProgram) (spec : AttachSpec) (start : Shared)
    (result : FilterQueryResult) (final : Shared) : Prop where
  same : final = start
  reports : QueryReports start.kernel
    (spec.slot (publishedIndex start.interfaces nicName)) prog result
  vacant : result.state ≠ .ourProgram → result.state ≠ .otherProgram →
    result.state ≠ .error →
    start.kernel.filter
      (spec.slot (publishedIndex start.interfaces nicName)) = none
  usable : result.state ≠ .error →
    0 < publishedIndex start.interfaces nicName
  answers : OnlyFaithful permitted →
    0 < publishedIndex start.interfaces nicName → result.state ≠ .error

theorem queryFilter_alone (shared : Shared)
    (addressable : spec.opts.addressable = true) :
    (queryFilter nicName prog spec).Meets (managerHandler.restrict permitted)
      (· = ·) (fun _ _ => True)
      (Queried permitted nicName prog spec shared) shared := by
  refine Program.Meets.call_restrict trivial ?_
  intro choice after index _ answered
  simp only [managerHandler, Option.some.injEq] at answered
  obtain ⟨rfl, rfl⟩ := answered
  dsimp only
  split
  · rename_i unusable
    rintro final rfl
    refine ⟨rfl, by constructor <;> simp, by simp, by simp, ?_⟩
    intro _ usable
    exact absurd unusable (Int32.not_le.mpr usable)
  · rename_i positive
    refine Program.Meets.call_restrict trivial ?_
    intro choice after answer chosen answered
    simp only [managerHandler, Option.map_eq_some_iff] at answered
    obtain ⟨⟨kernel, queried⟩, query, rfl, rfl⟩ := answered
    obtain ⟨rfl, reports⟩ := classifyQuery_reports prog addressable query
    rintro final rfl
    refine ⟨rfl, reports, classifyQuery_vacant addressable query,
      fun _ => Int32.not_le.mp positive, ?_⟩
    intro faithful _
    obtain ⟨pick, rfl⟩ := faithful.pick chosen
    exact classifyQuery_faithful query

/-- The state in which `attach_filter` queries the slot: only the qdisc may
have been added. -/
structure Hooked (start hooked : Shared) (ifindex : Int32) : Prop where
  interfaces : hooked.interfaces = start.interfaces
  filters : hooked.kernel.filter = start.kernel.filter
  programs : hooked.kernel.program = start.kernel.program
  qdiscs : ∀ index,
    hooked.kernel.clsact index = start.kernel.clsact index ∨
      index = ifindex ∧ hooked.kernel.clsact index = true

theorem Hooked.qdiscs_wanted {start hooked : Shared} {ifindex : Int32}
    (prepared : Hooked start hooked ifindex) (index : Int32) :
    hooked.kernel.clsact index = start.kernel.clsact index ∨
      true = true ∧ index = ifindex ∧ hooked.kernel.clsact index = true := by
  simpa using prepared.qdiscs index

/-- A call which ends there. -/
theorem Hooked.result {start hooked : Shared} {applied : Bool}
    (prepared : Hooked start hooked
      (publishedIndex start.interfaces nicName))
    (settled : applied = true →
      start.kernel.filter
          (spec.slot (publishedIndex start.interfaces nicName)) =
        some prog.progId)
    (usable : applied = true →
      0 < publishedIndex start.interfaces nicName)
    (succeeds : OnlyFaithful permitted →
      0 < publishedIndex start.interfaces nicName → applied = true) :
    CallResult permitted nicName prog spec true start applied hooked where
  interfaces := prepared.interfaces
  effect :=
    .kept prepared.filters prepared.programs prepared.qdiscs_wanted settled
  usable := usable
  succeeds := succeeds

/-- The end of `attach_filter`: the qdisc is secured and the slot was
queried. -/
theorem attachQueried_alone {start hooked : Shared}
    {query : FilterQueryResult}
    (addressable : spec.opts.addressable = true)
    (loaded : start.kernel.program prog.fd = some prog.progId)
    (prepared : Hooked start hooked
      (publishedIndex start.interfaces nicName))
    (secured : hooked.kernel.clsact
      (publishedIndex start.interfaces nicName) = true)
    (queried : Queried permitted nicName prog spec hooked query hooked) :
    (if query.state = .ourProgram then return true
      else if query.state = .error then return false
      else
        .call (.tcAttach (spec.hook (publishedIndex start.interfaces nicName))
            spec.opts prog.fd (decide (query.state = .otherProgram)))
          fun rc : Int => .done (decide (rc = 0)) :
        ManagerProgram Bool).Meets (managerHandler.restrict permitted)
      (· = ·) (fun _ _ => True)
      (CallResult permitted nicName prog spec true start) hooked := by
  obtain ⟨_, reports, vacant, usable, answers⟩ := queried
  rw [prepared.interfaces] at reports vacant usable answers
  split
  · rename_i ours
    rintro final rfl
    refine prepared.result (fun _ => ?_) (fun _ => usable (by simp [ours]))
      (fun _ _ => rfl)
    rw [← prepared.filters]
    exact reports.ours ours
  · rename_i notOurs
    split
    · rename_i failed
      rintro final rfl
      exact prepared.result (by simp) (by simp) fun faithful positive =>
        absurd failed (answers faithful positive)
    · rename_i notError
      refine Program.Meets.call_restrict trivial ?_
      intro choice after rc chosen answered
      simp only [managerHandler, Option.map_eq_some_iff] at answered
      obtain ⟨⟨kernel, code⟩, attached, rfl, rfl⟩ := answered
      have behind : hooked.kernel.program prog.fd = some prog.progId := by
        rw [prepared.programs]
        exact loaded
      rintro final rfl
      rcases TcKernel.attach_effect addressable attached with
        ⟨rfl, progId, under, behindFd, rfl⟩ | ⟨failed, rfl⟩
      · have sameProgram : progId = prog.progId :=
          Option.some.inj (behindFd.symm.trans behind)
        refine ⟨prepared.interfaces, ⟨?_, ?_, prepared.programs, ?_⟩,
          fun _ => usable notError, fun _ _ => rfl⟩
        · intro slot different
          rw [← prepared.filters]
          exact TcKernel.install_other _ _ under different
        · rw [sameProgram]
          exact TcKernel.install_same _ _ _ under
        · exact prepared.qdiscs_wanted
      · refine prepared.result (by simp [failed]) (fun _ => usable notError)
          fun faithful _ => ?_
        obtain ⟨pick, rfl⟩ := faithful.pick chosen
        refine absurd (attach_faithful addressable secured behind ?_
          attached) failed
        intro notReplaced
        exact vacant notOurs (of_decide_eq_false notReplaced) notError

theorem attachFilter_alone (shared : Shared)
    (addressable : spec.opts.addressable = true)
    (loaded : shared.kernel.program prog.fd = some prog.progId) :
    (attachFilter nicName prog spec).Meets
      (managerHandler.restrict permitted) (· = ·) (fun _ _ => True)
      (CallResult permitted nicName prog spec true shared) shared := by
  have untouched : Hooked shared shared
      (publishedIndex shared.interfaces nicName) :=
    ⟨rfl, rfl, rfl, fun _ => .inl rfl⟩
  refine Program.Meets.call_restrict trivial ?_
  intro choice after index _ answered
  simp only [managerHandler, Option.some.injEq] at answered
  obtain ⟨rfl, rfl⟩ := answered
  dsimp only
  split
  · rename_i unusable
    rintro final rfl
    exact untouched.result (by simp) (by simp) fun _ usable =>
      absurd unusable (Int32.not_le.mpr usable)
  · refine Program.Meets.call_restrict trivial ?_
    intro choice after rc chosen answered
    simp only [managerHandler, Option.map_eq_some_iff] at answered
    obtain ⟨⟨kernel, code⟩, created, rfl, rfl⟩ := answered
    obtain ⟨sameFilter, samePrograms, hookedAfter⟩ :=
      TcKernel.hookCreate_effect created
    have prepared : Hooked shared { shared with kernel := kernel }
        (publishedIndex shared.interfaces nicName) :=
      ⟨rfl, sameFilter, samePrograms, TcKernel.hookCreate_qdiscs created⟩
    dsimp only
    split
    · rename_i failed
      rintro final rfl
      refine prepared.result (by simp) (by simp) fun faithful _ => ?_
      obtain ⟨pick, rfl⟩ := faithful.pick chosen
      exact absurd (hookCreate_faithful created) (not_or.mpr failed)
    · rename_i goesOn
      have secured := hookedAfter (by tauto)
      refine Program.Meets.bind (fun _ => rfl)
        (queryFilter_alone _ addressable) ?_
      intro query env queried
      obtain rfl := queried.same
      exact attachQueried_alone addressable loaded prepared secured queried

theorem detachFilter_alone (shared : Shared)
    (addressable : spec.opts.addressable = true) :
    (detachFilter nicName prog spec).Meets
      (managerHandler.restrict permitted) (· = ·) (fun _ _ => True)
      (CallResult permitted nicName prog spec false shared) shared := by
  refine Program.Meets.bind (fun _ => rfl)
    (queryFilter_alone shared addressable) ?_
  intro query env queried
  obtain ⟨rfl, reports, _, usable, answers⟩ := queried
  split
  · rename_i failed
    rintro final rfl
    exact ⟨rfl, .unchanged (by simp), by simp, fun faithful positive =>
      absurd failed (answers faithful positive)⟩
  · rename_i notError
    have positive := usable notError
    split
    · rename_i notOurs
      rintro final rfl
      refine ⟨rfl, .unchanged fun _ => ?_, fun _ => positive,
        fun _ _ => rfl⟩
      simp [wantedFilter, reports.absent notOurs notError]
    · rename_i ours
      have occupied := reports.ours (of_not_not ours)
      refine Program.Meets.call_restrict trivial ?_
      intro choice after index _ answered
      simp only [managerHandler, Option.some.injEq] at answered
      obtain ⟨rfl, rfl⟩ := answered
      dsimp only
      split
      · rename_i unusable
        exact absurd unusable (Int32.not_le.mpr positive)
      · refine Program.Meets.call_restrict trivial ?_
        intro choice after rc chosen answered
        simp only [managerHandler, Option.map_eq_some_iff] at answered
        obtain ⟨⟨kernel, code⟩, detached, rfl, rfl⟩ := answered
        rintro final rfl
        rcases TcKernel.detach_effect detached with
          ⟨rfl, rfl⟩ | ⟨_, vacant, _⟩ | ⟨nonzero, notMissing, rfl⟩
        · refine ⟨rfl, ⟨?_, ?_, rfl, fun _ => .inl rfl⟩, fun _ => positive,
            fun _ _ => rfl⟩
          · intro slot different
            exact TcKernel.remove_other _ different
          · simp only [wantedFilter, occupied]
            exact TcKernel.remove_same _ _
        · -- nobody removed the filter between the query and the call
          cases vacant.symm.trans occupied
        · refine ⟨rfl, .unchanged (by simp [nonzero, notMissing]),
            fun _ => positive, ?_⟩
          intro faithful _
          obtain ⟨pick, rfl⟩ := faithful.pick chosen
          exact absurd (detach_faithful addressable occupied detached) nonzero

theorem applyInterface_alone (policy : PolicyType) (shared : Shared)
    (addressable : spec.opts.addressable = true)
    (loaded : shared.kernel.program prog.fd = some prog.progId) :
    (applyInterface policy spec prog nicName).Meets
      (managerHandler.restrict permitted) (· = ·) (fun _ _ => True)
      (CallResult permitted nicName prog spec (policy.selects nicName)
        shared) shared := by
  unfold applyInterface
  split
  · rename_i selected
    rw [selected]
    exact attachFilter_alone shared addressable loaded
  · rename_i unselected
    rw [Bool.not_eq_true] at unselected
    rw [unselected]
    exact detachFilter_alone shared addressable

end Calls

/-- The loop of a pass, which keeps what each call returned. -/
def applyResults (policy : PolicyType) (spec : AttachSpec)
    (prog : BpfProgram) :
    List (String × InterfaceInfo) →
      ManagerProgram (List ((String × InterfaceInfo) × Bool))
  | [] => .done []
  | entry :: rest => do
      let applied ← applyInterface policy spec prog entry.1
      let results ← applyResults policy spec prog rest
      .done ((entry, applied) :: results)

theorem exists_run_of_applyResults_cons {policy : PolicyType}
    {spec : AttachSpec} {prog : BpfProgram} {entry : String × InterfaceInfo}
    {entries : List (String × InterfaceInfo)}
    {handler : Program.Handler ManagerOp ManagerOp.Answer Shared TcOutcome}
    {shared final : Shared} {outcomes : List TcOutcome}
    {results : List ((String × InterfaceInfo) × Bool)}
    {trace : ManagerTrace}
    (completed : (applyResults policy spec prog (entry :: entries)).run
      handler shared outcomes = some (results, final, trace)) :
    ∃ applied middle later firstOutcomes firstTrace laterOutcomes laterTrace,
      results = (entry, applied) :: later ∧
        (applyInterface policy spec prog entry.1).run handler shared
          firstOutcomes = some (applied, middle, firstTrace) ∧
        (applyResults policy spec prog entries).run handler middle
          laterOutcomes = some (later, final, laterTrace) := by
  obtain ⟨firstOutcomes, _, applied, middle, firstTrace, _, _, firstRun,
    restRun⟩ := Program.exists_run_of_bind completed
  obtain ⟨laterOutcomes, _, later, _, laterTrace, _, _, laterRun, doneRun⟩ :=
    Program.exists_run_of_bind restRun
  obtain ⟨_, rfl, rfl, _⟩ := Program.eq_of_run_done doneRun
  exact ⟨applied, middle, later, firstOutcomes, firstTrace, laterOutcomes,
    laterTrace, rfl, firstRun, laterRun⟩

/-- The loop of the source keeps the conjunction. -/
theorem applyInterfaces_eq (policy : PolicyType) (spec : AttachSpec)
    (prog : BpfProgram) (entries : List (String × InterfaceInfo))
    (isApplySuccess : Bool) :
    applyInterfaces policy spec prog entries isApplySuccess =
      applyResults policy spec prog entries >>= fun results =>
        .done (isApplySuccess && results.all Prod.snd) := by
  induction entries generalizing isApplySuccess with
  | nil => simp [applyInterfaces, applyResults]
  | cons entry rest induction =>
      simp only [applyInterfaces, applyResults, Program.bind_assoc,
        Program.done_bind, induction, List.all_cons, Bool.and_assoc]

/-- The effect of the calls of a pass on the kernel, in terms of what they
returned. -/
structure LoopEffect (policy : PolicyType) (spec : AttachSpec)
    (prog : BpfProgram) (entries : List (String × InterfaceInfo))
    (before : TcKernel) (results : List ((String × InterfaceInfo) × Bool))
    (after : TcKernel) : Prop where
  calls : results.map Prod.fst = entries
  content : ∀ entry applied, (entry, applied) ∈ results →
    after.filter (spec.slot entry.2.ifindex.toInt32) =
      if applied then
        wantedFilter prog.progId (policy.selects entry.1)
          (before.filter (spec.slot entry.2.ifindex.toInt32))
      else before.filter (spec.slot entry.2.ifindex.toInt32)
  frame : ∀ slot,
    (∀ entry ∈ entries, slot ≠ spec.slot entry.2.ifindex.toInt32) →
    after.filter slot = before.filter slot
  programs : after.program = before.program
  qdiscs : ∀ index, after.clsact index = before.clsact index ∨
    after.clsact index = true ∧ ∃ entry ∈ entries,
      policy.selects entry.1 = true ∧ index = entry.2.ifindex.toInt32

section Loop

variable {permitted : TcOutcome → Bool} {policy : PolicyType}
  {spec : AttachSpec} {prog : BpfProgram}

theorem LoopEffect.nil (kernel : TcKernel) :
    LoopEffect policy spec prog [] kernel [] kernel :=
  ⟨rfl, by simp, fun _ _ => rfl, rfl, fun _ => .inl rfl⟩

theorem LoopEffect.cons {entry : String × InterfaceInfo}
    {entries : List (String × InterfaceInfo)} {applied : Bool}
    {results : List ((String × InterfaceInfo) × Bool)}
    {before middle after : TcKernel}
    (apart : ∀ other ∈ entries, other.2.ifindex ≠ entry.2.ifindex)
    (first : CallEffect spec prog entry.2.ifindex.toInt32
      (policy.selects entry.1) before applied middle)
    (rest : LoopEffect policy spec prog entries middle results after) :
    LoopEffect policy spec prog (entry :: entries) before
      ((entry, applied) :: results) after := by
  have apartSlots : ∀ other ∈ entries,
      spec.slot other.2.ifindex.toInt32 ≠
        spec.slot entry.2.ifindex.toInt32 :=
    fun other member same =>
      apart other member (slot_ifindex_injective same)
  refine ⟨by simp [rest.calls], ?_, ?_, rest.programs.trans first.programs,
    ?_⟩
  · intro called returned member
    rcases List.mem_cons.mp member with here | later
    · cases here
      rw [rest.frame _ fun other otherMember =>
        (apartSlots other otherMember).symm]
      exact first.content
    · have called' : called ∈ entries := by
        rw [← rest.calls]
        exact List.mem_map_of_mem later
      rw [rest.content called returned later,
        first.frame _ (apartSlots called called')]
  · intro slot outside
    rw [rest.frame slot fun other member =>
      outside other (List.mem_cons_of_mem _ member)]
    exact first.frame slot (outside entry List.mem_cons_self)
  · intro index
    rcases rest.qdiscs index with same | ⟨secured, other, member, wanted⟩
    · rcases first.qdiscs index with unchanged | ⟨wanted, here, secured⟩
      · exact .inl (same.trans unchanged)
      · exact .inr ⟨same.trans secured, entry, List.mem_cons_self, wanted,
          here⟩
    · exact .inr ⟨secured, other, List.mem_cons_of_mem _ member, wanted⟩

/-- Induction over the entries; their indexes differ, so the calls act on
different slots. -/
theorem applyResults_effect {entries : List (String × InterfaceInfo)}
    {shared final : Shared} {outcomes : List TcOutcome}
    {results : List ((String × InterfaceInfo) × Bool)}
    {trace : ManagerTrace}
    (addressable : spec.opts.addressable = true)
    (loaded : shared.kernel.program prog.fd = some prog.progId)
    (within : ∀ entry ∈ entries, entry ∈ shared.interfaces)
    (distinct : (entries.map fun entry => entry.2.ifindex).Nodup)
    (completed : (applyResults policy spec prog entries).run
      (managerHandler.restrict permitted) shared outcomes =
        some (results, final, trace)) :
    LoopEffect policy spec prog entries shared.kernel results
        final.kernel ∧
      ∀ entry applied, (entry, applied) ∈ results →
        (applied = true → 0 < entry.2.ifindex.toInt32) ∧
          (OnlyFaithful permitted → 0 < entry.2.ifindex.toInt32 →
            applied = true) := by
  induction entries generalizing shared outcomes results trace with
  | nil =>
      obtain ⟨_, rfl, rfl, _⟩ := Program.eq_of_run_done completed
      exact ⟨.nil _, by simp⟩
  | cons entry entries induction =>
      obtain ⟨fresh, distinct⟩ := List.nodup_cons.mp distinct
      obtain ⟨applied, middle, later, _, _, _, _, rfl, firstRun, laterRun⟩ :=
        exists_run_of_applyResults_cons completed
      obtain ⟨result, _⟩ :=
        (applyInterface_alone policy shared addressable loaded).run firstRun
      have index : publishedIndex shared.interfaces entry.1 =
          entry.2.ifindex.toInt32 := by
        rw [publishedIndex,
          getIfindexByIfname_of_mem (within entry List.mem_cons_self)]
      have call := result.effect
      rw [index] at call
      obtain ⟨effect, returns⟩ := induction (call.programs ▸ loaded)
        (fun other member => result.interfaces ▸
          within other (List.mem_cons_of_mem _ member))
        distinct laterRun
      have apart : ∀ other ∈ entries,
          other.2.ifindex ≠ entry.2.ifindex := by
        intro other member same
        exact fresh (List.mem_map.mpr ⟨other, member, same⟩)
      refine ⟨effect.cons apart call, ?_⟩
      intro called returned member
      rcases List.mem_cons.mp member with here | rest
      · cases here
        rw [← index]
        exact ⟨result.usable, result.succeeds⟩
      · exact returns called returned rest

end Loop

/-- The attacher of a request, as a pass reads it. -/
def AttacherReads (shared : Shared) (request : ApplyRequest)
    (policy : PolicyType) (spec : AttachSpec) (prog : BpfProgram) : Prop :=
  ∃ attacher, shared.attachers[request.id]? = some attacher ∧
    attacher.policySnapshot = policy ∧ attacher.attachSpec = spec ∧
    attacher.prog = prog

theorem finishPass_run {request : ApplyRequest} {isApplySuccess success : Bool}
    {shared final : Shared} {outcomes : List TcOutcome}
    {trace : ManagerTrace}
    (completed : (finishPass request isApplySuccess).run managerHandler
      shared outcomes = some (success, final, trace)) :
    success = isApplySuccess ∧ final.kernel = shared.kernel := by
  unfold finishPass at completed
  split at completed
  · rename_i succeeded
    obtain ⟨_, rfl, rfl, _⟩ := Program.eq_of_run_done completed
    exact ⟨succeeded.symm, rfl⟩
  · rename_i failed
    rw [Bool.not_eq_true] at failed
    dsimp only at completed
    split at completed
    · obtain ⟨_, rfl, rfl, _⟩ := Program.eq_of_run_done completed
      exact ⟨failed.symm, rfl⟩
    · obtain ⟨_, _, after, _, _, _, appended, doneRun, _⟩ :=
        Program.exists_run_of_call completed
      obtain ⟨_, rfl, rfl, _⟩ := Program.eq_of_run_done doneRun
      cases appended
      exact ⟨failed.symm, rfl⟩

/-- The choices of a pass: two for its reads, those of the loop, and those
of its end. -/
def LoopChoices (outcomes loopOutcomes : List TcOutcome) : Prop :=
  ∃ readOutcomes finishOutcomes, readOutcomes.length = 2 ∧
    outcomes = readOutcomes ++ (loopOutcomes ++ finishOutcomes)

theorem LoopChoices.mem {outcomes loopOutcomes : List TcOutcome}
    (choices : LoopChoices outcomes loopOutcomes) {outcome : TcOutcome}
    (member : outcome ∈ loopOutcomes) : outcome ∈ outcomes := by
  obtain ⟨readOutcomes, finishOutcomes, _, rfl⟩ := choices
  exact List.mem_append_right _ (List.mem_append_left _ member)

/-- A completed pass is a completed loop over the snapshot. -/
theorem pass_loop {policy : PolicyType} {spec : AttachSpec}
    {prog : BpfProgram} {request : ApplyRequest} {shared final : Shared}
    {outcomes : List TcOutcome} {success : Bool} {trace : ManagerTrace}
    (reads : AttacherReads shared request policy spec prog)
    (completed : (applyTargetsPolicyPerAttacher request).run managerHandler
      shared outcomes = some (success, final, trace)) :
    ∃ loopOutcomes results after loopTrace,
      LoopChoices outcomes loopOutcomes ∧
        (applyResults policy spec prog shared.interfaces.items).run
          managerHandler shared loopOutcomes =
            some (results, after, loopTrace) ∧
        success = results.all Prod.snd ∧ final.kernel = after.kernel := by
  obtain ⟨attacher, found, rfl, rfl, rfl⟩ := reads
  obtain ⟨firstRead, _, _, _, _, rfl, read, afterRead, _⟩ :=
    Program.exists_run_of_call completed
  simp only [managerHandler, found, Option.map_some] at read
  cases read
  obtain ⟨secondRead, _, _, _, _, rfl, snapshot, body, _⟩ :=
    Program.exists_run_of_call afterRead
  cases snapshot
  obtain ⟨_, finishOutcomes, isApplySuccess, middle, _, _, rfl, loop,
    finish⟩ := Program.exists_run_of_bind body
  rw [applyInterfaces_eq] at loop
  obtain ⟨loopOutcomes, _, results, after, loopTrace, _, rfl, resultsRun,
    doneRun⟩ := Program.exists_run_of_bind loop
  obtain ⟨rfl, rfl, rfl, _⟩ := Program.eq_of_run_done doneRun
  obtain ⟨rfl, sameKernel⟩ := finishPass_run finish
  exact ⟨loopOutcomes, results, _, loopTrace,
    ⟨[firstRead, secondRead], finishOutcomes, rfl, by simp⟩, resultsRun,
    by simp, sameKernel⟩

theorem pass_effect {permitted : TcOutcome → Bool} {policy : PolicyType}
    {spec : AttachSpec} {prog : BpfProgram} {request : ApplyRequest}
    {shared final : Shared} {outcomes : List TcOutcome} {success : Bool}
    {trace : ManagerTrace}
    (addressable : spec.opts.addressable = true)
    (reads : AttacherReads shared request policy spec prog)
    (loaded : shared.kernel.program prog.fd = some prog.progId)
    (distinct : (shared.interfaces.items.map fun entry =>
      entry.2.ifindex).Nodup)
    (all : ∀ outcome ∈ outcomes, permitted outcome = true)
    (completed : (applyTargetsPolicyPerAttacher request).run managerHandler
      shared outcomes = some (success, final, trace)) :
    ∃ loopOutcomes results after loopTrace,
      LoopChoices outcomes loopOutcomes ∧
        (applyResults policy spec prog shared.interfaces.items).run
          managerHandler shared loopOutcomes =
            some (results, after, loopTrace) ∧
        success = results.all Prod.snd ∧
        LoopEffect policy spec prog shared.interfaces.items shared.kernel
          results final.kernel ∧
        ∀ entry applied, (entry, applied) ∈ results →
          (applied = true → 0 < entry.2.ifindex.toInt32) ∧
            (OnlyFaithful permitted → 0 < entry.2.ifindex.toInt32 →
              applied = true) := by
  obtain ⟨loopOutcomes, results, after, loopTrace, choices, loop, succeeded,
    sameKernel⟩ := pass_loop reads completed
  have limited := Program.run_restrict managerHandler
    (applyResults policy spec prog shared.interfaces.items) shared
    (fun outcome member => all outcome (choices.mem member))
  obtain ⟨effect, returns⟩ := applyResults_effect addressable loaded
    (fun _ member => member) distinct (limited.trans loop)
  exact ⟨loopOutcomes, results, after, loopTrace, choices, loop, succeeded,
    sameKernel ▸ effect, returns⟩

/-- A call which returned true has left the slot as it is wanted. -/
theorem LoopEffect.asWanted {policy : PolicyType} {spec : AttachSpec}
    {prog : BpfProgram} {entries : List (String × InterfaceInfo)}
    {before after : TcKernel}
    {results : List ((String × InterfaceInfo) × Bool)}
    (effect : LoopEffect policy spec prog entries before results after)
    {entry : String × InterfaceInfo} (called : (entry, true) ∈ results) :
    after.filter (spec.slot entry.2.ifindex.toInt32) = some prog.progId ↔
      policy.selects entry.1 = true := by
  rw [effect.content entry true called, if_pos rfl]
  exact wantedFilter_eq_some_iff

theorem LoopEffect.reconciled {policy : PolicyType} {spec : AttachSpec}
    {prog : BpfProgram} {entries : List (String × InterfaceInfo)}
    {before after : TcKernel}
    {results : List ((String × InterfaceInfo) × Bool)}
    (effect : LoopEffect policy spec prog entries before results after)
    (succeeded : results.all Prod.snd = true) :
    Reconciled policy spec prog entries after := by
  intro nicName info member
  rw [← effect.calls] at member
  obtain ⟨⟨entry, applied⟩, called, same⟩ := List.mem_map.mp member
  have applied_true : applied = true :=
    List.all_eq_true.mp succeeded _ called
  subst applied_true
  cases same
  exact effect.asWanted called

/-- Whatever the kernel lets fail, a pass which returns true leaves our
program exactly on the selected interfaces.  In any case each call which
returned true has done what the policy asks for in the slot of its interface,
each other call has left it, and nothing else has changed. -/
theorem pass_sound {policy : PolicyType} {spec : AttachSpec}
    {prog : BpfProgram} {request : ApplyRequest} {shared final : Shared}
    {outcomes : List TcOutcome} {success : Bool} {trace : ManagerTrace}
    (handle : spec.handle ≠ 0) (positive : 1 ≤ spec.priority)
    (bounded : spec.priority ≤ 65535)
    (reads : AttacherReads shared request policy spec prog)
    (loaded : shared.kernel.program prog.fd = some prog.progId)
    (distinct : (shared.interfaces.items.map fun entry =>
      entry.2.ifindex).Nodup)
    (completed : (applyTargetsPolicyPerAttacher request).run managerHandler
      shared outcomes = some (success, final, trace)) :
    (success = true → ∀ nicName info, (nicName, info) ∈ shared.interfaces →
      (final.kernel.filter (spec.slot info.ifindex.toInt32) =
          some prog.progId ↔
        policy.isAll = true ∨ nicName ∈ policy.policy)) ∧
      ∃ loopOutcomes results after loopTrace,
        LoopChoices outcomes loopOutcomes ∧
          (applyResults policy spec prog shared.interfaces.items).run
            managerHandler shared loopOutcomes =
              some (results, after, loopTrace) ∧
          success = results.all Prod.snd ∧
          LoopEffect policy spec prog shared.interfaces.items shared.kernel
            results final.kernel := by
  obtain ⟨loopOutcomes, results, after, loopTrace, choices, loop, succeeded,
    effect, _⟩ := pass_effect
      (AttachSpec.Accepted.addressable ⟨handle, positive, bounded⟩) reads
      loaded distinct (fun _ _ => rfl) completed
  refine ⟨?_, loopOutcomes, results, after, loopTrace, choices, loop,
    succeeded, effect⟩
  intro success nicName info member
  have slot := effect.reconciled (succeeded ▸ success) nicName info member
  rw [SlotAsWanted] at slot
  rw [slot, PolicyType.selects_iff]

theorem freshShared_reads (policy : PolicyType) (spec : AttachSpec)
    (interfaces : InterfaceMap) :
    AttacherReads (freshShared policy spec interfaces) (.fresh 0 0) policy
      spec sampleProgram :=
  ⟨_, rfl, rfl, rfl, rfl⟩

/-- A snapshot with two interfaces. -/
def interfacePair : InterfaceMap where
  items :=
    (singleInterface "eth0" 2).items ++ (singleInterface "eth1" 3).items
  distinct := by decide

/-- The answers of a pass in which the qdisc of the second interface is
refused. -/
def refusingAnswers : List TcOutcome :=
  List.replicate 8 answersFaithfully ++ [.failing (-1), answersFaithfully]

/-- What a pass over the two interfaces returns and leaves in their slots. -/
def pairPass (policy : PolicyType) (outcomes : List TcOutcome) :
    Option (Bool × Option UInt32 × Option UInt32) :=
  ((applyTargetsPolicyPerAttacher (.fresh 0 0)).run managerHandler
    (freshShared policy {} interfacePair) outcomes).map
      fun (success, final, _) => (success,
        final.kernel.filter (({} : AttachSpec).slot 2),
        final.kernel.filter (({} : AttachSpec).slot 3))

theorem exists_run_of_pairPass {policy : PolicyType}
    {outcomes : List TcOutcome} {success : Bool}
    {first second : Option UInt32}
    (passed : pairPass policy outcomes = some (success, first, second)) :
    ∃ final trace,
      (applyTargetsPolicyPerAttacher (.fresh 0 0)).run managerHandler
          (freshShared policy {} interfacePair) outcomes =
        some (success, final, trace) ∧
      final.kernel.filter (({} : AttachSpec).slot 2) = first ∧
      final.kernel.filter (({} : AttachSpec).slot 3) = second := by
  obtain ⟨⟨_, final, trace⟩, completed, values⟩ :=
    Option.map_eq_some_iff.mp passed
  cases values
  exact ⟨final, trace, completed, rfl, rfl⟩

/-- A pass in which a call fails, and one in which none does. -/
theorem pass_sound_pair :
    (∃ final trace results,
      (applyTargetsPolicyPerAttacher (.fresh 0 0)).run managerHandler
          (freshShared { isAll := true } {} interfacePair) refusingAnswers =
        some (false, final, trace) ∧
      LoopEffect { isAll := true } {} sampleProgram interfacePair.items
        sampleKernel results final.kernel ∧
      false = results.all Prod.snd ∧
      final.kernel.filter (({} : AttachSpec).slot 2) = some 1 ∧
      final.kernel.filter (({} : AttachSpec).slot 3) = none) ∧
    ∃ final trace,
      (applyTargetsPolicyPerAttacher (.fresh 0 0)).run managerHandler
          (freshShared aliasPolicy {} interfacePair)
          (List.replicate 9 answersFaithfully) =
        some (true, final, trace) ∧
      (final.kernel.filter (({} : AttachSpec).slot 2) = some 1 ↔
        aliasPolicy.isAll = true ∨ "eth0" ∈ aliasPolicy.policy) ∧
      (final.kernel.filter (({} : AttachSpec).slot 3) = some 1 ↔
        aliasPolicy.isAll = true ∨ "eth1" ∈ aliasPolicy.policy) := by
  have distinct : (interfacePair.items.map fun entry =>
      entry.2.ifindex).Nodup := by decide
  constructor
  · obtain ⟨final, trace, completed, first, second⟩ :=
      exists_run_of_pairPass (show pairPass { isAll := true }
        refusingAnswers = some (false, some 1, none) by decide +kernel)
    obtain ⟨_, _, results, _, _, _, _, failed, effect⟩ :=
      pass_sound (by decide) (by decide) (by decide)
        (freshShared_reads { isAll := true } {} interfacePair) rfl distinct
        completed
    exact ⟨final, trace, results, completed, effect, failed, first, second⟩
  · obtain ⟨final, trace, completed, _⟩ :=
      exists_run_of_pairPass (show pairPass aliasPolicy
        (List.replicate 9 answersFaithfully) = some (true, some 1, none) by
          decide +kernel)
    have sound := (pass_sound (by decide) (by decide) (by decide)
      (freshShared_reads aliasPolicy {} interfacePair) rfl distinct
      completed).1 rfl
    exact ⟨final, trace, completed, sound "eth0" _ List.mem_cons_self,
      sound "eth1" _ (List.mem_cons_of_mem _ List.mem_cons_self)⟩

end LibbpfControl.BpfTool
