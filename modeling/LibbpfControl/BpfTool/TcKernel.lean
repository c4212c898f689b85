import Mathlib.Logic.Function.Basic

/-!
# Traffic-control state of the kernel

The four libbpf calls made by the manager act on two kinds of state: which
interfaces have a `clsact` qdisc, and which program sits in each filter slot.
A slot is the quadruple which addresses a filter.

A call is either faithful to that state or fails with an error code the
faithful call cannot give, and then has no effect.  The choice between the
two is the `TcOutcome` of the call.
-/

namespace LibbpfControl.BpfTool

structure BpfProgram where
  progId : UInt32
  fd : Int32
  deriving DecidableEq, Repr

structure AttachSpec where
  priority : Int32 := 100
  handle : Int32 := 1
  isIngress : Bool := true
  deriving DecidableEq, Repr

/-- `struct bpf_tc_hook`: the interface and the attach point. -/
structure TcHook where
  ifindex : Int32
  isIngress : Bool
  deriving DecidableEq, Repr

/-- The handle and the priority of `struct bpf_tc_opts`. -/
structure TcOpts where
  handle : UInt32
  priority : UInt32
  deriving DecidableEq, Repr

structure Slot where
  hook : TcHook
  opts : TcOpts
  deriving DecidableEq, Repr

/-- `ifindex` is assigned from the unsigned index of the snapshot. -/
def AttachSpec.hook (spec : AttachSpec) (ifindex : Int32) : TcHook :=
  ⟨ifindex, spec.isIngress⟩

/-- The signed fields of the specification as the unsigned ones of the
options. -/
def AttachSpec.opts (spec : AttachSpec) : TcOpts :=
  ⟨spec.handle.toUInt32, spec.priority.toUInt32⟩

def AttachSpec.slot (spec : AttachSpec) (ifindex : Int32) : Slot :=
  ⟨spec.hook ifindex, spec.opts⟩

def eNOENT : Int := 2
def eEXIST : Int := 17
def eNODEV : Int := 19
def eINVAL : Int := 22

/-- A filter exists only below a `clsact` qdisc. -/
structure TcKernel where
  clsact : Int32 → Bool
  filter : Slot → Option UInt32
  /-- The program behind a descriptor. -/
  program : Int32 → Option UInt32
  hooked : ∀ slot, filter slot ≠ none → clsact slot.hook.ifindex = true

/-- Options which address exactly one filter. -/
def TcOpts.addressable (opts : TcOpts) : Bool :=
  opts.handle ≠ 0 && opts.priority ≠ 0 && opts.priority ≤ 65535

theorem TcOpts.addressable_iff {opts : TcOpts} :
    opts.addressable = true ↔
      (opts.handle ≠ 0 ∧ opts.priority ≠ 0) ∧ opts.priority ≤ 65535 := by
  simp [TcOpts.addressable]

/-- A specification which addresses a single filter. -/
def AttachSpec.Accepted (spec : AttachSpec) : Prop :=
  spec.handle ≠ 0 ∧ 1 ≤ spec.priority ∧ spec.priority ≤ 65535

instance (spec : AttachSpec) : Decidable spec.Accepted :=
  inferInstanceAs (Decidable (_ ∧ _))

theorem AttachSpec.Accepted.addressable {spec : AttachSpec}
    (accepted : spec.Accepted) : spec.opts.addressable = true := by
  obtain ⟨handle, positive, bounded⟩ := accepted
  have value : spec.priority.toInt = spec.opts.priority.toNat := by
    have low := Int32.le_iff_toInt_le.mp positive
    have bits : spec.priority.toInt = spec.priority.toBitVec.toInt := rfl
    have number : spec.priority.toBitVec.toNat =
      spec.opts.priority.toNat := rfl
    have small := spec.priority.toBitVec.isLt
    have one : (1 : Int32).toInt = 1 := rfl
    rw [bits, BitVec.toInt_eq_toNat_cond] at low ⊢
    split at low
    · rw [if_pos (by assumption), number]
    · omega
  have low := Int32.le_iff_toInt_le.mp positive
  have high := Int32.le_iff_toInt_le.mp bounded
  have one : (1 : Int32).toInt = 1 := rfl
  have most : (65535 : Int32).toInt = 65535 := rfl
  rw [TcOpts.addressable_iff]
  refine ⟨⟨?_, ?_⟩, ?_⟩
  · intro zero
    exact handle (congrArg UInt32.toInt32 zero)
  · intro zero
    have nothing : spec.opts.priority.toNat = 0 := congrArg UInt32.toNat zero
    omega
  · rw [UInt32.le_iff_toNat_le]
    have limit : (65535 : UInt32).toNat = 65535 := rfl
    omega

/-- An address as the options ask for it; zero leaves a field to the
kernel. -/
def TcOpts.Matches (opts address : TcOpts) : Prop :=
  (opts.handle ≠ 0 → address.handle = opts.handle) ∧
    (opts.priority ≠ 0 → address.priority = opts.priority)

inductive TcOutcome where
  /-- `pick` is the free address chosen by the kernel where the options leave
  the handle or the priority open. -/
  | faithful (pick : TcOpts)
  | failing (error : Int)
  deriving DecidableEq, Repr

namespace TcKernel

/-- Put a program into a slot. -/
def install (kernel : TcKernel) (slot : Slot) (progId : UInt32)
    (secured : kernel.clsact slot.hook.ifindex = true) : TcKernel :=
  { kernel with
    filter := Function.update kernel.filter slot (some progId)
    hooked := by
      intro other occupied
      by_cases same : other = slot
      · rw [same]
        exact secured
      · rw [Function.update_of_ne same] at occupied
        exact kernel.hooked other occupied }

@[simp] theorem install_same (kernel : TcKernel) (slot : Slot)
    (progId : UInt32) (secured : kernel.clsact slot.hook.ifindex = true) :
    (kernel.install slot progId secured).filter slot = some progId := by
  simp [install]

theorem install_other (kernel : TcKernel) {slot other : Slot}
    (progId : UInt32) (secured : kernel.clsact slot.hook.ifindex = true)
    (different : other ≠ slot) :
    (kernel.install slot progId secured).filter other =
      kernel.filter other := by
  simp [install, different]

/-- Empty a slot. -/
def remove (kernel : TcKernel) (slot : Slot) : TcKernel :=
  { kernel with
    filter := Function.update kernel.filter slot none
    hooked := by
      intro other occupied
      by_cases same : other = slot
      · simp [same] at occupied
      · rw [Function.update_of_ne same] at occupied
        exact kernel.hooked other occupied }

@[simp] theorem remove_same (kernel : TcKernel) (slot : Slot) :
    (kernel.remove slot).filter slot = none := by
  simp [remove]

theorem remove_other (kernel : TcKernel) {slot other : Slot}
    (different : other ≠ slot) :
    (kernel.remove slot).filter other = kernel.filter other := by
  simp [remove, different]

/-- Give an interface its `clsact` qdisc. -/
def secure (kernel : TcKernel) (ifindex : Int32) : TcKernel :=
  { kernel with
    clsact := Function.update kernel.clsact ifindex true
    hooked := by
      intro slot occupied
      by_cases same : slot.hook.ifindex = ifindex
      · rw [same, Function.update_self]
      · rw [Function.update_of_ne same]
        exact kernel.hooked slot occupied }

/-- `bpf_tc_hook_create`. -/
def hookCreate (kernel : TcKernel) (hook : TcHook) :
    TcOutcome → Option (TcKernel × Int)
  | .faithful _ =>
      if kernel.clsact hook.ifindex then some (kernel, -eEXIST)
      else some (kernel.secure hook.ifindex, 0)
  | .failing error =>
      if error = 0 ∨ error = -eEXIST then none else some (kernel, error)

/-- `bpf_tc_query`: the return code and the program id. -/
def query (kernel : TcKernel) (hook : TcHook) (opts : TcOpts) :
    TcOutcome → Option (TcKernel × Int × UInt32)
  | .faithful _ =>
      if opts.addressable && kernel.clsact hook.ifindex then
        match kernel.filter ⟨hook, opts⟩ with
        | none => some (kernel, -eNOENT, 0)
        | some progId => some (kernel, 0, progId)
      else some (kernel, -eINVAL, 0)
  | .failing error =>
      if error = 0 ∨ error = -eINVAL ∨ error = -eNOENT then none
      else some (kernel, error, 0)

/-- The address at which `bpf_tc_attach` installs: the one requested, or a
free one picked by the kernel where the handle or the priority is zero. -/
def attachAddress (kernel : TcKernel) (hook : TcHook) (opts pick : TcOpts) :
    Option TcOpts :=
  if opts.handle ≠ 0 ∧ opts.priority ≠ 0 then some opts
  else if pick.addressable = true ∧ kernel.filter ⟨hook, pick⟩ = none ∧
      (opts.handle ≠ 0 → pick.handle = opts.handle) ∧
      (opts.priority ≠ 0 → pick.priority = opts.priority) then some pick
  else none

/-- `bpf_tc_attach`.  Without `replace` an occupied slot is refused. -/
def attach (kernel : TcKernel) (hook : TcHook) (opts : TcOpts)
    (progFd : Int32) (replace : Bool) :
    TcOutcome → Option (TcKernel × Int)
  | .faithful pick =>
      if 65535 < opts.priority then some (kernel, -eINVAL)
      else if secured : kernel.clsact hook.ifindex = true then
        match kernel.program progFd with
        | none => some (kernel, -eINVAL)
        | some progId =>
            (kernel.attachAddress hook opts pick).map fun address =>
              if kernel.filter ⟨hook, address⟩ ≠ none ∧ replace = false then
                (kernel, -eEXIST)
              else (kernel.install ⟨hook, address⟩ progId secured, 0)
      else some (kernel, -eINVAL)
  | .failing error => if error = 0 then none else some (kernel, error)

/-- `bpf_tc_detach`. -/
def detach (kernel : TcKernel) (hook : TcHook) (opts : TcOpts) :
    TcOutcome → Option (TcKernel × Int)
  | .faithful _ =>
      if opts.addressable && kernel.clsact hook.ifindex then
        match kernel.filter ⟨hook, opts⟩ with
        | none => some (kernel, -eNOENT)
        | some _ => some (kernel.remove ⟨hook, opts⟩, 0)
      else some (kernel, -eINVAL)
  | .failing error =>
      if error = 0 ∨ error = -eNOENT then none else some (kernel, error)

theorem hookCreate_effect {kernel after : TcKernel} {hook : TcHook}
    {outcome : TcOutcome} {rc : Int}
    (answered : kernel.hookCreate hook outcome = some (after, rc)) :
    after.filter = kernel.filter ∧ after.program = kernel.program ∧
      (rc = 0 ∨ rc = -eEXIST → after.clsact hook.ifindex = true) := by
  cases outcome with
  | failing error =>
      simp only [hookCreate] at answered
      split at answered
      · cases answered
      · rename_i other
        simp only [Option.some.injEq, Prod.mk.injEq] at answered
        obtain ⟨rfl, rfl⟩ := answered
        exact ⟨rfl, rfl, fun listed => (other listed).elim⟩
  | faithful pick =>
      simp only [hookCreate] at answered
      split at answered <;>
        simp only [Option.some.injEq, Prod.mk.injEq] at answered <;>
        obtain ⟨rfl, rfl⟩ := answered
      · rename_i hooked
        exact ⟨rfl, rfl, fun _ => hooked⟩
      · exact ⟨rfl, rfl, fun _ => by simp [secure]⟩

/-- Creating the qdisc changes nothing but the qdisc of its interface. -/
theorem hookCreate_qdiscs {kernel after : TcKernel} {hook : TcHook}
    {outcome : TcOutcome} {rc : Int}
    (answered : kernel.hookCreate hook outcome = some (after, rc))
    (index : Int32) :
    after.clsact index = kernel.clsact index ∨
      index = hook.ifindex ∧ after.clsact index = true := by
  cases outcome with
  | failing error =>
      simp only [hookCreate] at answered
      split at answered
      · cases answered
      · cases answered
        exact .inl rfl
  | faithful pick =>
      simp only [hookCreate] at answered
      split at answered
      · cases answered
        exact .inl rfl
      · cases answered
        by_cases same : index = hook.ifindex
        · exact .inr ⟨same, by simp [secure, same]⟩
        · exact .inl (by simp [secure, same])

/-- Without a failure the interface has its qdisc, new or not. -/
theorem exists_hookCreate (kernel : TcKernel) (hook : TcHook)
    (pick : TcOpts) :
    ∃ hooked rc, kernel.hookCreate hook (.faithful pick) =
        some (hooked, rc) ∧
      ¬(rc ≠ 0 ∧ rc ≠ -eEXIST) ∧
      hooked.filter = kernel.filter ∧ hooked.program = kernel.program ∧
      hooked.clsact hook.ifindex = true := by
  obtain ⟨hooked, rc, created, goesOn⟩ : ∃ hooked rc,
      kernel.hookCreate hook (.faithful pick) = some (hooked, rc) ∧
        (rc = 0 ∨ rc = -eEXIST) := by
    simp only [hookCreate]
    split
    · exact ⟨_, _, rfl, Or.inr rfl⟩
    · exact ⟨_, _, rfl, Or.inl rfl⟩
  obtain ⟨sameFilter, samePrograms, hookedAfter⟩ := hookCreate_effect created
  exact ⟨hooked, rc, created, fun failed => goesOn.elim failed.1 failed.2,
    sameFilter, samePrograms, hookedAfter goesOn⟩

/-- A query changes nothing, and reports a program only where it is. -/
theorem query_effect {kernel after : TcKernel} {hook : TcHook}
    {opts : TcOpts} {outcome : TcOutcome} {answer : Int × UInt32}
    (answered : kernel.query hook opts outcome = some (after, answer)) :
    after = kernel ∧
      (answer.1 = 0 → kernel.filter ⟨hook, opts⟩ = some answer.2) := by
  cases outcome with
  | failing error =>
      simp only [query] at answered
      split at answered
      · cases answered
      · rename_i other
        simp only [Option.some.injEq, Prod.mk.injEq] at answered
        obtain ⟨rfl, rfl⟩ := answered
        exact ⟨rfl, fun zero => (other (Or.inl zero)).elim⟩
  | faithful pick =>
      simp only [query] at answered
      split at answered
      · cases content : kernel.filter ⟨hook, opts⟩ with
        | none =>
            simp only [content, Option.some.injEq, Prod.mk.injEq] at answered
            obtain ⟨rfl, rfl⟩ := answered
            exact ⟨rfl, by simp [eNOENT]⟩
        | some progId =>
            simp only [content, Option.some.injEq, Prod.mk.injEq] at answered
            obtain ⟨rfl, rfl⟩ := answered
            exact ⟨rfl, fun _ => rfl⟩
      · simp only [Option.some.injEq, Prod.mk.injEq] at answered
        obtain ⟨rfl, rfl⟩ := answered
        exact ⟨rfl, by simp [eINVAL]⟩

/-- An attach call at one address either installs the program of the
descriptor there or leaves the kernel as it was. -/
theorem attach_effect {kernel after : TcKernel} {hook : TcHook}
    {opts : TcOpts} {progFd : Int32} {replace : Bool} {outcome : TcOutcome}
    {rc : Int} (addressable : opts.addressable = true)
    (answered : kernel.attach hook opts progFd replace outcome =
      some (after, rc)) :
    (rc = 0 ∧ ∃ progId secured, kernel.program progFd = some progId ∧
      after = kernel.install ⟨hook, opts⟩ progId secured) ∨
      (rc ≠ 0 ∧ after = kernel) := by
  have fixed := (TcOpts.addressable_iff.mp addressable).1
  cases outcome with
  | failing error =>
      simp only [attach] at answered
      split at answered
      · cases answered
      · rename_i nonzero
        simp only [Option.some.injEq, Prod.mk.injEq] at answered
        obtain ⟨rfl, rfl⟩ := answered
        exact Or.inr ⟨nonzero, rfl⟩
  | faithful pick =>
      simp only [attach] at answered
      split at answered
      · simp only [Option.some.injEq, Prod.mk.injEq] at answered
        obtain ⟨rfl, rfl⟩ := answered
        exact Or.inr ⟨by decide, rfl⟩
      · split at answered
        · rename_i secured
          split at answered
          · simp only [Option.some.injEq, Prod.mk.injEq] at answered
            obtain ⟨rfl, rfl⟩ := answered
            exact Or.inr ⟨by decide, rfl⟩
          · rename_i progId loaded
            simp only [attachAddress, fixed, ne_eq, not_false_eq_true,
              and_self, if_true, Option.map_some, Option.some.injEq]
              at answered
            split at answered <;> simp only [Prod.mk.injEq] at answered <;>
              obtain ⟨rfl, rfl⟩ := answered
            · exact Or.inr ⟨by decide, rfl⟩
            · exact Or.inl ⟨rfl, progId, secured, loaded, rfl⟩
        · simp only [Option.some.injEq, Prod.mk.injEq] at answered
          obtain ⟨rfl, rfl⟩ := answered
          exact Or.inr ⟨by decide, rfl⟩

/-- Attaching does not change what descriptors stand for. -/
theorem attach_program {kernel after : TcKernel} {hook : TcHook}
    {opts : TcOpts} {progFd : Int32} {replace : Bool} {outcome : TcOutcome}
    {rc : Int}
    (answered : kernel.attach hook opts progFd replace outcome =
      some (after, rc)) :
    after.program = kernel.program := by
  cases outcome with
  | failing error =>
      simp only [attach] at answered
      split at answered <;> cases answered
      rfl
  | faithful pick =>
      simp only [attach] at answered
      split at answered
      · cases answered
        rfl
      · split at answered
        · split at answered
          · cases answered
            rfl
          · obtain ⟨address, _, installed⟩ :=
              Option.map_eq_some_iff.mp answered
            split at installed <;> cases installed <;> rfl
        · cases answered
          rfl

/-- A detach call empties the slot, finds it empty, or leaves the kernel as
it was. -/
theorem detach_effect {kernel after : TcKernel} {hook : TcHook}
    {opts : TcOpts} {outcome : TcOutcome} {rc : Int}
    (answered : kernel.detach hook opts outcome = some (after, rc)) :
    (rc = 0 ∧ after = kernel.remove ⟨hook, opts⟩) ∨
      (rc = -eNOENT ∧ kernel.filter ⟨hook, opts⟩ = none ∧ after = kernel) ∨
      (rc ≠ 0 ∧ rc ≠ -eNOENT ∧ after = kernel) := by
  cases outcome with
  | failing error =>
      simp only [detach] at answered
      split at answered
      · cases answered
      · rename_i other
        simp only [Option.some.injEq, Prod.mk.injEq] at answered
        obtain ⟨rfl, rfl⟩ := answered
        simp only [not_or] at other
        exact Or.inr (Or.inr ⟨other.1, other.2, rfl⟩)
  | faithful pick =>
      simp only [detach] at answered
      split at answered
      · split at answered <;>
          simp only [Option.some.injEq, Prod.mk.injEq] at answered <;>
          obtain ⟨rfl, rfl⟩ := answered
        · rename_i vacant
          exact Or.inr (Or.inl ⟨rfl, vacant, rfl⟩)
        · exact Or.inl ⟨rfl, rfl⟩
      · simp only [Option.some.injEq, Prod.mk.injEq] at answered
        obtain ⟨rfl, rfl⟩ := answered
        exact Or.inr (Or.inr ⟨by decide, by decide, rfl⟩)

end TcKernel

def sampleProgram : BpfProgram := { progId := 1, fd := 3 }

/-- A kernel without any filter, in which one program is loaded. -/
def sampleKernel : TcKernel where
  clsact _ := false
  filter _ := none
  program fd :=
    if fd = sampleProgram.fd then some sampleProgram.progId else none
  hooked _ occupied := (occupied rfl).elim

end LibbpfControl.BpfTool
