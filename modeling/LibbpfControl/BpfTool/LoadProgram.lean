import LibbpfControl.Program
import LibbpfControl.BpfTool.ProgLoader

/-!
# Loading a program

`load_program` goes through libbpf in a fixed order: the object file is
opened, the type of the program set, the wrappers bound to the maps of the
object, the object loaded, and the descriptor of the program duplicated.  The
object belongs to a shared pointer and is closed when the function returns,
on every path; the duplicate outlives it.

Every call may fail.  libbpf in turn expects its calls in some order: no
object is used after it is closed, types and maps are set before it is
loaded, and its programs have descriptors afterwards only.

A binding is a call of `bpf_map__reuse_fd` which succeeded.  Nothing keeps two
wrappers from having one name: both are bound then, and the program uses the
map of the later one.
-/

namespace LibbpfControl.BpfTool

open BpfControl

/-- An object file: the names of its maps, and those of its programs and
their sections. -/
structure ObjectFile where
  mapNames : List Bytes
  programs : List (Bytes × Option Bytes)
  deriving DecidableEq, Repr

/-- `struct bpf_object`. -/
structure ObjectState where
  maps : BpfObject
  programs : List (Bytes × Option Bytes)
  /-- The types set so far. -/
  types : Nat → Option Int
  loaded : Bool

def ObjectFile.opened (file : ObjectFile) : ObjectState where
  maps := { mapNames := file.mapNames }
  programs := file.programs
  types _ := none
  loaded := false

/-- The descriptor which libbpf keeps of a program, represented by the
program. -/
structure ProgramFd where
  object : Nat
  program : Nat
  deriving DecidableEq, Repr

inductive LoaderOp where
  | initializeRuntime
  | fileExists (path : Bytes)
  | openFile (path : Bytes)
  | findProgramByName (object : Nat) (name : Bytes)
  | setType (object program : Nat) (type : Int)
  | findMapByName (object : Nat) (name : Bytes)
  | reuseFd (object map : Nat) (fd : Int)
  | load (object : Nat)
  | programFd (object program : Nat)
  | dup (fd : ProgramFd)
  | getInfoByFd (fd : Nat)
  | sectionName (object program : Nat)
  | closeFd (fd : Nat)
  | closeObject (object : Nat)
  deriving DecidableEq, Repr

/-- A null pointer or a negative descriptor is `none`. -/
def LoaderAnswer : LoaderOp → Type
  | .initializeRuntime => Int
  | .fileExists _ => Bool
  | .openFile _ => Option Nat
  | .findProgramByName _ _ => Option Nat
  | .setType _ _ _ => Unit
  | .findMapByName _ _ => Option Nat
  | .reuseFd _ _ _ => Int
  | .load _ => Int
  | .programFd _ _ => Option ProgramFd
  | .dup _ => Option Nat
  | .getInfoByFd _ => Option UInt32
  | .sectionName _ _ => Option Bytes
  | .closeFd _ => Int
  | .closeObject _ => Unit

abbrev LoaderProgram (α : Type) : Type := Program LoaderOp LoaderAnswer α

structure Libbpf where
  files : Bytes → Option ObjectFile
  objects : Ledger
  contents : Nat → ObjectState
  /-- The maps which refuse a descriptor. -/
  refuses : Nat → Bool
  /-- The descriptors obtained by `dup`. -/
  descriptors : Ledger
  programBehind : Nat → ProgramFd
  /-- The number which the kernel gives a program. -/
  progId : ProgramFd → UInt32
  /-- Calls which were made when they must not be. -/
  violations : List LoaderOp

namespace Libbpf

def isOpen (libbpf : Libbpf) (object : Nat) : Bool :=
  object < libbpf.objects.opened && object ∉ libbpf.objects.closed

def hasDescriptor (libbpf : Libbpf) (fd : Nat) : Bool :=
  fd < libbpf.descriptors.opened && fd ∉ libbpf.descriptors.closed

/-- The calls which may be made: on open objects and descriptors, and what
prepares an object before it is loaded. -/
def allows (libbpf : Libbpf) : LoaderOp → Bool
  | .findProgramByName object _ => libbpf.isOpen object
  | .setType object _ _ =>
      libbpf.isOpen object && !(libbpf.contents object).loaded
  | .findMapByName object _ => libbpf.isOpen object
  | .reuseFd object _ fd =>
      libbpf.isOpen object && !(libbpf.contents object).loaded && 0 ≤ fd
  | .load object => libbpf.isOpen object && !(libbpf.contents object).loaded
  | .programFd object _ =>
      libbpf.isOpen object && (libbpf.contents object).loaded
  | .dup fd =>
      libbpf.isOpen fd.object && (libbpf.contents fd.object).loaded
  | .getInfoByFd fd => libbpf.hasDescriptor fd
  | .sectionName object _ => libbpf.isOpen object
  | .closeFd fd => libbpf.hasDescriptor fd
  | .closeObject object => libbpf.isOpen object
  | _ => true

def record (libbpf : Libbpf) (operation : LoaderOp) : Libbpf :=
  if libbpf.allows operation then libbpf
  else { libbpf with violations := operation :: libbpf.violations }

def setContents (libbpf : Libbpf) (object : Nat) (contents : ObjectState) :
    Libbpf :=
  { libbpf with
    contents := Function.update libbpf.contents object contents }

/-- A new object, with the contents it has come to. -/
def openObject (libbpf : Libbpf) (contents : ObjectState) : Libbpf :=
  { libbpf with
    objects := libbpf.objects.acquire
    contents := Function.update libbpf.contents libbpf.objects.fresh
      contents }

def newDescriptor (libbpf : Libbpf) (fd : ProgramFd) : Libbpf :=
  { libbpf with
    descriptors := libbpf.descriptors.acquire
    programBehind := Function.update libbpf.programBehind
      libbpf.descriptors.fresh fd }

def closeFd (libbpf : Libbpf) (fd : Nat) : Libbpf :=
  { libbpf with descriptors := libbpf.descriptors.release fd }

def closeObject (libbpf : Libbpf) (object : Nat) : Libbpf :=
  { libbpf with objects := libbpf.objects.release object }

/-- Whether the call fails is chosen outside, where it can fail at all. -/
def answer (libbpf : Libbpf) (operation : LoaderOp) (fails : Bool) :
    Libbpf × LoaderAnswer operation :=
  match operation with
  | .initializeRuntime => (libbpf, if fails then (-1 : Int) else (0 : Int))
  | .fileExists path =>
      (libbpf, if fails then false else (libbpf.files path).isSome)
  | .openFile path =>
      match if fails then none else libbpf.files path with
      | none => (libbpf, (none : Option Nat))
      | some file =>
          (libbpf.openObject file.opened, some libbpf.objects.fresh)
  | .findProgramByName object name =>
      (libbpf, (libbpf.contents object).programs.findIdx?
        fun program => program.1 = cString name)
  | .setType object program type =>
      let contents := libbpf.contents object
      (if contents.loaded then libbpf
        else libbpf.setContents object
          { contents with
            types := Function.update contents.types program (some type) },
        ())
  | .findMapByName object name =>
      (libbpf, (libbpf.contents object).maps.findMapByName name)
  | .reuseFd object map fd =>
      let contents := libbpf.contents object
      if contents.loaded || libbpf.refuses map then (libbpf, (-1 : Int))
      else
        (libbpf.setContents object
          { contents with maps := contents.maps.reuseFd map fd }, (0 : Int))
  | .load object =>
      let contents := libbpf.contents object
      if fails || contents.loaded then (libbpf, (-1 : Int))
      else (libbpf.setContents object { contents with loaded := true },
        (0 : Int))
  | .programFd object program =>
      (libbpf,
        if fails || !(libbpf.contents object).loaded then
          (none : Option ProgramFd)
        else some ⟨object, program⟩)
  | .dup fd =>
      if fails then (libbpf, (none : Option Nat))
      else (libbpf.newDescriptor fd, some libbpf.descriptors.fresh)
  | .getInfoByFd fd =>
      (libbpf,
        if fails then (none : Option UInt32)
        else some (libbpf.progId (libbpf.programBehind fd)))
  | .sectionName object program =>
      (libbpf, (libbpf.contents object).programs[program]?.bind Prod.snd)
  | .closeFd fd =>
      (libbpf.closeFd fd, if fails then (-1 : Int) else (0 : Int))
  | .closeObject object => (libbpf.closeObject object, ())

end Libbpf

def loaderHandler : Program.Handler LoaderOp LoaderAnswer Libbpf Bool where
  answer libbpf operation fails :=
    some ((libbpf.record operation).answer operation fails)

def callLibbpf (operation : LoaderOp) :
    LoaderProgram (LoaderAnswer operation) :=
  .perform operation

/-- The types which `is_correct_bpf_prog_type` lists. -/
def isCorrectBpfProgType (type : Int) : Bool :=
  type ∈ ([3, 4, 6, 1, 2, 5, 17, 29, 13, 8, 9] : List Int)

/-- `struct BpfProgram` with all its members. -/
structure LoadedProgram where
  progId : UInt32
  type : Int
  fd : Int
  functionName : Bytes
  sectionName : Bytes
  deriving DecidableEq, Repr

def loadBpfObject (objPath : Bytes) : LoaderProgram (Option Nat) := do
  let present : Bool ← callLibbpf (.fileExists objPath)
  if !present then return none
  else callLibbpf (.openFile objPath)

def setBpfProgType (object : Nat) (functionName : Bytes) (type : Int) :
    LoaderProgram (Option Nat) := do
  if !isCorrectBpfProgType type then return none
  else
    let found : Option Nat ← callLibbpf (.findProgramByName object functionName)
    match found with
    | none => return none
    | some prog =>
        callLibbpf (.setType object prog type)
        return some prog

/-- `reuse_bpf_map_in_prog` as calls of libbpf. -/
def reuseBpfMaps (object : Nat) :
    List Wrapper → LoaderProgram BpfProgLoaderError
  | [] => return .noError
  | bpf :: bpfMaps => do
      let found : Option Nat ← callLibbpf (.findMapByName object bpf.name)
      match found with
      | none => return .progDontUseTheBpfMapError
      | some map =>
          if !bpf.isOpen then return .reuseMapError
          else
            let rc : Int ← callLibbpf (.reuseFd object map bpf.fd)
            if rc < 0 then return .bpfProgFailedMapLoad
            else reuseBpfMaps object bpfMaps

def uploadBpfProgramToKernel (object : Nat) :
    LoaderProgram BpfProgLoaderError := do
  let rc : Int ← callLibbpf (.load object)
  if rc < 0 then return .uploadProgToKernelError else return .noError

def getBpfProgFd (object prog : Nat) : LoaderProgram (Option Nat) := do
  let fd : Option ProgramFd ← callLibbpf (.programFd object prog)
  match fd with
  | none => return none
  | some fd => callLibbpf (.dup fd)

/-- The identifier 0 stands for a failure. -/
def getBpfProgId (progFd : Nat) : LoaderProgram UInt32 := do
  let info : Option UInt32 ← callLibbpf (.getInfoByFd progFd)
  return info.getD 0

abbrev LoadResult : Type := Option LoadedProgram × BpfProgLoaderError

/-- From the descriptor of the program on. -/
def describeProgram (object prog : Nat) (functionName : Bytes) (type : Int) :
    LoaderProgram LoadResult := do
  match ← getBpfProgFd object prog with
  | none => return (none, .getProgFdError)
  | some progFd =>
      let progId ← getBpfProgId progFd
      if progId = 0 then
        let _ : Int ← callLibbpf (.closeFd progFd)
        return (none, .getProgIdError)
      else
        let sectionName : Option Bytes ← callLibbpf (.sectionName object prog)
        return (some
          { progId := progId
            type := type
            fd := progFd
            functionName := functionName
            sectionName := sectionName.getD [] }, .noError)

/-- `load_program` while it holds the object. -/
def loadFrom (object : Nat) (functionName : Bytes) (bpfMaps : List Wrapper)
    (type : Int) : LoaderProgram LoadResult := do
  match ← setBpfProgType object functionName type with
  | none => return (none, .setProgTypeError)
  | some prog =>
      let reuseError ← reuseBpfMaps object bpfMaps
      if reuseError ≠ .noError then return (none, reuseError)
      else
        let uploadError ← uploadBpfProgramToKernel object
        if uploadError ≠ .noError then return (none, uploadError)
        else describeProgram object prog functionName type

def loadProgram (progObjPath functionName : Bytes) (bpfMaps : List Wrapper)
    (type : Int) : LoaderProgram LoadResult := do
  let initialized : Int ← callLibbpf .initializeRuntime
  if initialized < 0 then return (none, .bpfRuntimeInitError)
  else
    match ← loadBpfObject progObjPath with
    | none => return (none, .loadProgObjectError)
    | some object =>
        let result ← loadFrom object functionName bpfMaps type
        -- the last reference to the object ends with the scope
        callLibbpf (.closeObject object)
        return result

section Calls

variable {α β : Type} {libbpf : Libbpf} {post : α → Libbpf → Prop}

/-- The program makes no call which it must not make, and ends in a state
which meets `post`. -/
abbrev LoaderMeets (program : LoaderProgram α) (post : α → Libbpf → Prop)
    (libbpf : Libbpf) : Prop :=
  program.Meets loaderHandler (· = ·) (fun libbpf operation =>
    libbpf.allows operation = true) post libbpf

theorem LoaderMeets.bind {program : LoaderProgram α}
    {next : α → LoaderProgram β} {finally' : β → Libbpf → Prop}
    (first : LoaderMeets program post libbpf)
    (rest : ∀ value libbpf, post value libbpf →
      LoaderMeets (next value) finally' libbpf) :
    LoaderMeets (program >>= next) finally' libbpf :=
  Program.Meets.bind (fun _ => rfl) first rest

end Calls

namespace Libbpf

variable {start : Libbpf} {contents : ObjectState}

/-- The numbers of objects and descriptors to come are not in use. -/
structure Numbered (libbpf : Libbpf) : Prop where
  objects : libbpf.objects.fresh ∉ libbpf.objects.closed
  descriptors : libbpf.descriptors.fresh ∉ libbpf.descriptors.closed

end Libbpf

section Stages

variable {start : Libbpf} {contents : ObjectState}

variable (numbered : start.Numbered)
include numbered

/-- What the loaded program is made of. -/
structure Describes (functionName : Bytes) (type : Int) (progId : UInt32)
    (fd : Nat) (program : LoadedProgram) : Prop where
  identified : program.progId = progId
  nonzero : program.progId ≠ 0
  descriptor : program.fd = fd
  type : program.type = type
  name : program.functionName = functionName

end Stages

section Whole

variable {start : Libbpf} (numbered : start.Numbered)
include numbered

end Whole

/-- The `BpfProgram` objects which exist, and the shared pointers to them:
those which callers keep, and those of the attachers, which are never
released.  A call of `load_program` holds nothing which another one uses, so
the calls are taken one after the other. -/
structure ProgramStore where
  libbpf : Libbpf
  programs : Nat → Option LoadedProgram
  /-- The number of objects made so far. -/
  made : Nat
  references : List Nat

inductive StoreStep where
  | load (progObjPath functionName : Bytes) (bpfMaps : List Wrapper)
      (type : Int) (choices : List Bool)
  | copy (program : Nat)
  | drop (program : Nat) (closeFails : Bool)

namespace ProgramStore

def receive (state : ProgramStore) (final : Libbpf) :
    Option LoadedProgram → ProgramStore
  | none => { state with libbpf := final }
  | some loaded =>
      { libbpf := final
        programs := Function.update state.programs state.made (some loaded)
        made := state.made + 1
        references := state.made :: state.references }

/-- `~BpfProgram`. -/
def destroy (state : ProgramStore) (program : Nat) (closeFails : Bool) :
    ProgramStore :=
  match state.programs program with
  | none => state
  | some loaded =>
      { state with
        programs := Function.update state.programs program none
        libbpf :=
          if 0 ≤ loaded.fd then
            let operation := LoaderOp.closeFd loaded.fd.toNat
            ((state.libbpf.record operation).answer operation closeFails).1
          else state.libbpf }

/-- The last reference destroys the object. -/
def release (state : ProgramStore) (program : Nat) (closeFails : Bool) :
    ProgramStore :=
  let rest : ProgramStore :=
    { state with references := state.references.erase program }
  if program ∈ rest.references then rest else rest.destroy program closeFails

def step (state : ProgramStore) : StoreStep → Option ProgramStore
  | .load progObjPath functionName bpfMaps type choices =>
      ((loadProgram progObjPath functionName bpfMaps type).run loaderHandler
        state.libbpf choices).map fun (result, final, _) =>
          state.receive final result.1
  | .copy program =>
      if program ∈ state.references then
        some { state with references := program :: state.references }
      else none
  | .drop program closeFails =>
      if program ∈ state.references then
        some (state.release program closeFails)
      else none

structure Initial (state : ProgramStore) : Prop where
  objects : state.libbpf.objects = .empty
  descriptors : state.libbpf.descriptors = .empty
  violations : state.libbpf.violations = []
  programs : ∀ program, state.programs program = none
  references : state.references = []

end ProgramStore

namespace ProgramStore

variable {state target : ProgramStore} {program : Nat}

/-- The descriptor which the object owns. -/
def descriptorOf (state : ProgramStore) (program : Nat) : Option Nat :=
  (state.programs program).map fun loaded => loaded.fd.toNat

structure Kept (state : ProgramStore) : Prop where
  violations : state.libbpf.violations = []
  /-- Nobody holds an object of libbpf. -/
  objects : state.libbpf.objects.OwnedBy fun _ : Unit => none
  descriptors : state.libbpf.descriptors.OwnedBy state.descriptorOf
  referenced : ∀ program, (state.programs program).isSome = true ↔
    program ∈ state.references
  numbered : ∀ program ∈ state.references, program < state.made
  described : ∀ program loaded, state.programs program = some loaded →
    0 ≤ loaded.fd ∧ loaded.progId ≠ 0 ∧
      loaded.progId = state.libbpf.progId
        (state.libbpf.programBehind loaded.fd.toNat)

theorem Kept.vacant (kept : state.Kept) :
    state.programs state.made = none := by
  cases found : state.programs state.made with
  | none => rfl
  | some loaded =>
      have referenced := (kept.referenced state.made).mp (by simp [found])
      exact absurd (kept.numbered _ referenced) (Nat.lt_irrefl _)

/-- The number of references to one object does not matter. -/
theorem Kept.congr (kept : state.Kept) {references : List Nat}
    (same : ∀ program, program ∈ references ↔
      program ∈ state.references) :
    ({ state with references := references } : ProgramStore).Kept := by
  refine ⟨kept.violations, kept.objects, kept.descriptors, ?_, ?_,
    kept.described⟩
  · intro program
    exact (kept.referenced program).trans (same program).symm
  · intro program member
    exact kept.numbered program ((same program).mp member)

end ProgramStore

end LibbpfControl.BpfTool
