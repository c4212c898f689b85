import Mathlib.Data.List.TakeWhile
import LibbpfControl.BpfControl.Ownership

/-!
# Binding wrappers to the maps of a program

`reuse_bpf_map_in_prog` looks a wrapper up in the object file by the name it
reports.  A wrapper which created its map reports the name of its constructor;
one which reopened the pin of that map reports what the kernel has kept of
it.  The two are bound alike exactly if the kernel keeps the whole name.
-/

namespace LibbpfControl.BpfTool

open BpfControl

inductive BpfProgLoaderError where
  | noError
  | uploadProgToKernelError
  | loadProgObjectError
  | setProgTypeError
  | progDontUseTheBpfMapError
  | reuseMapError
  | bpfProgFailedMapLoad
  | getProgFdError
  | getProgIdError
  | bpfRuntimeInitError
  deriving DecidableEq, Repr

/-- The maps of an object file by their ELF names, and the bindings made so
far. -/
structure BpfObject where
  mapNames : List Bytes
  /-- Calls of `bpf_map__reuse_fd` in their order: the map and the descriptor.
  libbpf keeps one descriptor for a map, that of the last call. -/
  bound : List (Nat × Int) := []
  deriving DecidableEq, Repr

namespace BpfObject

/-- `bpf_object__find_map_by_name` compares whole names. -/
def findMapByName (object : BpfObject) (name : Bytes) : Option Nat :=
  object.mapNames.findIdx? fun mapName => mapName = cString name

def reuseFd (object : BpfObject) (map : Nat) (fd : Int) : BpfObject :=
  { object with bound := object.bound ++ [(map, fd)] }

end BpfObject

/-- `fails` says which maps refuse a descriptor. -/
def reuseBpfMapInProg (fails : Nat → Bool) (object : BpfObject) :
    List Wrapper → BpfObject × BpfProgLoaderError
  | [] => (object, .noError)
  | bpf :: bpfMaps =>
      match object.findMapByName bpf.name with
      | none => (object, .progDontUseTheBpfMapError)
      | some map =>
          if !bpf.isOpen then (object, .reuseMapError)
          else if fails map then (object, .bpfProgFailedMapLoad)
          else reuseBpfMapInProg fails (object.reuseFd map bpf.fd) bpfMaps

/-- The result of a binding without the numbers of the descriptors. -/
def bindings (result : BpfObject × BpfProgLoaderError) :
    List Bytes × List Nat × BpfProgLoaderError :=
  (result.1.mapNames, result.1.bound.map Prod.fst, result.2)

/-- In every object and among any other wrappers, the two wrappers are bound
to the same map or refused for the same reason. -/
def BoundAlike (first second : Wrapper) : Prop :=
  ∀ (fails : Nat → Bool) (object : BpfObject) (before after : List Wrapper),
    bindings (reuseBpfMapInProg fails object (before ++ first :: after)) =
      bindings (reuseBpfMapInProg fails object (before ++ second :: after))

theorem bindings_reuse_congr (fails : Nat → Bool) (bpfMaps : List Wrapper)
    {first second : BpfObject} (names : first.mapNames = second.mapNames)
    (bound : first.bound.map Prod.fst = second.bound.map Prod.fst) :
    bindings (reuseBpfMapInProg fails first bpfMaps) =
      bindings (reuseBpfMapInProg fails second bpfMaps) := by
  induction bpfMaps generalizing first second with
  | nil => simp [reuseBpfMapInProg, bindings, names, bound]
  | cons bpf bpfMaps induction =>
      have same : first.findMapByName bpf.name =
          second.findMapByName bpf.name := by
        simp [BpfObject.findMapByName, names]
      simp only [reuseBpfMapInProg, same]
      split
      · simp [bindings, names, bound]
      · split
        · simp [bindings, names, bound]
        · split
          · simp [bindings, names, bound]
          · apply induction
            · exact names
            · simp [BpfObject.reuseFd, bound]

/-- Open wrappers whose names look the same to C are bound alike. -/
theorem boundAlike_of_cString {first second : Wrapper}
    (firstOpen : first.isOpen = true) (secondOpen : second.isOpen = true)
    (name : cString first.name = cString second.name) :
    BoundAlike first second := by
  intro fails object before after
  induction before generalizing object with
  | nil =>
      have sameMap : object.findMapByName first.name =
          object.findMapByName second.name := by
        simp only [BpfObject.findMapByName, name]
      simp only [List.nil_append, reuseBpfMapInProg, sameMap, firstOpen,
        secondOpen]
      split
      · rfl
      · split
        · rfl
        · split
          · rfl
          · apply bindings_reuse_congr
            · rfl
            · simp [BpfObject.reuseFd]
  | cons bpf before induction =>
      simp only [List.cons_append, reuseBpfMapInProg]
      split
      · rfl
      · split
        · rfl
        · split
          · rfl
          · exact induction _

theorem cString_eq_self_iff (bytes : Bytes) :
    cString bytes = bytes ↔ 0 ∉ bytes := by
  unfold cString
  rw [List.takeWhile_eq_self_iff]
  simp only [decide_eq_true_eq]
  exact List.forall_mem_ne'

theorem kept_eq_iff (name : Bytes) :
    (cString name).take 15 = name ↔ name.length ≤ 15 ∧ 0 ∉ name := by
  constructor
  · intro kept
    have short : name.length ≤ 15 := by
      rw [← kept]
      exact List.length_take_le _ _
    refine ⟨short, (cString_eq_self_iff name).mp ?_⟩
    have shortened : (cString name).length ≤ 15 :=
      (List.takeWhile_sublist _).length_le.trans short
    rwa [List.take_of_length_le shortened] at kept
  · rintro ⟨short, noZero⟩
    rw [(cString_eq_self_iff name).mpr noZero]
    exact List.take_of_length_le short

theorem cString_kept (name : Bytes) :
    cString ((cString name).take 15) = (cString name).take 15 := by
  rw [cString_eq_self_iff]
  intro member
  have nonzero := List.mem_takeWhile_imp (List.mem_of_mem_take member)
  simp at nonzero

theorem requested_name (derived : Derived) (id : Nat) (name : Bytes)
    (outcomes : Outcomes) :
    (derived.requested id name outcomes).name = (cString name).take 15 := by
  cases derived <;> rfl

/-- A wrapper creates its map, pins it and is closed; later a wrapper built
from the same arguments opens the pin, which still holds that map. -/
structure Reopening where
  derived : Derived
  name : Bytes
  pinPath : Bytes
  kernel : Kernel
  later : Kernel
  creating : Outcomes
  pinning : Outcomes
  reopening : Outcomes

namespace Reopening

variable (story : Reopening)

def constructed : Wrapper :=
  .construct story.derived story.name

def created : Focus × BpfControlErrorCode :=
  Focus.openWrapper ⟨story.kernel, story.constructed⟩ false [] story.creating

def pinned : Focus × BpfControlErrorCode :=
  story.created.1.pin story.pinPath story.pinning

def reopened : Focus × BpfControlErrorCode :=
  Focus.openWrapper ⟨story.later, story.constructed⟩ true story.pinPath
    story.reopening

/-- All calls succeed and the pin still holds the map. -/
structure Succeeds : Prop where
  created : story.created.2 = .noError
  pinned : story.pinned.2 = .noError
  kept : (story.later.pinAt story.pinPath).map Pin.map =
    (story.pinned.1.kernel.pinAt story.pinPath).map Pin.map
  reopened : story.reopened.2 = .noError

variable {story}

/-- A created wrapper keeps the name of its constructor, its map the first 15
bytes of it. -/
theorem created_name (succeeds : story.Succeeds) :
    story.created.1.wrapper.name = story.name ∧
      story.created.1.wrapper.isOpen = true ∧
      (story.created.1.kernel.mapBehind
        story.created.1.wrapper.fd.toNat).name =
          (cString story.name).take 15 := by
  have created : story.created.1 = _ :=
    Focus.created_of_success (Focus.opens_openWrapper false) succeeds.created
  rw [created]
  refine ⟨rfl, Focus.obtained_isOpen _, ?_⟩
  rw [Focus.mapBehind_obtained]
  exact requested_name _ _ _ _

/-- The pin holds the created map. -/
theorem pinAt_pinned (succeeds : story.Succeeds) :
    (story.pinned.1.kernel.pinAt story.pinPath).map Pin.map =
      some (story.created.1.kernel.mapBehind
        story.created.1.wrapper.fd.toNat) := by
  have pinned : story.pinned.1.kernel = _ :=
    Focus.pin_of_success succeeds.pinned
  rw [pinned]
  simp [Kernel.pinAt, Kernel.objPin]

/-- A reopened wrapper has what the kernel kept of the name. -/
theorem reopened_name (succeeds : story.Succeeds) :
    story.reopened.1.wrapper.name = (cString story.name).take 15 ∧
      story.reopened.1.wrapper.isOpen = true := by
  obtain ⟨pin, found, name, opened⟩ := Focus.reused_of_success
    (Focus.opens_openWrapper true) succeeds.reopened
  have kept := succeeds.kept.trans (pinAt_pinned succeeds)
  have isCreated : pin.map = story.created.1.kernel.mapBehind
      story.created.1.wrapper.fd.toNat := by
    simpa [found] using kept
  refine ⟨?_, opened⟩
  rw [show story.reopened.1.wrapper.name = pin.map.name from name, isCreated]
  exact (created_name succeeds).2.2

end Reopening

/-- The object whose only map has the name of the created wrapper tells the
two apart. -/
theorem not_boundAlike {first second : Wrapper}
    (secondOpen : second.isOpen = true)
    (different : cString first.name ≠ cString second.name) :
    ¬BoundAlike first second := by
  intro alike
  have same := alike (fun _ => false) { mapNames := [cString second.name] }
    [] []
  have unknown : cString second.name ≠ cString first.name := different.symm
  simp [reuseBpfMapInProg, BpfObject.findMapByName, bindings, secondOpen,
    BpfObject.reuseFd, unknown] at same

/-- A reopened wrapper has the name of the created one exactly if the kernel
keeps the whole name, and is bound alike exactly if it keeps what the lookup
sees of it. -/
theorem reopened_alike_iff (story : Reopening) (succeeds : story.Succeeds) :
    (story.reopened.1.wrapper.name = story.created.1.wrapper.name ↔
        story.name.length ≤ 15 ∧ 0 ∉ story.name) ∧
      (BoundAlike story.reopened.1.wrapper story.created.1.wrapper ↔
        (cString story.name).length ≤ 15) := by
  obtain ⟨createdName, createdOpen, _⟩ := Reopening.created_name succeeds
  obtain ⟨reopenedName, reopenedOpen⟩ := Reopening.reopened_name succeeds
  constructor
  · rw [createdName, reopenedName]
    exact kept_eq_iff story.name
  · constructor
    · intro alike
      by_contra long
      refine not_boundAlike createdOpen ?_ alike
      rw [reopenedName, createdName, cString_kept]
      intro same
      have length := congrArg List.length same
      rw [List.length_take] at length
      omega
    · intro short
      apply boundAlike_of_cString reopenedOpen createdOpen
      rw [reopenedName, createdName, cString_kept]
      exact List.take_of_length_le short

/-- A ring buffer of this name is created, pinned and reopened by the next
process, which finds the pin in bpffs. -/
def ringBufferReopening (name : Bytes) : Reopening where
  derived := .ringBuffer 4096 false none
  name := name
  pinPath := [112]
  kernel := emptyCollection.kernel
  later :=
    { emptyCollection.kernel with
      nextMapId := 1
      pins :=
        [{ path := [112]
           map := .create 0 mapTypeRingbuf name 0 0 4096
           creator := none }] }
  creating := {}
  pinning := {}
  reopening := {}

/-- Fifteen bytes are kept. -/
theorem reopened_alike_kept :
    let story := ringBufferReopening (List.replicate 15 97)
    story.reopened.1.wrapper.name = story.created.1.wrapper.name ∧
      BoundAlike story.reopened.1.wrapper story.created.1.wrapper := by
  intro story
  have succeeds : story.Succeeds :=
    ⟨by decide, by decide, by decide, by decide⟩
  have alike := reopened_alike_iff story succeeds
  exact ⟨alike.1.mpr (by decide), alike.2.mpr (by decide)⟩

/-- The sixteenth byte is lost: the created wrapper is bound to the map of
its name, the reopened one is not found. -/
theorem reopened_name_lost :
    let story := ringBufferReopening (List.replicate 16 97)
    let object : BpfObject := { mapNames := [List.replicate 16 97] }
    story.Succeeds ∧
      story.created.1.wrapper.name = List.replicate 16 97 ∧
      story.reopened.1.wrapper.name = List.replicate 15 97 ∧
      reuseBpfMapInProg (fun _ => false) object [story.created.1.wrapper] =
        ({ object with bound := [(0, 0)] }, .noError) ∧
      reuseBpfMapInProg (fun _ => false) object [story.reopened.1.wrapper] =
        (object, .progDontUseTheBpfMapError) :=
  ⟨⟨by decide, by decide, by decide, by decide⟩, by decide⟩

end LibbpfControl.BpfTool
