import Mathlib.Data.List.Dedup
import Mathlib.Logic.Function.Basic
import LibbpfControl.Machine
import LibbpfControl.NicCheck.Interface

/-!
# Mirroring

The main program writes destinations into the pinned `mirror_map` and the TC
program reads them for every packet.  The writer appends to a fixed array
under the index of the source, the reader clones the packet to the used part
of the array.

The map outlives the process, and a process which starts again repeats its
calls.  The writer does not look for the destination it appends, so a pair
which is requested again is stored and cloned again, until the array is full.
The two programs agree as long as no pair is requested twice.
-/

namespace LibbpfControl.TcBpf

open NicCheck

/-- `MIRRORING_MAX_INSTANCES`. -/
def mirroringMaxInstances : Nat := 10

structure MirrorValue where
  dstIfindexes : Vector UInt32 mirroringMaxInstances
  enabled : UInt32
  dstIfindexCount : UInt32
  deriving DecidableEq, Repr

/-- `mirror_value{}`. -/
def MirrorValue.zero : MirrorValue where
  dstIfindexes := Vector.replicate mirroringMaxInstances 0
  enabled := 0
  dstIfindexCount := 0

/-- `mirror_map`, from the ifindex of a source. -/
abbrev MirrorMap : Type := UInt32 → Option MirrorValue

/-- The loop of `mirroring` from the index on, which breaks at the count. -/
def cloneLoop (count : Nat) : Nat → List UInt32 → List UInt32
  | _, [] => []
  | index, dstIfindex :: rest =>
      if count ≤ index then []
      else dstIfindex :: cloneLoop count (index + 1) rest

/-- The calls of `bpf_clone_redirect` for a packet which arrives on an
interface. -/
def mirroring (mirrorMap : MirrorMap) (inIfindex : UInt32) : List UInt32 :=
  match mirrorMap inIfindex with
  | none => []
  | some value =>
      if value.enabled = 0 then []
      else if mirroringMaxInstances < value.dstIfindexCount.toNat then []
      else cloneLoop value.dstIfindexCount.toNat 0 value.dstIfindexes.toList

/-- The indexes of the two interfaces, if both are in the snapshot. -/
def resolve (snapshot : InterfaceMap) (srcIfname dstIfname : String) :
    Option (UInt32 × UInt32) :=
  match snapshot.find? srcIfname, snapshot.find? dstIfname with
  | some (_, srcInfo), some (_, dstInfo) =>
      some (srcInfo.ifindex, dstInfo.ifindex)
  | _, _ => none

def MirrorValue.append (value : MirrorValue) (dstIfindex : UInt32) :
    MirrorValue where
  dstIfindexes :=
    value.dstIfindexes.setIfInBounds value.dstIfindexCount.toNat dstIfindex
  enabled := 1
  dstIfindexCount := value.dstIfindexCount + 1

/-- Which calls of the map fail; a lookup also fails when the key is
absent. -/
structure MirrorOutcomes where
  lookupFails : Bool := false
  updateFails : Bool := false
  deriving DecidableEq, Repr

/-- The value which `set_mirroring` starts from. -/
def startValue (mirrorMap : MirrorMap) (key : UInt32)
    (outcomes : MirrorOutcomes) : MirrorValue :=
  if outcomes.lookupFails then .zero else (mirrorMap key).getD .zero

def setMirroring (mirrorMap : MirrorMap) (snapshot : InterfaceMap)
    (srcIfname dstIfname : String) (outcomes : MirrorOutcomes) : MirrorMap :=
  match resolve snapshot srcIfname dstIfname with
  | none => mirrorMap
  | some (key, dstIfindex) =>
      let value := startValue mirrorMap key outcomes
      if mirroringMaxInstances ≤ value.dstIfindexCount.toNat then mirrorMap
      else if outcomes.updateFails then mirrorMap
      else Function.update mirrorMap key (some (value.append dstIfindex))

/-- The pinned map, which is all that a restart of the process leaves. -/
structure MirrorState where
  mirrorMap : MirrorMap
  /-- The pairs of indexes requested so far, also by earlier processes. -/
  requested : List (UInt32 × UInt32)

inductive MirrorStep where
  | setMirroring (snapshot : InterfaceMap) (srcIfname dstIfname : String)
      (outcomes : MirrorOutcomes)

def MirrorState.apply (state : MirrorState) : MirrorStep → MirrorState
  | .setMirroring snapshot srcIfname dstIfname outcomes =>
      { mirrorMap :=
          setMirroring state.mirrorMap snapshot srcIfname dstIfname outcomes
        requested :=
          state.requested ++ (resolve snapshot srcIfname dstIfname).toList }

def emptyMirror : MirrorState where
  mirrorMap := fun _ => none
  requested := []

def mirrorMachine : Machine MirrorState MirrorStep :=
  .guarded (fun state => state = emptyMirror) (fun _ _ => true)
    MirrorState.apply

namespace MirrorValue

variable {value : MirrorValue}

/-- The used part of the array. -/
def destinations (value : MirrorValue) : List UInt32 :=
  value.dstIfindexes.toList.take value.dstIfindexCount.toNat

def Fits (value : MirrorValue) : Prop :=
  value.dstIfindexCount.toNat ≤ mirroringMaxInstances

theorem destinations_length (fits : value.Fits) :
    value.destinations.length = value.dstIfindexCount.toNat := by
  rw [destinations, List.length_take, Vector.length_toList]
  exact Nat.min_eq_left fits

theorem append_count (room : value.dstIfindexCount.toNat <
      mirroringMaxInstances) (dstIfindex : UInt32) :
    (value.append dstIfindex).dstIfindexCount.toNat =
      value.dstIfindexCount.toNat + 1 := by
  have small : value.dstIfindexCount.toNat < 10 := room
  simp only [append, UInt32.toNat_add, UInt32.toNat_one]
  omega

theorem append_destinations (room : value.dstIfindexCount.toNat <
      mirroringMaxInstances) (dstIfindex : UInt32) :
    (value.append dstIfindex).destinations =
      value.destinations ++ [dstIfindex] := by
  have inBounds : value.dstIfindexCount.toNat <
      value.dstIfindexes.toList.length := by
    rw [Vector.length_toList]
    exact room
  rw [destinations, append_count room, append, Vector.toList_setIfInBounds,
    List.take_add_one, List.take_set_of_le (Nat.le_refl _)]
  rw [List.getElem?_set_self inBounds]
  rfl

end MirrorValue

theorem cloneLoop_eq_take (count index : Nat) (dstIfindexes : List UInt32) :
    cloneLoop count index dstIfindexes =
      dstIfindexes.take (count - index) := by
  induction dstIfindexes generalizing index with
  | nil => rw [cloneLoop, List.take_nil]
  | cons dstIfindex rest induction =>
      rw [cloneLoop]
      split
      · rename_i ended
        rw [Nat.sub_eq_zero_of_le ended, List.take_zero]
      · rename_i continues
        have one : count - index = count - (index + 1) + 1 := by
          omega
        rw [induction, one, List.take_succ_cons]

namespace MirrorMap

variable {mirrorMap : MirrorMap}

/-- The value of a source, zero when it has none. -/
def value (mirrorMap : MirrorMap) (src : UInt32) : MirrorValue :=
  (mirrorMap src).getD .zero

/-- The reader rejects no value. -/
def Valid (mirrorMap : MirrorMap) : Prop :=
  ∀ src value, mirrorMap src = some value →
    value.enabled = 1 ∧ value.Fits

theorem value_fits (valid : mirrorMap.Valid) (src : UInt32) :
    (mirrorMap.value src).Fits := by
  cases found : mirrorMap src with
  | none =>
      rw [value, found]
      exact Nat.zero_le _
  | some stored =>
      rw [value, found]
      exact (valid src stored found).2

theorem mirroring_of_valid (valid : mirrorMap.Valid) (src : UInt32) :
    mirroring mirrorMap src = (mirrorMap.value src).destinations := by
  rw [mirroring, value]
  cases found : mirrorMap src with
  | none => rfl
  | some stored =>
      obtain ⟨isEnabled, fits⟩ := valid src stored found
      have notDisabled : stored.enabled ≠ 0 := by
        rw [isEnabled]
        decide
      simp only [if_neg notDisabled, if_neg (Nat.not_lt.mpr fits)]
      exact cloneLoop_eq_take _ _ _

/-- Whatever fails, the writer leaves the map alone or appends. -/
theorem setMirroring_cases (mirrorMap : MirrorMap) (snapshot : InterfaceMap)
    (srcIfname dstIfname : String) (outcomes : MirrorOutcomes) :
    setMirroring mirrorMap snapshot srcIfname dstIfname outcomes =
        mirrorMap ∨
      ∃ key dstIfindex,
        (startValue mirrorMap key outcomes).dstIfindexCount.toNat <
          mirroringMaxInstances ∧
        setMirroring mirrorMap snapshot srcIfname dstIfname outcomes =
          Function.update mirrorMap key
            (some ((startValue mirrorMap key outcomes).append
              dstIfindex)) := by
  cases resolved : resolve snapshot srcIfname dstIfname with
  | none =>
      left
      rw [setMirroring, resolved]
  | some pair =>
      obtain ⟨key, dstIfindex⟩ := pair
      simp only [setMirroring, resolved]
      split
      · exact .inl rfl
      · rename_i room
        split
        · exact .inl rfl
        · exact .inr ⟨key, dstIfindex, Nat.lt_of_not_le room, rfl⟩

theorem valid_setMirroring (valid : mirrorMap.Valid) (snapshot : InterfaceMap)
    (srcIfname dstIfname : String) (outcomes : MirrorOutcomes) :
    Valid (setMirroring mirrorMap snapshot srcIfname dstIfname outcomes) := by
  rcases setMirroring_cases mirrorMap snapshot srcIfname dstIfname outcomes
    with same | ⟨key, dstIfindex, room, appended⟩
  · rw [same]
    exact valid
  · rw [appended]
    intro src stored found
    by_cases atKey : src = key
    · subst atKey
      rw [Function.update_self] at found
      cases found
      refine ⟨rfl, ?_⟩
      rw [MirrorValue.Fits, MirrorValue.append_count room]
      exact room
    · rw [Function.update_of_ne atKey] at found
      exact valid src stored found

/-- The writer where nothing fails. -/
theorem setMirroring_appends {snapshot : InterfaceMap}
    {srcIfname dstIfname : String} {outcomes : MirrorOutcomes}
    {key dstIfindex : UInt32}
    (resolved : resolve snapshot srcIfname dstIfname = some (key, dstIfindex))
    (started : startValue mirrorMap key outcomes = mirrorMap.value key)
    (room : (mirrorMap.value key).dstIfindexCount.toNat <
      mirroringMaxInstances)
    (updates : outcomes.updateFails = false) :
    setMirroring mirrorMap snapshot srcIfname dstIfname outcomes =
      Function.update mirrorMap key
        (some ((mirrorMap.value key).append dstIfindex)) := by
  simp only [setMirroring, resolved, started, updates]
  rw [if_neg (Nat.not_le.mpr room)]
  rfl

end MirrorMap

namespace MirrorState

variable {state : MirrorState}

/-- The destinations requested for a source, oldest first. -/
def destinations (state : MirrorState) (src : UInt32) : List UInt32 :=
  state.requested.filterMap fun pair =>
    if pair.1 = src then some pair.2 else none

/-- The update succeeds, and the source has at most ten destinations. -/
def withinCapacity (state : MirrorState) : MirrorStep → Bool
  | .setMirroring snapshot srcIfname dstIfname outcomes =>
      match resolve snapshot srcIfname dstIfname with
      | none => true
      | some (key, dstIfindex) =>
          !outcomes.updateFails &&
            decide ((state.destinations key ++ [dstIfindex]).dedup.length ≤
              mirroringMaxInstances)

/-- The pair has not been requested, and a lookup finds what is stored. -/
def requestsNew (state : MirrorState) : MirrorStep → Bool
  | .setMirroring snapshot srcIfname dstIfname outcomes =>
      match resolve snapshot srcIfname dstIfname with
      | none => true
      | some (key, dstIfindex) =>
          decide ((key, dstIfindex) ∉ state.requested) &&
            (!outcomes.lookupFails || (state.mirrorMap key).isNone)

theorem mem_destinations {src dstIfindex : UInt32} :
    dstIfindex ∈ state.destinations src ↔
      (src, dstIfindex) ∈ state.requested := by
  simp only [destinations, List.mem_filterMap, Option.ite_none_right_eq_some,
    Option.some.injEq]
  constructor
  · rintro ⟨⟨_, _⟩, member, rfl, rfl⟩
    exact member
  · intro member
    exact ⟨(src, dstIfindex), member, rfl, rfl⟩

theorem destinations_nodup (distinct : state.requested.Nodup)
    (src : UInt32) : (state.destinations src).Nodup := by
  apply List.Nodup.filterMap _ distinct
  rintro ⟨firstSrc, first⟩ ⟨secondSrc, second⟩ dstIfindex inFirst inSecond
  simp only [Option.mem_def, Option.ite_none_right_eq_some,
    Option.some.injEq] at inFirst inSecond
  obtain ⟨rfl, rfl⟩ := inFirst
  obtain ⟨rfl, rfl⟩ := inSecond
  rfl

/-- What is stored for a source is what was requested for it. -/
structure Agrees (state : MirrorState) : Prop where
  distinct : state.requested.Nodup
  stored : ∀ src,
    (state.mirrorMap.value src).destinations = state.destinations src

theorem agrees_request {target : MirrorState} {key dstIfindex : UInt32}
    (agrees : state.Agrees)
    (new : (key, dstIfindex) ∉ state.requested)
    (room : (state.mirrorMap.value key).dstIfindexCount.toNat <
      mirroringMaxInstances)
    (requested : target.requested = state.requested ++ [(key, dstIfindex)])
    (appended : target.mirrorMap = Function.update state.mirrorMap key
      (some ((state.mirrorMap.value key).append dstIfindex))) :
    target.Agrees := by
  constructor
  · rw [requested, ← List.concat_eq_append]
    exact agrees.distinct.concat new
  · intro src
    rw [destinations, requested, List.filterMap_append, MirrorMap.value,
      appended]
    by_cases atKey : src = key
    · subst atKey
      rw [Function.update_self, Option.getD_some,
        MirrorValue.append_destinations room, agrees.stored]
      simp [destinations]
    · rw [Function.update_of_ne atKey]
      have other : key ≠ src := Ne.symm atKey
      have kept := agrees.stored src
      rw [MirrorMap.value, destinations] at kept
      simpa [other] using kept

theorem startValue_of_requestsNew {key : UInt32} {outcomes : MirrorOutcomes}
    (found : (!outcomes.lookupFails || (state.mirrorMap key).isNone) = true) :
    startValue state.mirrorMap key outcomes = state.mirrorMap.value key := by
  rw [startValue, MirrorMap.value]
  split
  · rename_i fails
    have absent : state.mirrorMap key = none := by
      simpa [fails] using found
    rw [absent, Option.getD_none]
  · rfl

theorem agrees_step {label : MirrorStep} (valid : state.mirrorMap.Valid)
    (agrees : state.Agrees) (within : state.withinCapacity label = true)
    (isNew : state.requestsNew label = true) :
    (state.apply label).Agrees := by
  obtain ⟨snapshot, srcIfname, dstIfname, outcomes⟩ := label
  cases resolved : resolve snapshot srcIfname dstIfname with
  | none =>
      simp only [apply, setMirroring, resolved, Option.toList_none,
        List.append_nil]
      exact agrees
  | some pair =>
      obtain ⟨key, dstIfindex⟩ := pair
      simp only [withinCapacity, resolved, Bool.and_eq_true,
        Bool.not_eq_true', decide_eq_true_eq] at within
      simp only [requestsNew, resolved, Bool.and_eq_true,
        decide_eq_true_eq] at isNew
      obtain ⟨updates, fewer⟩ := within
      obtain ⟨new, found⟩ := isNew
      have newAtKey : dstIfindex ∉ state.destinations key :=
        fun member => new (mem_destinations.mp member)
      have nodup : (state.destinations key ++ [dstIfindex]).Nodup := by
        rw [← List.concat_eq_append]
        exact (destinations_nodup agrees.distinct key).concat newAtKey
      have room : (state.mirrorMap.value key).dstIfindexCount.toNat <
          mirroringMaxInstances := by
        rw [← MirrorValue.destinations_length
          (MirrorMap.value_fits valid key), agrees.stored]
        rw [nodup.dedup, List.length_append] at fewer
        exact fewer
      apply agrees_request agrees new room
      · rw [apply, resolved, Option.toList_some]
      · exact MirrorMap.setMirroring_appends resolved
          (startValue_of_requestsNew found) room updates

end MirrorState

/-- Every value fits, whichever calls fail and however often a pair is
requested. -/
theorem mirrorMap_valid {state : MirrorState}
    (reached : mirrorMachine.Reachable state) : state.mirrorMap.Valid := by
  apply reached.invariant
  · rintro _ rfl src value found
    cases found
  · intro before label after valid stepped
    obtain ⟨_, rfl⟩ := Machine.enabled_of_guarded stepped
    obtain ⟨snapshot, srcIfname, dstIfname, outcomes⟩ := label
    exact MirrorMap.valid_setMirroring valid snapshot srcIfname dstIfname
      outcomes

/-- In every run which requests each pair once, the reader rejects no value
and clones a packet once to each requested destination and to no other. -/
theorem one_clone_per_destination {state : MirrorState}
    (reached : mirrorMachine.ReachableWhere
      (fun state label => state.withinCapacity label = true ∧
        state.requestsNew label = true) state) :
    (∀ src value, state.mirrorMap src = some value →
      value.dstIfindexCount.toNat ≤ mirroringMaxInstances) ∧
    ∀ src dstIfindex, (mirroring state.mirrorMap src).count dstIfindex =
      if (src, dstIfindex) ∈ state.requested then 1 else 0 := by
  have valid : state.mirrorMap.Valid := mirrorMap_valid reached.reachable
  have agrees : state.Agrees := by
    apply reached.invariant_with
      (fun _ reachedBefore => mirrorMap_valid reachedBefore.reachable)
    · rintro _ rfl
      exact ⟨List.nodup_nil, fun _ => rfl⟩
    · intro before label after validBefore agreesBefore allowed stepped
      obtain ⟨_, rfl⟩ := Machine.enabled_of_guarded stepped
      exact MirrorState.agrees_step validBefore agreesBefore allowed.1
        allowed.2
  constructor
  · intro src value found
    exact (valid src value found).2
  · intro src dstIfindex
    rw [MirrorMap.mirroring_of_valid valid, agrees.stored,
      (MirrorState.destinations_nodup agrees.distinct src).count]
    simp only [MirrorState.mem_destinations]

/-- A snapshot with the interfaces of `main` and a third one. -/
def threeInterfaces : InterfaceMap where
  items :=
    (singleInterface "eth0" 2).items ++ (singleInterface "eth3" 5).items ++
      (singleInterface "eth1" 7).items
  distinct := by decide

/-- A call of `set_mirroring` in which nothing fails; the lookup fails where
the key is absent. -/
def callSetMirroring (srcIfname dstIfname : String) : MirrorStep :=
  .setMirroring threeInterfaces srcIfname dstIfname {}

/-- The calls of `main`, made at every start of the process. -/
def mainCalls : List MirrorStep :=
  [callSetMirroring "eth0" "eth3", callSetMirroring "eth3" "eth0"]

def mainThenThird : List MirrorStep :=
  mainCalls ++ [callSetMirroring "eth0" "eth1"]

theorem mainThenThird_enabled :
    (mirrorMachine.runWhere
      (fun state label => state.withinCapacity label = true ∧
        state.requestsNew label = true)
      emptyMirror mainThenThird).isSome = true := by
  decide

def mirroredTwice : MirrorState :=
  mirrorMachine.finishWhere _ emptyMirror mainThenThird mainThenThird_enabled

theorem one_clone_per_destination_third :
    mirroring mirroredTwice.mirrorMap 2 = [5, 7] ∧
      (mirroring mirroredTwice.mirrorMap 2).count 7 =
        if ((2 : UInt32), (7 : UInt32)) ∈ mirroredTwice.requested then 1
        else 0 :=
  ⟨by decide,
    (one_clone_per_destination (Machine.ReachableWhere.finishWhere
      (fun _ _ allowed => allowed) (.initial rfl)
      mainThenThird_enabled)).2 2 7⟩

def startedAgain : List MirrorStep :=
  mainCalls ++ mainCalls

theorem startedAgain_enabled :
    (mirrorMachine.runWhere
      (fun state label => state.withinCapacity label = true)
      emptyMirror startedAgain).isSome = true := by
  decide

/-- Ten starts of the process, after which a new destination is requested. -/
def startedTen : List MirrorStep :=
  (List.replicate 10 mainCalls).flatten ++ [callSetMirroring "eth0" "eth1"]

theorem startedTen_enabled :
    (mirrorMachine.runWhere
      (fun state label => state.withinCapacity label = true)
      emptyMirror startedTen).isSome = true := by
  decide +kernel

/-- A process which starts again has every packet of eth0 cloned to eth3
twice, and after ten starts eth0 takes no other destination. -/
theorem restart_clones_twice :
    (∃ state, mirrorMachine.ReachableWhere
        (fun state label => state.withinCapacity label = true) state ∧
      mirroring state.mirrorMap 2 = [5, 5]) ∧
    ∃ state, mirrorMachine.ReachableWhere
        (fun state label => state.withinCapacity label = true) state ∧
      (2, 7) ∈ state.requested ∧ 7 ∉ mirroring state.mirrorMap 2 :=
  ⟨⟨mirrorMachine.finishWhere _ emptyMirror startedAgain startedAgain_enabled,
      Machine.ReachableWhere.finishWhere (fun _ _ allowed => allowed)
        (.initial rfl) startedAgain_enabled,
      by decide⟩,
    ⟨mirrorMachine.finishWhere _ emptyMirror startedTen startedTen_enabled,
      Machine.ReachableWhere.finishWhere (fun _ _ allowed => allowed)
        (.initial rfl) startedTen_enabled,
      by decide +kernel⟩⟩

namespace MirrorState

variable {state : MirrorState}

/-- A lookup finds what is stored, and the update succeeds. -/
def faultless (state : MirrorState) : MirrorStep → Bool
  | .setMirroring snapshot srcIfname dstIfname outcomes =>
      match resolve snapshot srcIfname dstIfname with
      | none => true
      | some (key, _) =>
          !outcomes.updateFails &&
            (!outcomes.lookupFails || (state.mirrorMap key).isNone)

/-- The first requests for a source are stored, in their order and as often
as they were made. -/
def Truncates (state : MirrorState) : Prop :=
  ∀ src, (state.mirrorMap.value src).destinations =
    (state.destinations src).take mirroringMaxInstances

/-- The destinations after one more request. -/
theorem destinations_request {target : MirrorState} {key dstIfindex : UInt32}
    (requested : target.requested = state.requested ++ [(key, dstIfindex)])
    (src : UInt32) :
    target.destinations src =
      state.destinations src ++ if key = src then [dstIfindex] else [] := by
  simp only [destinations, requested, List.filterMap_append,
    List.append_cancel_left_eq]
  by_cases same : key = src
  · simp [same]
  · simp [same]

section Requests

variable {target : MirrorState} {key dstIfindex : UInt32}
  (truncates : state.Truncates)
  (count : (state.mirrorMap.value key).destinations.length =
    (state.mirrorMap.value key).dstIfindexCount.toNat)
  (requested : target.requested = state.requested ++ [(key, dstIfindex)])
include truncates count requested

/-- A request which finds the array full changes nothing. -/
theorem truncates_full
    (full : mirroringMaxInstances ≤
      (state.mirrorMap.value key).dstIfindexCount.toNat)
    (unchanged : target.mirrorMap = state.mirrorMap) : target.Truncates := by
  rw [truncates, List.length_take] at count
  intro src
  rw [unchanged, truncates, destinations_request requested]
  split
  · rename_i same
    subst same
    rw [List.take_append_of_le_length (by omega)]
  · rw [List.append_nil]

theorem truncates_room
    (room : (state.mirrorMap.value key).dstIfindexCount.toNat <
      mirroringMaxInstances)
    (appended : target.mirrorMap = Function.update state.mirrorMap key
      (some ((state.mirrorMap.value key).append dstIfindex))) :
    target.Truncates := by
  rw [truncates, List.length_take] at count
  intro src
  rw [destinations_request requested, MirrorMap.value, appended]
  by_cases same : key = src
  · subst same
    have few : (state.destinations key).length < mirroringMaxInstances := by
      omega
    rw [Function.update_self, Option.getD_some,
      MirrorValue.append_destinations room, truncates, if_pos rfl,
      List.take_of_length_le (Nat.le_of_lt few), List.take_of_length_le]
    rw [List.length_append]
    exact few
  · rw [Function.update_of_ne (Ne.symm same), if_neg same, List.append_nil]
    exact truncates src

end Requests

theorem truncates_step {label : MirrorStep} (valid : state.mirrorMap.Valid)
    (truncates : state.Truncates) (allowed : state.faultless label = true) :
    (state.apply label).Truncates := by
  obtain ⟨snapshot, srcIfname, dstIfname, outcomes⟩ := label
  cases resolved : resolve snapshot srcIfname dstIfname with
  | none =>
      simp only [apply, setMirroring, resolved, Option.toList_none,
        List.append_nil]
      exact truncates
  | some pair =>
      obtain ⟨key, dstIfindex⟩ := pair
      simp only [faultless, resolved, Bool.and_eq_true, Bool.not_eq_true']
        at allowed
      obtain ⟨updates, found⟩ := allowed
      have started := startValue_of_requestsNew found
      have count := MirrorValue.destinations_length
        (MirrorMap.value_fits valid key)
      have requested : (state.apply (.setMirroring snapshot srcIfname
          dstIfname outcomes)).requested =
          state.requested ++ [(key, dstIfindex)] := by
        rw [apply, resolved, Option.toList_some]
      by_cases full : mirroringMaxInstances ≤
          (state.mirrorMap.value key).dstIfindexCount.toNat
      · apply truncates_full truncates count requested full
        simp only [apply, setMirroring, resolved, started, if_pos full]
      · have room := Nat.lt_of_not_le full
        exact truncates_room truncates count requested room
          (MirrorMap.setMirroring_appends resolved started room updates)

end MirrorState

/-- In every run in which no call fails, a packet is cloned to the first ten
destinations requested for its interface, in the order of the requests and
once for each of them: starting the process again adds clones until the ten
are used up, and what is requested after that has no effect. -/
theorem clones_first_requests {state : MirrorState}
    (reached : mirrorMachine.ReachableWhere
      (fun state label => state.faultless label = true) state)
    (src : UInt32) :
    mirroring state.mirrorMap src =
      (state.destinations src).take mirroringMaxInstances := by
  have truncates : state.Truncates := by
    apply reached.invariant_with
      (fun _ reachedBefore => mirrorMap_valid reachedBefore.reachable)
    · rintro _ rfl
      exact fun _ => rfl
    · intro before label after valid truncated allowed stepped
      obtain ⟨_, rfl⟩ := Machine.enabled_of_guarded stepped
      exact MirrorState.truncates_step valid truncated allowed
  rw [MirrorMap.mirroring_of_valid (mirrorMap_valid reached.reachable)]
  exact truncates src

/-- Eleven starts of the process. -/
def startedEleven : List MirrorStep :=
  (List.replicate 11 mainCalls).flatten

theorem startedEleven_enabled :
    (mirrorMachine.runWhere
      (fun state label => state.faultless label = true)
      emptyMirror startedEleven).isSome = true := by
  decide +kernel

def mirroredEleven : MirrorState :=
  mirrorMachine.finishWhere _ emptyMirror startedEleven startedEleven_enabled

theorem clones_first_requests_eleven :
    mirroring mirroredEleven.mirrorMap 2 =
        (mirroredEleven.destinations 2).take mirroringMaxInstances ∧
      mirroredEleven.destinations 2 = List.replicate 11 5 := by
  have reached : mirrorMachine.ReachableWhere
      (fun state label => state.faultless label = true) mirroredEleven :=
    Machine.ReachableWhere.finishWhere (fun _ _ allowed => allowed)
      (.initial rfl) startedEleven_enabled
  exact ⟨clones_first_requests reached 2, by decide +kernel⟩

end LibbpfControl.TcBpf
