import LibbpfControl.BpfControl.Layout

/-!
# Pinned maps across restarts

At every start `main` opens its maps with `open_or_create`: the pin if there
is one, else a new map which is pinned.  The pins outlive the process, and
nothing in `main` removes one.

Whatever fails in whichever order the processes come, a pin is never replaced.
A start which has opened its maps is therefore followed by starts which open
the same maps, and a map of another layout keeps every later start from
succeeding.

Maps are the same when they have the same `id`.  What outlives a process is
therefore not only the pins but also which ids have been given.
-/

namespace LibbpfControl.Main

open BpfControl

/-- Which calls of the three operations fail. -/
structure OpenOutcomes where
  reusing : Outcomes := {}
  creating : Outcomes := {}
  pinning : Outcomes := {}
  deriving DecidableEq, Repr

def openOrCreate (object : Focus) (pinPath : Bytes)
    (outcomes : OpenOutcomes) : Focus × Bool :=
  let reused := object.openWrapper true pinPath outcomes.reusing
  if reused.2 = .noError then (reused.1, true)
  else
    let opened := reused.1.openWrapper false [] outcomes.creating
    if opened.2 ≠ .noError then (opened.1, false)
    else
      let pinned := opened.1.pin pinPath outcomes.pinning
      if pinned.2 ≠ .noError then (pinned.1, false) else (pinned.1, true)

/-- A map which `main` constructs, with the path of its pin. -/
structure MapSpec where
  derived : Derived
  name : Bytes
  pinPath : Bytes
  deriving DecidableEq, Repr

/-- The constructor and `open_or_create` for one map. -/
def openSpec (kernel : Kernel) (spec : MapSpec) (outcomes : OpenOutcomes) :
    Focus × Bool :=
  openOrCreate ⟨kernel, .construct spec.derived spec.name⟩ spec.pinPath
    outcomes

/-- The calls of `main`, which returns 1 at the first failure. -/
def openMaps (kernel : Kernel) :
    List (MapSpec × OpenOutcomes) → Kernel × List Wrapper × Bool
  | [] => (kernel, [], true)
  | (spec, outcomes) :: rest =>
      let opened := openSpec kernel spec outcomes
      if opened.2 then
        let others := openMaps opened.1.kernel rest
        (others.1, opened.1.wrapper :: others.2.1, others.2.2)
      else (opened.1.kernel, [opened.1.wrapper], false)

def ascii (text : String) : Bytes :=
  text.toList.map fun char => char.toNat.toUInt8

/-- `BPF_MAP_TYPE_HASH`. -/
def mapTypeHash : UInt32 := 1

/-- The maps of `main`. -/
def mainMaps : List MapSpec :=
  [{ derived := .map 4 48 10 mapTypeHash
     name := ascii "mirror_map"
     pinPath := ascii "/sys/fs/bpf/mirror_map" },
   { derived := .map 4 4 10 mapTypeHash
     name := ascii "monitor_map"
     pinPath := ascii "/sys/fs/bpf/monitor_map" },
   { derived := .ringBuffer (16 * 1024 * 1024) false none
     name := ascii "monitor_ringbuf"
     pinPath := ascii "/sys/fs/bpf/monitor_ringbuf" }]

/-- The map pinned at a path. -/
def mapAt (pins : List Pin) (path : Bytes) : Option KernelMap :=
  (pins.find? fun pin => pin.path = cString path).map Pin.map

section Calls

variable {focus : Focus} {outcomes : Outcomes} {pinPath : Bytes}

theorem closeBase_pins :
    (focus.closeBase outcomes).1.kernel.pins = focus.kernel.pins := by
  unfold Focus.closeBase
  split
  · rfl
  · rfl

theorem close_pins :
    (focus.close outcomes).1.kernel.pins = focus.kernel.pins := by
  unfold Focus.close
  split
  · exact closeBase_pins
  · exact closeBase_pins
  · exact closeBase_pins

/-- `open` creates and removes no pin. -/
theorem opens_pins {isPinned : Bool} {result : Focus × BpfControlErrorCode}
    (opens : focus.Opens isPinned pinPath outcomes result) :
    result.1.kernel.pins = focus.kernel.pins := by
  cases opens with
  | rejected => exact close_pins
  | _ => rfl

theorem mapAt_eq_none_iff :
    mapAt focus.kernel.pins pinPath = none ↔
      focus.kernel.pinAt pinPath = none :=
  Option.map_eq_none_iff

/-- `pin()` succeeds at a free path only. -/
theorem pin_cases :
    (focus.pin pinPath outcomes).2 ≠ .noError ∧
        (focus.pin pinPath outcomes).1 = focus ∨
      (focus.pin pinPath outcomes).2 = .noError ∧
        mapAt focus.kernel.pins pinPath = none ∧
        (focus.pin pinPath outcomes).1.kernel =
          focus.kernel.objPin focus.wrapper.fd.toNat pinPath ∧
        (focus.pin pinPath outcomes).1.wrapper.fd = focus.wrapper.fd := by
  unfold Focus.pin
  split
  · exact .inl ⟨by simp, rfl⟩
  split
  · exact .inl ⟨by simp, rfl⟩
  split
  · exact .inl ⟨by simp, rfl⟩
  rename_i absent
  split
  · exact .inl ⟨by simp, rfl⟩
  rename_i answered
  split
  · exact .inl ⟨by simp, rfl⟩
  · refine .inr ⟨rfl, mapAt_eq_none_iff.mpr ?_, rfl, rfl⟩
    simpa [Kernel.pathExists, answered] using absent

theorem requested_of_arguments {first second : Derived}
    (same : first.arguments = second.arguments) (id : Nat) (name : Bytes) :
    first.requested id name outcomes = second.requested id name outcomes := by
  cases first <;> cases second <;> cases same <;> rfl

/-- The pin is opened. -/
theorem reused_of_opens {result : Focus × BpfControlErrorCode}
    (opens : focus.Opens true pinPath outcomes result)
    (success : result.2 = .noError) :
    ∃ map, mapAt focus.kernel.pins pinPath = some map ∧
      focus.wrapper.derived.accepts map = true ∧
      result.1.wrapper.isOpen = true ∧
      result.1.kernel.mapBehind result.1.wrapper.fd.toNat = map ∧
      result.1.kernel.nextMapId =
        max focus.kernel.nextMapId (map.id + 1) := by
  cases opens with
  | refused failed => exact absurd success failed
  | plain failed => exact absurd success failed
  | events => cases success
  | rejected failed => exact absurd success failed
  | @reused pin _ _ found accepted =>
      refine ⟨pin.map, ?_, accepted, focus.obtained_isOpen pin.map,
        focus.mapBehind_obtained pin.map, rfl⟩
      exact congrArg (Option.map Pin.map) found
  | notCreated => cases success
  | created _ unpinned => cases unpinned

theorem opens_unowned {isPinned : Bool}
    {result : Focus × BpfControlErrorCode}
    (unowned : focus.wrapper.isPinOwner = false)
    (opens : focus.Opens isPinned pinPath outcomes result) :
    result.1.wrapper.isPinOwner = false := by
  cases opens with
  | rejected =>
      rw [Focus.close_wrapper (Focus.obtained_isOpen _)]
      rfl
  | _ => exact unowned

end Calls

/-- `open_or_create` is made of the effects of its three calls. -/
theorem openOrCreate_effects {object : Focus}
    (unowned : object.wrapper.isPinOwner = false) (pinPath : Bytes)
    (outcomes : OpenOutcomes) :
    Effects object (openOrCreate object pinPath outcomes).1 := by
  have reusing : object.Opens true pinPath outcomes.reusing _ :=
    Focus.opens_openWrapper true
  have reused := Focus.opens_effects (fun _ => unowned) reusing
  have stillUnowned := opens_unowned unowned reusing
  simp only [openOrCreate]
  split
  · exact reused
  generalize object.openWrapper true pinPath outcomes.reusing = result at *
  have creating : result.1.Opens false [] outcomes.creating _ :=
    Focus.opens_openWrapper false
  have created := reused.trans
    (Focus.opens_effects (fun _ => stillUnowned) creating)
  split
  · exact created
  · split
    · exact created.trans (Focus.pin_effects pinPath)
    · exact created.trans (Focus.pin_effects pinPath)

theorem openSpec_effects (kernel : Kernel) (spec : MapSpec)
    (outcomes : OpenOutcomes) :
    Effects ⟨kernel, .construct spec.derived spec.name⟩
      (openSpec kernel spec outcomes).1 :=
  openOrCreate_effects rfl _ _

/-- The descriptor of an open wrapper has been obtained. -/
def Assigned (focus : Focus) : Prop :=
  ∀ descriptor, focus.wrapper.descriptor = some descriptor →
    descriptor < focus.kernel.descriptors.opened

theorem assigned_of_effect {before after : Focus}
    (assigned : Assigned before) (effect : Effect before after) :
    Assigned after := by
  intro descriptor held
  cases effect with
  | adjust same => exact assigned descriptor (same.symm.trans held)
  | newDescriptor =>
      rw [Wrapper.descriptor_ofNat] at held
      cases held
      exact Nat.lt_succ_self _
  | closeDescriptor => cases held
  | _ => exact assigned descriptor held

theorem assigned_of_effects {before after : Focus}
    (assigned : Assigned before) (chain : Effects before after) :
    Assigned after := by
  induction chain with
  | refl => exact assigned
  | tail _ effect induction => exact assigned_of_effect induction effect

/-- Every map which can be reached has been given its id. -/
structure Numbered (kernel : Kernel) : Prop where
  pins : ∀ pin ∈ kernel.pins, pin.map.id < kernel.nextMapId
  behind : ∀ descriptor < kernel.descriptors.opened,
    (kernel.mapBehind descriptor).id < kernel.nextMapId

theorem numbered_of_effect {before after : Focus}
    (numbered : Numbered before.kernel) (assigned : Assigned before)
    (effect : Effect before after) : Numbered after.kernel := by
  cases effect with
  | @newDescriptor map =>
      constructor
      · intro pin member
        exact Nat.lt_of_lt_of_le (numbered.pins pin member)
          (Nat.le_max_left _ _)
      · intro descriptor obtained
        rcases Nat.lt_succ_iff_lt_or_eq.mp obtained with earlier | rfl
        · have other : descriptor ≠ before.kernel.descriptors.fresh :=
            Nat.ne_of_lt earlier
          simp only [Kernel.newDescriptor, Function.update_of_ne other]
          exact Nat.lt_of_lt_of_le (numbered.behind descriptor earlier)
            (Nat.le_max_left _ _)
        · simp only [Kernel.newDescriptor, Ledger.fresh,
            Function.update_self]
          exact Nat.lt_of_succ_le (Nat.le_max_right _ _)
  | pin opened =>
      refine ⟨?_, numbered.behind⟩
      intro pin member
      rcases List.mem_cons.mp member with rfl | old
      · exact numbered.behind _
          (assigned _ (Wrapper.descriptor_of_isOpen opened))
      · exact numbered.pins pin old
  | remove =>
      refine ⟨?_, numbered.behind⟩
      intro pin member
      exact numbered.pins pin (List.mem_of_mem_filter member)
  | _ => exact ⟨numbered.pins, numbered.behind⟩

theorem numbered_of_effects {before after : Focus}
    (numbered : Numbered before.kernel) (assigned : Assigned before)
    (chain : Effects before after) : Numbered after.kernel := by
  induction chain with
  | refl => exact numbered
  | tail earlier effect induction =>
      exact numbered_of_effect induction
        (assigned_of_effects assigned earlier) effect

theorem assigned_construct (kernel : Kernel) (spec : MapSpec) :
    Assigned ⟨kernel, .construct spec.derived spec.name⟩ := by
  rintro descriptor ⟨⟩

theorem numbered_openSpec {kernel : Kernel} (numbered : Numbered kernel)
    (spec : MapSpec) (outcomes : OpenOutcomes) :
    Numbered (openSpec kernel spec outcomes).1.kernel :=
  numbered_of_effects numbered (assigned_construct kernel spec)
    (openSpec_effects kernel spec outcomes)

theorem numbered_openMaps {kernel : Kernel} (numbered : Numbered kernel)
    (maps : List (MapSpec × OpenOutcomes)) :
    Numbered (openMaps kernel maps).1 := by
  induction maps generalizing kernel with
  | nil => exact numbered
  | cons first rest induction =>
      have opened := numbered_openSpec numbered first.1 first.2
      simp only [openMaps]
      split
      · exact induction opened
      · exact opened

/-- What outlives the processes: the pins, and which ids have been given. -/
structure Bpffs where
  pins : List Pin
  nextMapId : Nat
  given : ∀ pin ∈ pins, pin.map.id < nextMapId

/-- A process starts without descriptors and finds the pins. -/
def boot (bpffs : Bpffs) : Kernel where
  descriptors := .empty
  mapBehind _ := .create 0 0 [] 0 0 0
  nextMapId := bpffs.nextMapId
  pins := bpffs.pins
  pinCalls := .empty
  removals := []
  buffers := .empty
  builtFrom _ := 0
  orphaned := []

theorem numbered_boot (bpffs : Bpffs) : Numbered (boot bpffs) where
  pins := bpffs.given
  behind descriptor obtained := absurd obtained (Nat.not_lt_zero descriptor)

/-- The calls of `pin()` of a process which is gone. -/
def persisted (kernel : Kernel) : List Pin :=
  kernel.pins.map fun pin => { pin with creator := none }

/-- A process starts, and ends in whichever way: its destructors and the
kernel close its descriptors and leave the pins. -/
def Bpffs.start (bpffs : Bpffs) (maps : List (MapSpec × OpenOutcomes)) :
    Bpffs where
  pins := persisted (openMaps (boot bpffs) maps).1
  nextMapId := (openMaps (boot bpffs) maps).1.nextMapId
  given pin member := by
    obtain ⟨before, present, rfl⟩ := List.mem_map.mp member
    exact (numbered_openMaps (numbered_boot bpffs) maps).pins before present

/-- Another program pins a map, its own or one which it has opened. -/
def Bpffs.pin (bpffs : Bpffs) (path : Bytes) (map : KernelMap) : Bpffs where
  pins := { path := cString path, map := map, creator := none } :: bpffs.pins
  nextMapId := max bpffs.nextMapId (map.id + 1)
  given pin member := by
    rcases List.mem_cons.mp member with rfl | old
    · exact Nat.lt_of_succ_le (Nat.le_max_right _ _)
    · exact Nat.lt_of_lt_of_le (bpffs.given pin old) (Nat.le_max_left _ _)

inductive BpffsStep where
  | start (maps : List (MapSpec × OpenOutcomes))
  /-- Another program pins a map at a path which is free. -/
  | pinElsewhere (path : Bytes) (map : KernelMap)
  deriving DecidableEq, Repr

def bpffsStep (bpffs : Bpffs) : BpffsStep → Option Bpffs
  | .start maps => some (bpffs.start maps)
  | .pinElsewhere path map =>
      if (mapAt bpffs.pins path).isNone then some (bpffs.pin path map)
      else none

/-- Runs begin with any pins. -/
def bpffsMachine : Machine Bpffs BpffsStep where
  initial _ := True
  step := bpffsStep

/-- The ways `open_or_create` can end. -/
inductive Opened (object : Focus) (pinPath : Bytes) :
    Focus × Bool → Prop where
  | reused {focus : Focus} {map : KernelMap} :
      mapAt object.kernel.pins pinPath = some map →
      object.wrapper.derived.accepts map = true →
      focus.kernel.pins = object.kernel.pins →
      focus.wrapper.isOpen = true →
      focus.kernel.mapBehind focus.wrapper.fd.toNat = map →
      focus.kernel.nextMapId = max object.kernel.nextMapId (map.id + 1) →
      Opened object pinPath (focus, true)
  | created {focus : Focus} {id : Nat} {name : Bytes} {outcomes : Outcomes}
      {call : Option Nat} :
      mapAt object.kernel.pins pinPath = none →
      focus.kernel.pins =
        { path := cString pinPath
          map := object.wrapper.derived.requested id name outcomes
          creator := call } :: object.kernel.pins →
      focus.wrapper.isOpen = true →
      focus.kernel.mapBehind focus.wrapper.fd.toNat =
        object.wrapper.derived.requested id name outcomes →
      Opened object pinPath (focus, true)
  | failed {focus : Focus} :
      focus.kernel.pins = object.kernel.pins →
      Opened object pinPath (focus, false)

theorem opened_openOrCreate (object : Focus) (pinPath : Bytes)
    (outcomes : OpenOutcomes) :
    Opened object pinPath (openOrCreate object pinPath outcomes) := by
  have reusing : object.Opens true pinPath outcomes.reusing _ :=
    Focus.opens_openWrapper true
  have reusedPins := opens_pins reusing
  simp only [openOrCreate]
  split
  · rename_i success
    obtain ⟨map, found, accepted, opened, behind, ids⟩ :=
      reused_of_opens reusing success
    exact .reused found accepted reusedPins opened behind ids
  generalize object.openWrapper true pinPath outcomes.reusing = reused at *
  have creating : reused.1.Opens false [] outcomes.creating _ :=
    Focus.opens_openWrapper false
  have createdPins := (opens_pins creating).trans reusedPins
  split
  · exact .failed createdPins
  rename_i success
  have created := Focus.created_of_success creating (not_not.mp success)
  generalize reused.1.openWrapper false [] outcomes.creating = opened at *
  have arguments := Focus.opens_arguments reusing
  rcases @pin_cases opened.1 outcomes.pinning pinPath with
    ⟨failed, same⟩ | ⟨pinned, free, kernel, fd⟩
  · rw [if_pos failed, same]
    exact .failed createdPins
  · rw [if_neg (not_not.mpr pinned)]
    have behind : opened.1.kernel.mapBehind opened.1.wrapper.fd.toNat =
        object.wrapper.derived.requested reused.1.kernel.nextMapId
          reused.1.wrapper.name outcomes.creating := by
      rw [created, Focus.mapBehind_obtained]
      exact requested_of_arguments arguments _ _
    have pins : (opened.1.pin pinPath outcomes.pinning).1.kernel.pins =
        { path := cString pinPath
          map := object.wrapper.derived.requested
            reused.1.kernel.nextMapId reused.1.wrapper.name
            outcomes.creating
          creator := some opened.1.kernel.pinCalls.fresh } ::
          object.kernel.pins := by
      rw [kernel, Kernel.objPin, createdPins, behind]
    rw [createdPins] at free
    refine .created free pins ?_ ?_
    · rw [Wrapper.isOpen, fd, created]
      exact Focus.obtained_isOpen _
    · rw [kernel, fd]
      exact behind

theorem opened_openSpec (kernel : Kernel) (spec : MapSpec)
    (outcomes : OpenOutcomes) :
    Opened ⟨kernel, .construct spec.derived spec.name⟩ spec.pinPath
      (openSpec kernel spec outcomes) :=
  opened_openOrCreate _ _ _

/-- Every map which was pinned still is, at the same path. -/
def Extends (before after : List Pin) : Prop :=
  ∀ path map, mapAt before path = some map → mapAt after path = some map

theorem Extends.refl (pins : List Pin) : Extends pins pins :=
  fun _ _ found => found

theorem Extends.trans {first second third : List Pin}
    (earlier : Extends first second) (later : Extends second third) :
    Extends first third :=
  fun path map found => later path map (earlier path map found)

theorem mapAt_cons_self (pins : List Pin) (path : Bytes) (map : KernelMap)
    (creator : Option Nat) :
    mapAt ({ path := cString path, map := map, creator := creator } :: pins)
      path = some map := by
  simp [mapAt]

/-- A pin at a free path hides no other. -/
theorem extends_cons {pins : List Pin} {path : Bytes} (map : KernelMap)
    (creator : Option Nat) (free : mapAt pins path = none) :
    Extends pins
      ({ path := cString path, map := map, creator := creator } :: pins) := by
  intro other found present
  by_cases same : cString path = cString other
  · rw [mapAt, same, ← mapAt, present] at free
    cases free
  · simp only [mapAt, List.find?_cons, decide_eq_false same]
    exact present

theorem mapAt_persisted (kernel : Kernel) (path : Bytes) :
    mapAt (persisted kernel) path = mapAt kernel.pins path := by
  simp only [mapAt, persisted, List.find?_map, Option.map_map]
  rfl

theorem Opened.extends {object : Focus} {pinPath : Bytes}
    {result : Focus × Bool} (opened : Opened object pinPath result) :
    Extends object.kernel.pins result.1.kernel.pins := by
  cases opened with
  | reused _ _ pins =>
      rw [pins]
      exact .refl _
  | created free pins =>
      rw [pins]
      exact extends_cons _ _ free
  | failed pins =>
      rw [pins]
      exact .refl _

theorem extends_openMaps (kernel : Kernel)
    (maps : List (MapSpec × OpenOutcomes)) :
    Extends kernel.pins (openMaps kernel maps).1.pins := by
  induction maps generalizing kernel with
  | nil => exact .refl _
  | cons map rest induction =>
      obtain ⟨spec, outcomes⟩ := map
      have first := (opened_openSpec kernel spec outcomes).extends
      simp only [openMaps]
      split
      · exact first.trans (induction _)
      · exact first

theorem extends_start (bpffs : Bpffs)
    (maps : List (MapSpec × OpenOutcomes)) :
    Extends bpffs.pins (bpffs.start maps).pins := by
  intro path map found
  rw [Bpffs.start, mapAt_persisted]
  exact extends_openMaps (boot bpffs) maps path map found

theorem extends_of_step {bpffs later : Bpffs} {label : BpffsStep}
    (stepped : bpffsMachine.step bpffs label = some later) :
    Extends bpffs.pins later.pins := by
  cases label with
  | start maps =>
      cases stepped
      exact extends_start bpffs maps
  | pinElsewhere path map =>
      obtain ⟨free, pinned⟩ := Option.ite_none_right_eq_some.mp stepped
      cases pinned
      exact extends_cons _ _ (Option.isNone_iff_eq_none.mp free)

/-- One bpffs comes to be another one. -/
abbrev Becomes : Bpffs → Bpffs → Prop :=
  Relation.ReflTransGen fun bpffs later =>
    ∃ label, bpffsMachine.step bpffs label = some later

theorem extends_of_becomes {bpffs later : Bpffs}
    (becomes : Becomes bpffs later) : Extends bpffs.pins later.pins := by
  induction becomes with
  | refl => exact .refl _
  | tail _ stepped induction =>
      obtain ⟨label, stepped⟩ := stepped
      exact induction.trans (extends_of_step stepped)

/-- A map which `load_map_info` accepts once it is created: its sizes fit the
kernel, and a plain map is no event buffer. -/
def MapSpec.reusable (spec : MapSpec) : Bool :=
  spec.derived.fits &&
    match spec.derived with
    | .map _ _ _ mapType =>
        mapType ≠ mapTypePerfEventArray && mapType ≠ mapTypeRingbuf
    | _ => true

theorem narrowed_eq {size : UInt64} (fits : size.toNat < UInt32.size) :
    size = size.toUInt32.toUInt64 :=
  Derived.widened_eq_iff.mpr (Derived.toNat_narrowed fits)

theorem accepts_requested {spec : MapSpec} (reusable : spec.reusable = true)
    (id : Nat) (name : Bytes) (outcomes : Outcomes) :
    spec.derived.accepts (spec.derived.requested id name outcomes) =
      true := by
  obtain ⟨derived, _, _⟩ := spec
  simp only [MapSpec.reusable, Bool.and_eq_true] at reusable
  obtain ⟨fits, plain⟩ := reusable
  cases derived with
  | map keySize valueSize maxEntries mapType =>
      simp only [Derived.fits, Bool.and_eq_true, decide_eq_true_eq] at fits
      obtain ⟨⟨key, value⟩, entries⟩ := fits
      simp only [ne_eq, Bool.and_eq_true, decide_eq_true_eq] at plain
      simp [Derived.accepts, Focus.mapAccepts, Derived.requested,
        KernelMap.create, plain.1, plain.2, ← narrowed_eq key,
        ← narrowed_eq value, ← narrowed_eq entries]
  | ringBuffer bufSize sampleCb ringbuf =>
      have size := narrowed_eq (of_decide_eq_true fits)
      simp [Derived.accepts, Focus.ringBufferAccepts, Derived.requested,
        KernelMap.create, ← size]
  | perfBuffer pageCount sampleCb lostCb perfbuf => rfl

/-- The first `open` meets no failure. -/
def reopens (outcomes : Outcomes) : Bool :=
  !outcomes.initializeFails && !outcomes.existsFails &&
    outcomes.descriptorFails.isNone && !outcomes.infoFails

/-- The wrapper which `main` constructs compares what its arguments say. -/
theorem accepts_construct (spec : MapSpec) :
    (Wrapper.construct spec.derived spec.name).derived.accepts =
      spec.derived.accepts := by
  obtain ⟨derived, _, _⟩ := spec
  cases derived <;> rfl

theorem requested_construct (spec : MapSpec) (id : Nat) (name : Bytes)
    (outcomes : Outcomes) :
    (Wrapper.construct spec.derived spec.name).derived.requested id name
      outcomes = spec.derived.requested id name outcomes := by
  obtain ⟨derived, _, _⟩ := spec
  cases derived <;> rfl

theorem openWrapper_reuses {focus : Focus} {outcomes : Outcomes}
    {pinPath : Bytes} {map : KernelMap}
    (closed : focus.wrapper.isOpen = false)
    (found : mapAt focus.kernel.pins pinPath = some map)
    (accepted : focus.wrapper.derived.accepts map = true)
    (faultFree : reopens outcomes = true) :
    (focus.openWrapper true pinPath outcomes).2 = .noError := by
  simp only [reopens, Bool.and_eq_true, Bool.not_eq_true',
    Option.isNone_iff_eq_none] at faultFree
  obtain ⟨⟨⟨ready, answered⟩, succeeds⟩, informed⟩ := faultFree
  obtain ⟨pin, pinned, rfl⟩ := Option.map_eq_some_iff.mp found
  have present : focus.kernel.pathExists pinPath outcomes = true := by
    simp [Kernel.pathExists, answered, Kernel.pinAt, pinned]
  have got : focus.objGet pinPath outcomes = focus.obtained pin.map := by
    rw [Focus.objGet_of_pin pinned, Focus.receiveFd_of_success succeeds]
  have reused : ((focus.obtained pin.map).reusePinned
      focus.wrapper.derived.accepts pinPath outcomes).2 = .noError := by
    simp [Focus.reusePinned, Focus.loadMapInfo, Focus.obtained_isOpen,
      Focus.mapBehind_obtained, informed, accepted]
  unfold Focus.openWrapper
  cases derived : focus.wrapper.derived with
  | map keySize valueSize maxEntries mapType =>
      rw [derived] at reused
      simp only [Focus.openMap, ready, closed, present, got,
        Focus.obtained_isOpen, Bool.not_true, Bool.false_eq_true, if_false,
        if_true]
      exact reused
  | ringBuffer bufSize sampleCb ringbuf =>
      rw [derived] at reused
      simp only [Focus.openRingBuffer, ready, closed, present, got,
        Focus.obtained_isOpen, Bool.not_true, Bool.false_eq_true, if_false,
        if_true]
      exact reused
  | perfBuffer pageCount sampleCb lostCb perfbuf =>
      rw [derived] at reused
      simp only [Focus.openPerfBuffer, ready, closed, present, got,
        Focus.obtained_isOpen, Bool.not_true, Bool.false_eq_true, if_false,
        if_true]
      exact reused

/-- The pin of a specification holds a map of its layout. -/
def MapSpec.Pinned (spec : MapSpec) (pins : List Pin) (map : KernelMap) :
    Prop :=
  mapAt pins spec.pinPath = some map ∧ spec.derived.accepts map = true

theorem MapSpec.Pinned.later {spec : MapSpec} {pins later : List Pin}
    {map : KernelMap} (pinned : spec.Pinned pins map)
    (stays : Extends pins later) : spec.Pinned later map :=
  ⟨stays _ _ pinned.1, pinned.2⟩

/-- The wrapper is open and has the map behind it which is pinned at the path
of the specification. -/
def Serves (kernel : Kernel) (spec : MapSpec) (wrapper : Wrapper) : Prop :=
  wrapper.isOpen = true ∧
    mapAt kernel.pins spec.pinPath =
      some (kernel.mapBehind wrapper.fd.toNat)

theorem serves_openSpec {kernel : Kernel} {spec : MapSpec}
    {outcomes : OpenOutcomes}
    (success : (openSpec kernel spec outcomes).2 = true) :
    Serves (openSpec kernel spec outcomes).1.kernel spec
      (openSpec kernel spec outcomes).1.wrapper := by
  have opened := opened_openSpec kernel spec outcomes
  generalize openSpec kernel spec outcomes = result at opened success ⊢
  cases opened with
  | reused found _ pins isOpen behind =>
      refine ⟨isOpen, ?_⟩
      rw [behind, pins]
      exact found
  | created _ pins isOpen behind =>
      refine ⟨isOpen, ?_⟩
      rw [behind, pins]
      exact mapAt_cons_self _ _ _ _
  | failed => cases success

/-- A map which is open has the layout of the specification. -/
theorem accepts_of_opened {kernel : Kernel} {spec : MapSpec}
    {outcomes : OpenOutcomes} (reusable : spec.reusable = true)
    (success : (openSpec kernel spec outcomes).2 = true) :
    spec.derived.accepts ((openSpec kernel spec outcomes).1.kernel.mapBehind
      (openSpec kernel spec outcomes).1.wrapper.fd.toNat) = true := by
  have opened := opened_openSpec kernel spec outcomes
  generalize openSpec kernel spec outcomes = result at opened success ⊢
  cases opened with
  | reused _ accepted _ _ behind =>
      rw [behind]
      rwa [accepts_construct] at accepted
  | created _ _ _ behind =>
      rw [behind, requested_construct]
      exact accepts_requested reusable _ _ _
  | failed => cases success

/-- A map which is pinned is opened, and no other map is created. -/
theorem openSpec_reuses {kernel : Kernel} {spec : MapSpec}
    {outcomes : OpenOutcomes} {map : KernelMap} (numbered : Numbered kernel)
    (pinned : spec.Pinned kernel.pins map)
    (faultFree : reopens outcomes.reusing = true) :
    (openSpec kernel spec outcomes).2 = true ∧
      (openSpec kernel spec outcomes).1.kernel.pins = kernel.pins ∧
      (openSpec kernel spec outcomes).1.kernel.nextMapId =
        kernel.nextMapId := by
  obtain ⟨found, accepted⟩ := pinned
  rw [← accepts_construct] at accepted
  have closed : (Focus.mk kernel (.construct spec.derived
      spec.name)).wrapper.isOpen = false := rfl
  have reused := openWrapper_reuses closed found accepted faultFree
  have success : (openSpec kernel spec outcomes).2 = true := by
    simp only [openSpec, openOrCreate, if_pos reused]
  have opened := opened_openSpec kernel spec outcomes
  generalize openSpec kernel spec outcomes = result at opened success ⊢
  cases opened with
  | reused there _ pins _ _ ids =>
      refine ⟨rfl, pins, ids.trans (Nat.max_eq_left ?_)⟩
      obtain ⟨pin, present, rfl⟩ := Option.map_eq_some_iff.mp there
      exact numbered.pins pin (List.mem_of_find?_eq_some present)
  | created free =>
      rw [free] at found
      cases found
  | failed => cases success

/-- What a start which has opened its maps leaves. -/
theorem pinned_of_success {kernel : Kernel}
    {maps : List (MapSpec × OpenOutcomes)}
    (reusable : ∀ entry ∈ maps, entry.1.reusable = true)
    (success : (openMaps kernel maps).2.2 = true) :
    ∀ entry ∈ maps, ∃ map,
      entry.1.Pinned (openMaps kernel maps).1.pins map := by
  induction maps generalizing kernel with
  | nil => simp
  | cons first rest induction =>
      obtain ⟨spec, outcomes⟩ := first
      have atFirst := reusable _ List.mem_cons_self
      have atRest : ∀ entry ∈ rest, entry.1.reusable = true :=
        fun entry member => reusable entry (List.mem_cons_of_mem _ member)
      simp only [openMaps] at success ⊢
      split at success
      · rename_i opened
        rw [if_pos opened]
        intro entry member
        rcases List.mem_cons.mp member with rfl | later
        · have pinned : spec.Pinned _ _ :=
            ⟨(serves_openSpec opened).2, accepts_of_opened atFirst opened⟩
          exact ⟨_, pinned.later (extends_openMaps _ rest)⟩
        · exact induction atRest success entry later
      · cases success

/-- A start which finds all its maps opens them and creates none. -/
theorem openMaps_reuses {kernel : Kernel}
    {maps : List (MapSpec × OpenOutcomes)} (numbered : Numbered kernel)
    (pinned : ∀ entry ∈ maps, ∃ map, entry.1.Pinned kernel.pins map)
    (faultFree : ∀ entry ∈ maps, reopens entry.2.reusing = true) :
    (openMaps kernel maps).2.2 = true ∧
      (openMaps kernel maps).1.pins = kernel.pins ∧
      (openMaps kernel maps).1.nextMapId = kernel.nextMapId := by
  induction maps generalizing kernel with
  | nil => exact ⟨rfl, rfl, rfl⟩
  | cons first rest induction =>
      obtain ⟨spec, outcomes⟩ := first
      obtain ⟨map, found⟩ := pinned _ List.mem_cons_self
      obtain ⟨success, pins, ids⟩ := openSpec_reuses numbered found
        (faultFree _ List.mem_cons_self)
      have others : ∀ entry ∈ rest, ∃ map, entry.1.Pinned
          (openSpec kernel spec outcomes).1.kernel.pins map := by
        intro entry member
        rw [pins]
        exact pinned entry (List.mem_cons_of_mem _ member)
      obtain ⟨restSuccess, restPins, restIds⟩ := induction
        (numbered_openSpec numbered spec outcomes) others
        fun entry member => faultFree entry (List.mem_cons_of_mem _ member)
      simp only [openMaps, if_pos success]
      exact ⟨restSuccess, restPins.trans pins, restIds.trans ids⟩

/-- Opening further maps changes neither a pin nor what is behind an earlier
descriptor. -/
theorem mapBehind_openMaps {kernel : Kernel} {descriptor : Nat}
    (obtained : descriptor < kernel.descriptors.opened)
    (maps : List (MapSpec × OpenOutcomes)) :
    (openMaps kernel maps).1.mapBehind descriptor =
      kernel.mapBehind descriptor := by
  induction maps generalizing kernel with
  | nil => rfl
  | cons first rest induction =>
      obtain ⟨same, still⟩ := mapBehind_of_effects
        (openSpec_effects kernel first.1 first.2) obtained
      simp only [openMaps]
      split
      · exact (induction still).trans same
      · exact same

theorem Serves.later {kernel : Kernel} {spec : MapSpec} {wrapper : Wrapper}
    (serves : Serves kernel spec wrapper)
    (assigned : Assigned ⟨kernel, wrapper⟩)
    (maps : List (MapSpec × OpenOutcomes)) :
    Serves (openMaps kernel maps).1 spec wrapper := by
  obtain ⟨isOpen, pinned⟩ := serves
  refine ⟨isOpen, ?_⟩
  rw [mapBehind_openMaps (assigned _ (Wrapper.descriptor_of_isOpen isOpen))]
  exact extends_openMaps kernel maps _ _ pinned

/-- The wrappers of a start which succeeds serve its specifications. -/
theorem serves_of_success {kernel : Kernel}
    {maps : List (MapSpec × OpenOutcomes)}
    (success : (openMaps kernel maps).2.2 = true) :
    List.Forall₂ (Serves (openMaps kernel maps).1) (maps.map Prod.fst)
      (openMaps kernel maps).2.1 := by
  induction maps generalizing kernel with
  | nil => exact .nil
  | cons first rest induction =>
      have assigned := assigned_of_effects
        (assigned_construct kernel first.1)
        (openSpec_effects kernel first.1 first.2)
      simp only [openMaps] at success ⊢
      split at success
      · rename_i opened
        rw [if_pos opened]
        exact .cons ((serves_openSpec opened).later assigned rest)
          (induction success)
      · cases success

/-- A start with a map of another layout than the pinned one fails. -/
theorem openMaps_refuses {kernel : Kernel}
    {maps : List (MapSpec × OpenOutcomes)} {spec : MapSpec}
    {outcomes : OpenOutcomes} {map : KernelMap}
    (member : (spec, outcomes) ∈ maps)
    (found : mapAt kernel.pins spec.pinPath = some map)
    (rejected : spec.derived.accepts map = false) :
    (openMaps kernel maps).2.2 = false := by
  induction maps generalizing kernel with
  | nil => cases member
  | cons first rest induction =>
      have opened := opened_openSpec kernel first.1 first.2
      simp only [openMaps]
      split
      · rename_i success
        rcases List.mem_cons.mp member with rfl | later
        · generalize openSpec kernel spec outcomes = result
            at opened success
          cases opened with
          | reused foundToo accepted =>
              rw [accepts_construct] at accepted
              cases found.symm.trans foundToo
              rw [rejected] at accepted
              cases accepted
          | created free => cases found.symm.trans free
          | failed => cases success
        · exact induction later (opened.extends _ _ found)
      · rfl

/-- The wrappers of two starts have the same maps behind them, one by one. -/
def SameMaps (first second : Kernel × List Wrapper × Bool) : Prop :=
  List.Forall₂
    (fun earlier later => second.1.mapBehind later.fd.toNat =
      first.1.mapBehind earlier.fd.toNat) first.2.1 second.2.1

/-- What is pinned at the paths decides what is behind the wrappers. -/
theorem sameMaps_of_serves {first second : Kernel × List Wrapper × Bool}
    {specs : List MapSpec}
    (earlier : List.Forall₂ (Serves first.1) specs first.2.1)
    (later : List.Forall₂ (Serves second.1) specs second.2.1)
    (stays : Extends first.1.pins second.1.pins) :
    SameMaps first second := by
  obtain ⟨firstKernel, firstWrappers, _⟩ := first
  obtain ⟨secondKernel, secondWrappers, _⟩ := second
  simp only [SameMaps] at earlier later stays ⊢
  induction earlier generalizing secondWrappers with
  | nil =>
      cases later
      exact .nil
  | cons served _ induction =>
      cases later with
      | cons servedLater rest =>
          refine .cons ?_ (induction _ rest)
          have kept := stays _ _ served.2
          exact Option.some.inj (servedLater.2.symm.trans kept)

/-- When a start has opened its maps, then after any further starts, whatever
fails in them, and any pins of other programs, a start with the same arguments
opens the same maps, those which are pinned, creates none and leaves bpffs as
it is, provided that the calls which open a pin succeed. -/
theorem restart_reuses {bpffs second later : Bpffs}
    {maps again : List (MapSpec × OpenOutcomes)}
    (reusable : ∀ entry ∈ maps, entry.1.reusable = true)
    (started : bpffsMachine.step bpffs (.start maps) = some second)
    (success : (openMaps (boot bpffs) maps).2.2 = true)
    (becomes : Becomes second later)
    (same : again.map Prod.fst = maps.map Prod.fst)
    (faultFree : ∀ entry ∈ again, reopens entry.2.reusing = true) :
    (openMaps (boot later) again).2.2 = true ∧
      SameMaps (openMaps (boot bpffs) maps) (openMaps (boot later) again) ∧
      List.Forall₂ (Serves (openMaps (boot later) again).1)
        (maps.map Prod.fst) (openMaps (boot later) again).2.1 ∧
      (openMaps (boot later) again).1.nextMapId = later.nextMapId ∧
      (openMaps (boot later) again).1.pins = later.pins ∧
      ∀ entry ∈ maps, (mapAt second.pins entry.1.pinPath).isSome = true ∧
        mapAt later.pins entry.1.pinPath =
          mapAt second.pins entry.1.pinPath := by
  cases started
  have stays := extends_of_becomes becomes
  have pinned : ∀ entry ∈ maps, ∃ map, entry.1.Pinned
      (bpffs.start maps).pins map := by
    intro entry member
    obtain ⟨map, found, accepted⟩ :=
      pinned_of_success reusable success entry member
    exact ⟨map, (mapAt_persisted _ _).trans found, accepted⟩
  have pinnedAgain : ∀ entry ∈ again, ∃ map,
      entry.1.Pinned (boot later).pins map := by
    intro entry member
    have asBefore : entry.1 ∈ maps.map Prod.fst := by
      rw [← same]
      exact List.mem_map_of_mem member
    obtain ⟨before, beforeMember, sameSpec⟩ := List.mem_map.mp asBefore
    obtain ⟨map, found⟩ := pinned before beforeMember
    rw [← sameSpec]
    exact ⟨map, found.later stays⟩
  obtain ⟨succeeds, unchanged, noneCreated⟩ :=
    openMaps_reuses (numbered_boot later) pinnedAgain faultFree
  have served := serves_of_success success
  have servedAgain := serves_of_success succeeds
  rw [same] at servedAgain
  refine ⟨succeeds, sameMaps_of_serves served servedAgain ?_, servedAgain,
    noneCreated, unchanged, ?_⟩
  · intro path map found
    rw [unchanged]
    exact stays path map ((mapAt_persisted _ _).trans found)
  · intro entry member
    obtain ⟨map, found, _⟩ := pinned entry member
    rw [found, stays _ _ found]
    exact ⟨rfl, rfl⟩

/-- A start of `main` where every call has the same outcomes. -/
def mainStart (outcomes : OpenOutcomes) : List (MapSpec × OpenOutcomes) :=
  mainMaps.map fun spec => (spec, outcomes)

def emptyBpffs : Bpffs where
  pins := []
  nextMapId := 0
  given := by simp

/-- After the first start of `main` on an empty bpffs. -/
def firstBpffs : Bpffs :=
  emptyBpffs.start (mainStart {})

/-- A start which cannot look for its pins: it creates a map, which it cannot
pin. -/
def blindStart : List (MapSpec × OpenOutcomes) :=
  mainStart { reusing := { existsFails := true } }

def laterBpffs : Bpffs :=
  firstBpffs.start blindStart

theorem restart_reuses_main :
    SameMaps (openMaps (boot emptyBpffs) (mainStart {}))
        (openMaps (boot laterBpffs) (mainStart {})) ∧
      (openMaps (boot laterBpffs) (mainStart {})).2.1.map (fun wrapper =>
        ((openMaps (boot laterBpffs) (mainStart {})).1.mapBehind
          wrapper.fd.toNat).id) = [0, 1, 2] ∧
      (openMaps (boot laterBpffs) (mainStart {})).1.nextMapId = 4 := by
  have reusable : ∀ entry ∈ mainStart {}, entry.1.reusable = true := by
    decide
  have success : (openMaps (boot emptyBpffs) (mainStart {})).2.2 = true := by
    decide +kernel
  have becomes : Becomes firstBpffs laterBpffs :=
    .single ⟨.start blindStart, rfl⟩
  have faultFree : ∀ entry ∈ mainStart {},
      reopens entry.2.reusing = true := by
    decide
  have created : laterBpffs.nextMapId = 4 := by decide +kernel
  obtain ⟨_, sameMaps, _, noneCreated, _⟩ :=
    restart_reuses reusable rfl success becomes rfl faultFree
  exact ⟨sameMaps, by decide +kernel, noneCreated.trans created⟩

/-- A map which is pinned stays pinned, and as long as it does every start
which expects another type or size there fails, whatever its other calls
do. -/
theorem mismatched_map_refused {bpffs later : Bpffs} {path : Bytes}
    {map : KernelMap} (pinned : mapAt bpffs.pins path = some map)
    (becomes : Becomes bpffs later) :
    mapAt later.pins path = some map ∧
      ∀ maps : List (MapSpec × OpenOutcomes),
        (∃ entry ∈ maps, entry.1.pinPath = path ∧
          entry.1.derived.Differs map) →
        (openMaps (boot later) maps).2.2 = false := by
  have stays := extends_of_becomes becomes path map pinned
  refine ⟨stays, ?_⟩
  rintro maps ⟨⟨spec, outcomes⟩, member, rfl, differs⟩
  exact openMaps_refuses member stays
    (Derived.accepts_eq_false_iff.mpr differs)

/-- The mirror map of an older version, with fewer destinations. -/
def olderMirrorMap : KernelMap :=
  .create 0 mapTypeHash (ascii "mirror_map") 4 44 10

def olderBpffs : Bpffs where
  pins :=
    [{ path := ascii "/sys/fs/bpf/mirror_map"
       map := olderMirrorMap
       creator := none }]
  nextMapId := 1
  given := by simp [olderMirrorMap, KernelMap.create]

theorem mismatched_map_refused_older :
    (openMaps (boot olderBpffs) (mainStart {})).2.2 = false := by
  have pinned : mapAt olderBpffs.pins (ascii "/sys/fs/bpf/mirror_map") =
      some olderMirrorMap := by
    decide +kernel
  refine (mismatched_map_refused pinned .refl).2 _
    ⟨_, List.mem_cons_self, rfl, ?_⟩
  exact .inr (.inr (.inl (by decide)))

end LibbpfControl.Main
