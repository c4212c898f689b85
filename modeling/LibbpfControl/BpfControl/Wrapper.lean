import LibbpfControl.Ledger
import LibbpfControl.Machine

/-!
# Map wrappers

`BpfMapControl`, `BpfRingBufferControl` and `BpfPerfBufferControl` share the
members of `BpfBase`: a descriptor, a name, a pin path and the flag which says
that the wrapper may remove the pin.  The two event classes add a userspace
buffer built from the descriptor.

The wrappers act on the part of the system they can reach: descriptors and
the maps behind them, the pins of bpffs, and the buffers allocated by libbpf.
Every call into it may fail; the failures of one operation are its
`Outcomes`.  A move or a destruction is an operation of the state which holds
all wrappers.
-/

namespace LibbpfControl.BpfControl

inductive BpfControlErrorCode where
  | noError
  | openError
  | notOpenedError
  | alreadyOpenedError
  | alreadyPinnedError
  | alreadyOwnsPinError
  | closeError
  | updateError
  | lookupError
  | deleteError
  | createMapError
  | pinningError
  | notPinnedError
  | unpinningError
  | getNextKeyError
  | getNextKeyNotFoundError
  | getNextKeyInvalidError
  | callbackNotSetError
  | bufferMakeError
  | invalidPerfPageSizeError
  | invalidPerfBufferSizeError
  | invalidRingBufferSizeError
  | perfFailedToGetCpuCountError
  | pollingError
  | invalidUnpinError
  | bpfRuntimeInitError
  | pinnedMapMismatchError
  deriving DecidableEq, Repr

abbrev Bytes := List UInt8

/-- What `c_str()` hands to the C interfaces ends at the first zero. -/
def cString (bytes : Bytes) : Bytes :=
  bytes.takeWhile fun byte => byte ≠ 0

def mapTypePerfEventArray : UInt32 := 4
def mapTypeRingbuf : UInt32 := 27

/-- The members of `struct bpf_map_info` which the wrappers read, and the
`id` which tells maps of one layout and name apart. -/
structure KernelMap where
  id : Nat
  mapType : UInt32
  keySize : UInt32
  valueSize : UInt32
  maxEntries : UInt32
  name : Bytes
  deriving DecidableEq, Repr

/-- `bpf_map_create` keeps the first 15 bytes of the name. -/
def KernelMap.create (id : Nat) (mapType : UInt32) (name : Bytes)
    (keySize valueSize maxEntries : UInt32) : KernelMap where
  id := id
  mapType := mapType
  keySize := keySize
  valueSize := valueSize
  maxEntries := maxEntries
  name := (cString name).take 15

/-- An entry of bpffs.  `creator` is the number of the `pin()` call which
created it; entries found at the start have none. -/
structure Pin where
  path : Bytes
  map : KernelMap
  creator : Option Nat
  deriving DecidableEq, Repr

/-- A pin removed by `unpin()`: the call which created it, and the call by
which the removing wrapper became a pin owner. -/
structure Removal where
  creator : Option Nat
  owner : Option Nat
  deriving DecidableEq, Repr

structure Kernel where
  descriptors : Ledger
  mapBehind : Nat → KernelMap
  /-- The `id` of the next map; no map has been given it or a higher one. -/
  nextMapId : Nat
  pins : List Pin
  /-- Successful calls of `pin()`, released when the ownership ends. -/
  pinCalls : Ledger
  removals : List Removal
  buffers : Ledger
  /-- The descriptor each buffer was built from. -/
  builtFrom : Nat → Nat
  /-- Buffers which were alive when their descriptor was closed. -/
  orphaned : List Nat

/-- Which calls of one operation fail, and with which code. -/
structure Outcomes where
  initializeFails : Bool := false
  existsFails : Bool := false
  /-- The descriptor call returns the negative number `-(n + 1)`. -/
  descriptorFails : Option Nat := none
  infoFails : Bool := false
  cpuCount : Int32 := 1
  objPinFails : Bool := false
  removeFails : Bool := false
  closeFails : Bool := false
  bufferFails : Bool := false
  deriving DecidableEq, Repr

namespace Kernel

def pinAt (kernel : Kernel) (path : Bytes) : Option Pin :=
  kernel.pins.find? fun pin => pin.path = cString path

/-- `std::filesystem::exists` answers no when it sets the error code. -/
def pathExists (kernel : Kernel) (path : Bytes) (outcomes : Outcomes) :
    Bool :=
  !outcomes.existsFails && (kernel.pinAt path).isSome

/-- A descriptor of a map, which may be the next new one. -/
def newDescriptor (kernel : Kernel) (map : KernelMap) : Kernel :=
  { kernel with
    descriptors := kernel.descriptors.acquire
    mapBehind :=
      Function.update kernel.mapBehind kernel.descriptors.fresh map
    nextMapId := max kernel.nextMapId (map.id + 1) }

/-- The buffers built from a descriptor and not freed yet. -/
def buffersOver (kernel : Kernel) (descriptor : Nat) : List Nat :=
  (List.range kernel.buffers.opened).filter fun buffer =>
    buffer ∉ kernel.buffers.closed ∧ kernel.builtFrom buffer = descriptor

/-- Linux releases the descriptor whatever `::close` returns. -/
def closeDescriptor (kernel : Kernel) (descriptor : Nat) : Kernel :=
  { kernel with
    descriptors := kernel.descriptors.release descriptor
    orphaned := kernel.buffersOver descriptor ++ kernel.orphaned }

def objPin (kernel : Kernel) (descriptor : Nat) (path : Bytes) : Kernel :=
  { kernel with
    pins :=
      { path := cString path
        map := kernel.mapBehind descriptor
        creator := some kernel.pinCalls.fresh } :: kernel.pins
    pinCalls := kernel.pinCalls.acquire }

def endOwnership (kernel : Kernel) (pinCall : Option Nat) : Kernel :=
  { kernel with pinCalls := kernel.pinCalls.releaseHeld pinCall }

def remove (kernel : Kernel) (path : Bytes) (owner : Option Nat) : Kernel :=
  { kernel with
    pins := kernel.pins.filter fun pin => pin.path ≠ cString path
    removals :=
      (kernel.pins.filter fun pin => pin.path = cString path).map
          (fun pin => ⟨pin.creator, owner⟩) ++
        kernel.removals }

def newBuffer (kernel : Kernel) (descriptor : Nat) : Kernel :=
  { kernel with
    buffers := kernel.buffers.acquire
    builtFrom :=
      Function.update kernel.builtFrom kernel.buffers.fresh descriptor }

/-- Freeing a null pointer does nothing. -/
def freeBuffer (kernel : Kernel) (buffer : Option Nat) : Kernel :=
  { kernel with buffers := kernel.buffers.releaseHeld buffer }

end Kernel

/-- The members which the three classes add to `BpfBase`.  A callback is
represented by whether it is set. -/
inductive Derived where
  | map (keySize valueSize maxEntries : UInt64) (mapType : UInt32)
  | ringBuffer (bufSize : UInt64) (sampleCb : Bool) (ringbuf : Option Nat)
  | perfBuffer (pageCount : Int32) (sampleCb lostCb : Bool)
      (perfbuf : Option Nat)
  deriving DecidableEq, Repr

namespace Derived

def buffer : Derived → Option Nat
  | .map .. => none
  | .ringBuffer _ _ ringbuf => ringbuf
  | .perfBuffer _ _ _ perfbuf => perfbuf

def withBuffer : Derived → Option Nat → Derived
  | .map keySize valueSize maxEntries mapType, _ =>
      .map keySize valueSize maxEntries mapType
  | .ringBuffer bufSize sampleCb _, ringbuf =>
      .ringBuffer bufSize sampleCb ringbuf
  | .perfBuffer pageCount sampleCb lostCb _, perfbuf =>
      .perfBuffer pageCount sampleCb lostCb perfbuf

def setCallbacks (sampleCb lostCb : Bool) : Derived → Derived
  | .map keySize valueSize maxEntries mapType =>
      .map keySize valueSize maxEntries mapType
  | .ringBuffer bufSize _ ringbuf => .ringBuffer bufSize sampleCb ringbuf
  | .perfBuffer pageCount _ _ perfbuf =>
      .perfBuffer pageCount sampleCb lostCb perfbuf

/-- The classes which have `event_buffer_create`. -/
def hasEvents : Derived → Bool
  | .map .. => false
  | .ringBuffer .. => true
  | .perfBuffer .. => true

def callbacksSet : Derived → Bool
  | .map .. => false
  | .ringBuffer _ sampleCb _ => sampleCb
  | .perfBuffer _ sampleCb lostCb _ => sampleCb && lostCb

def sameClass : Derived → Derived → Bool
  | .map .., .map .. => true
  | .ringBuffer .., .ringBuffer .. => true
  | .perfBuffer .., .perfBuffer .. => true
  | _, _ => false

@[simp] theorem buffer_withBuffer_none (derived : Derived) :
    (derived.withBuffer none).buffer = none := by
  cases derived <;> rfl

theorem buffer_withBuffer {derived : Derived}
    (events : derived.hasEvents = true) (buffer : Option Nat) :
    (derived.withBuffer buffer).buffer = buffer := by
  cases derived with
  | map => cases events
  | ringBuffer => rfl
  | perfBuffer => rfl

@[simp] theorem buffer_setCallbacks (derived : Derived)
    (sampleCb lostCb : Bool) :
    (derived.setCallbacks sampleCb lostCb).buffer = derived.buffer := by
  cases derived <;> rfl

@[simp] theorem hasEvents_withBuffer (derived : Derived)
    (buffer : Option Nat) :
    (derived.withBuffer buffer).hasEvents = derived.hasEvents := by
  cases derived <;> rfl

@[simp] theorem withBuffer_withBuffer (derived : Derived)
    (first second : Option Nat) :
    (derived.withBuffer first).withBuffer second =
      derived.withBuffer second := by
  cases derived <;> rfl

end Derived

structure Wrapper where
  fd : Int
  name : Bytes
  pinPath : Bytes
  isPinOwner : Bool
  derived : Derived
  /-- The `pin()` call which made the wrapper, or the one it was moved from,
  the owner of its pin. -/
  pinCall : Option Nat
  deriving DecidableEq, Repr

namespace Wrapper

/-- The constructors take the name and the sizes; callbacks and buffer start
as null. -/
def construct (derived : Derived) (name : Bytes) : Wrapper where
  fd := -1
  name := name
  pinPath := []
  isPinOwner := false
  derived := (derived.setCallbacks false false).withBuffer none
  pinCall := none

def isOpen (wrapper : Wrapper) : Bool :=
  0 ≤ wrapper.fd

/-- The kernel's descriptor behind `fd_`. -/
def descriptor (wrapper : Wrapper) : Option Nat :=
  if wrapper.isOpen then some wrapper.fd.toNat else none

def buffer (wrapper : Wrapper) : Option Nat :=
  wrapper.derived.buffer

end Wrapper

/-- A wrapper together with the system its members act on. -/
structure Focus where
  kernel : Kernel
  wrapper : Wrapper

namespace Focus

def setFd (focus : Focus) (fd : Int) : Focus :=
  { focus with wrapper := { focus.wrapper with fd := fd } }

/-- `fd_` receives the result of a call which yields a descriptor of `map`
or fails. -/
def receiveFd (focus : Focus) (map : KernelMap) (outcomes : Outcomes) :
    Focus :=
  match outcomes.descriptorFails with
  | some code => focus.setFd (Int.negSucc code)
  | none =>
      { kernel := focus.kernel.newDescriptor map
        wrapper :=
          { focus.wrapper with fd := focus.kernel.descriptors.fresh } }

/-- The pin ownership ends and the path is cleared. -/
def dropPin (focus : Focus) : Focus where
  kernel := focus.kernel.endOwnership focus.wrapper.pinCall
  wrapper :=
    { focus.wrapper with isPinOwner := false, pinPath := [], pinCall := none }

/-- `reset()` of the unique pointer to the event buffer. -/
def resetBuffer (focus : Focus) : Focus where
  kernel := focus.kernel.freeBuffer focus.wrapper.buffer
  wrapper :=
    { focus.wrapper with derived := focus.wrapper.derived.withBuffer none }

def pin (focus : Focus) (pinPath : Bytes) (outcomes : Outcomes) :
    Focus × BpfControlErrorCode :=
  if !focus.wrapper.isOpen then (focus, .notOpenedError)
  else if focus.wrapper.isPinOwner then (focus, .alreadyOwnsPinError)
  else if focus.kernel.pathExists pinPath outcomes then
    (focus, .alreadyPinnedError)
  else if outcomes.existsFails then (focus, .pinningError)
  else if outcomes.objPinFails then (focus, .pinningError)
  else
    ({ kernel := focus.kernel.objPin focus.wrapper.fd.toNat pinPath
       wrapper :=
        { focus.wrapper with
          pinPath := pinPath
          isPinOwner := true
          pinCall := some focus.kernel.pinCalls.fresh } },
      .noError)

/-- `BpfBase::close`. -/
def closeBase (focus : Focus) (outcomes : Outcomes) :
    Focus × BpfControlErrorCode :=
  if !focus.wrapper.isOpen then (focus, .notOpenedError)
  else
    let closed : Focus :=
      { focus with
        kernel := focus.kernel.closeDescriptor focus.wrapper.fd.toNat }
    (closed.dropPin.setFd (-1),
      if outcomes.closeFails then .closeError else .noError)

/-- The virtual `close`: the event classes reset their buffer first. -/
def close (focus : Focus) (outcomes : Outcomes) :
    Focus × BpfControlErrorCode :=
  match focus.wrapper.derived with
  | .map .. => focus.closeBase outcomes
  | .ringBuffer .. => focus.resetBuffer.closeBase outcomes
  | .perfBuffer .. => focus.resetBuffer.closeBase outcomes

def unpin (focus : Focus) (outcomes : Outcomes) :
    Focus × BpfControlErrorCode :=
  if !focus.wrapper.isOpen then (focus, .notOpenedError)
  else if !focus.wrapper.isPinOwner then (focus, .invalidUnpinError)
  else if focus.kernel.pathExists focus.wrapper.pinPath outcomes then
    if outcomes.removeFails then
      -- the flag was cleared on entry and is restored here
      ({ focus with wrapper := { focus.wrapper with isPinOwner := true } },
        .unpinningError)
    else
      let removed : Focus :=
        { focus with
          kernel := focus.kernel.remove focus.wrapper.pinPath
            focus.wrapper.pinCall }
      (removed.dropPin, .noError)
  else if outcomes.existsFails then (focus.dropPin, .unpinningError)
  else (focus.dropPin, .notPinnedError)

/-- The common shape of `load_map_info`: `accepts` compares the map behind
the descriptor with what the constructor asked for. -/
def loadMapInfo (focus : Focus) (accepts : KernelMap → Bool)
    (outcomes : Outcomes) : Focus × BpfControlErrorCode :=
  if !focus.wrapper.isOpen then (focus, .notOpenedError)
  else if outcomes.infoFails then (focus, .openError)
  else
    let info := focus.kernel.mapBehind focus.wrapper.fd.toNat
    if accepts info then
      ({ focus with wrapper := { focus.wrapper with name := info.name } },
        .noError)
    else (focus, .pinnedMapMismatchError)

/-- The end of the pinned branch of every `open`: a map which cannot be
reused is closed again. -/
def reusePinned (focus : Focus) (accepts : KernelMap → Bool)
    (pinPath : Bytes) (outcomes : Outcomes) : Focus × BpfControlErrorCode :=
  let loaded := focus.loadMapInfo accepts outcomes
  if loaded.2 = .noError then
    ({ loaded.1 with wrapper := { loaded.1.wrapper with pinPath := pinPath } },
      .noError)
  else ((loaded.1.close outcomes).1, loaded.2)

/-- `fd_ = bpf_obj_get(pin_path)`. -/
def objGet (focus : Focus) (pinPath : Bytes) (outcomes : Outcomes) : Focus :=
  match focus.kernel.pinAt pinPath with
  | some pin => focus.receiveFd pin.map outcomes
  | none => focus.setFd (-2)

/-- `BpfMapControl::load_map_info`: the 64-bit sizes of the wrapper are
compared with the 32-bit sizes of the kernel. -/
def mapAccepts (keySize valueSize maxEntries : UInt64) (mapType : UInt32)
    (info : KernelMap) : Bool :=
  !(info.mapType = mapTypePerfEventArray || info.mapType = mapTypeRingbuf) &&
    keySize = info.keySize.toUInt64 && valueSize = info.valueSize.toUInt64 &&
    maxEntries = info.maxEntries.toUInt64 && mapType = info.mapType

/-- `BpfRingBufferControl::load_map_info`. -/
def ringBufferAccepts (bufSize : UInt64) (info : KernelMap) : Bool :=
  info.mapType = mapTypeRingbuf && bufSize = info.maxEntries.toUInt64

/-- `BpfPerfBufferControl::load_map_info`: the page count has no counterpart
in the kernel. -/
def perfBufferAccepts (info : KernelMap) : Bool :=
  info.mapType = mapTypePerfEventArray

/-- `BpfMapControl::open` resets `fd_` on every failure. -/
def openMap (focus : Focus) (keySize valueSize maxEntries : UInt64)
    (mapType : UInt32) (isPinned : Bool) (pinPath : Bytes)
    (outcomes : Outcomes) : Focus × BpfControlErrorCode :=
  if outcomes.initializeFails then (focus, .bpfRuntimeInitError)
  else if focus.wrapper.isOpen then (focus, .alreadyOpenedError)
  else if isPinned then
    if !focus.kernel.pathExists pinPath outcomes then
      (focus.setFd (-1), .notPinnedError)
    else
      let got := focus.objGet pinPath outcomes
      if !got.wrapper.isOpen then (got.setFd (-1), .openError)
      else
        got.reusePinned (mapAccepts keySize valueSize maxEntries mapType)
          pinPath outcomes
  else
    let created := focus.receiveFd
      (.create focus.kernel.nextMapId mapType focus.wrapper.name
        keySize.toUInt32 valueSize.toUInt32 maxEntries.toUInt32) outcomes
    if !created.wrapper.isOpen then (created.setFd (-1), .openError)
    else (created, .noError)

/-- `BpfRingBufferControl::open` leaves the code of a failed `bpf_obj_get`
in `fd_`. -/
def openRingBuffer (focus : Focus) (bufSize : UInt64) (isPinned : Bool)
    (pinPath : Bytes) (outcomes : Outcomes) : Focus × BpfControlErrorCode :=
  if outcomes.initializeFails then (focus, .bpfRuntimeInitError)
  else if focus.wrapper.isOpen then (focus, .alreadyOpenedError)
  else if isPinned then
    if !focus.kernel.pathExists pinPath outcomes then
      (focus, .notPinnedError)
    else
      let got := focus.objGet pinPath outcomes
      if !got.wrapper.isOpen then (got, .openError)
      else got.reusePinned (ringBufferAccepts bufSize) pinPath outcomes
  else if bufSize ≤ 0 || bufSize &&& (bufSize - 1) ≠ 0 then
    (focus, .invalidRingBufferSizeError)
  else
    let created := focus.receiveFd
      (.create focus.kernel.nextMapId mapTypeRingbuf focus.wrapper.name 0 0
        bufSize.toUInt32) outcomes
    if !created.wrapper.isOpen then (created.setFd (-1), .openError)
    else (created, .noError)

/-- `BpfPerfBufferControl::open` sizes the array by the possible CPUs. -/
def openPerfBuffer (focus : Focus) (pageCount : Int32) (isPinned : Bool)
    (pinPath : Bytes) (outcomes : Outcomes) : Focus × BpfControlErrorCode :=
  if outcomes.initializeFails then (focus, .bpfRuntimeInitError)
  else if focus.wrapper.isOpen then (focus, .alreadyOpenedError)
  else if isPinned then
    if !focus.kernel.pathExists pinPath outcomes then
      (focus, .notPinnedError)
    else
      let got := focus.objGet pinPath outcomes
      if !got.wrapper.isOpen then (got, .openError)
      else got.reusePinned perfBufferAccepts pinPath outcomes
  else if outcomes.cpuCount ≤ 0 then (focus, .perfFailedToGetCpuCountError)
  else if pageCount ≤ 0 || pageCount &&& (pageCount - 1) ≠ 0 then
    (focus, .invalidPerfPageSizeError)
  else
    let created := focus.receiveFd
      (.create focus.kernel.nextMapId mapTypePerfEventArray
        focus.wrapper.name 4 4 outcomes.cpuCount.toUInt32) outcomes
    if !created.wrapper.isOpen then (created.setFd (-1), .openError)
    else (created, .noError)

/-- The virtual `open`. -/
def openWrapper (focus : Focus) (isPinned : Bool) (pinPath : Bytes)
    (outcomes : Outcomes) : Focus × BpfControlErrorCode :=
  match focus.wrapper.derived with
  | .map keySize valueSize maxEntries mapType =>
      focus.openMap keySize valueSize maxEntries mapType isPinned pinPath
        outcomes
  | .ringBuffer bufSize _ _ =>
      focus.openRingBuffer bufSize isPinned pinPath outcomes
  | .perfBuffer pageCount _ _ _ =>
      focus.openPerfBuffer pageCount isPinned pinPath outcomes

/-- `reset(new)`: the new buffer exists before the old one is freed, and the
old one is freed also when the new one could not be made. -/
def replaceBuffer (focus : Focus) (fails : Bool) : Focus :=
  if fails then focus.resetBuffer
  else
    { kernel := (focus.kernel.newBuffer focus.wrapper.fd.toNat).freeBuffer
        focus.wrapper.buffer
      wrapper :=
        { focus.wrapper with
          derived := focus.wrapper.derived.withBuffer
            (some focus.kernel.buffers.fresh) } }

def eventBufferCreate (focus : Focus) (outcomes : Outcomes) :
    Focus × BpfControlErrorCode :=
  if !focus.wrapper.isOpen then (focus, .notOpenedError)
  else if !focus.wrapper.derived.callbacksSet then
    (focus, .callbackNotSetError)
  else
    (focus.replaceBuffer outcomes.bufferFails,
      if outcomes.bufferFails then .bufferMakeError else .noError)

end Focus

/-- The contents of the strings of a moved-from wrapper, which the standard
leaves unspecified. -/
structure Residue where
  name : Bytes := []
  pinPath : Bytes := []
  deriving DecidableEq, Repr

/-- What a move leaves of its source. -/
def Wrapper.movedFrom (wrapper : Wrapper) (residue : Residue) : Wrapper where
  fd := -1
  name := residue.name
  pinPath := residue.pinPath
  isPinOwner := false
  derived := wrapper.derived.withBuffer none
  pinCall := none

/-- The move constructor: the base members first, then the members of the
class. -/
def Wrapper.moveConstruct (other : Wrapper) : Wrapper where
  fd := other.fd
  name := other.name
  pinPath := other.pinPath
  isPinOwner := other.isPinOwner
  derived := other.derived
  pinCall := other.pinCall

namespace Focus

/-- The base part of the move assignment to another object closes an open
target. -/
def closeOpen (focus : Focus) (outcomes : Outcomes) : Focus :=
  if focus.wrapper.isOpen then (focus.close outcomes).1 else focus

/-- Move assignment from another object.  The assignment to the unique
pointer frees the buffer which the target holds at that point. -/
def moveAssign (focus : Focus) (other : Wrapper) (outcomes : Outcomes) :
    Focus :=
  let target := focus.closeOpen outcomes
  { kernel := target.kernel.freeBuffer target.wrapper.buffer
    wrapper :=
      { target.wrapper with
        fd := other.fd
        name := other.name
        pinPath := other.pinPath
        isPinOwner := other.isPinOwner
        derived := other.derived
        pinCall := other.pinCall } }

/-- The destructor of the class resets the buffer, then the base class closes
what is still open. -/
def destroy (focus : Focus) (outcomes : Outcomes) : Focus :=
  let reset := focus.resetBuffer
  if reset.wrapper.isOpen then (reset.closeBase outcomes).1 else reset

end Focus

inductive Operation where
  | openWrapper (isPinned : Bool) (pinPath : Bytes)
  | pin (pinPath : Bytes)
  | unpin
  | close
  | setCallback (sampleCb : Bool)
  | setCallbacks (sampleCb lostCb : Bool)
  | eventBufferCreate
  deriving DecidableEq, Repr

/-- The operations which a class has. -/
def Operation.offered : Operation → Derived → Bool
  | .setCallback _, .ringBuffer .. => true
  | .setCallback _, _ => false
  | .setCallbacks _ _, .perfBuffer .. => true
  | .setCallbacks _ _, _ => false
  | .eventBufferCreate, derived => derived.hasEvents
  | _, _ => true

def Focus.setCallbacks (focus : Focus) (sampleCb lostCb : Bool) : Focus :=
  { focus with
    wrapper :=
      { focus.wrapper with
        derived := focus.wrapper.derived.setCallbacks sampleCb lostCb } }

def Focus.perform (focus : Focus) (outcomes : Outcomes) :
    Operation → Focus × BpfControlErrorCode
  | .openWrapper isPinned pinPath =>
      focus.openWrapper isPinned pinPath outcomes
  | .pin pinPath => focus.pin pinPath outcomes
  | .unpin => focus.unpin outcomes
  | .close => focus.close outcomes
  | .setCallback sampleCb => (focus.setCallbacks sampleCb false, .noError)
  | .setCallbacks sampleCb lostCb =>
      (focus.setCallbacks sampleCb lostCb, .noError)
  | .eventBufferCreate => focus.eventBufferCreate outcomes

/-- The wrappers which exist, by the place they are stored in. -/
structure Collection where
  kernel : Kernel
  objects : Nat → Option Wrapper

inductive CollectionStep where
  | construct (place : Nat) (derived : Derived) (name : Bytes)
  | perform (place : Nat) (operation : Operation) (outcomes : Outcomes)
  | moveConstruct (target source : Nat) (residue : Residue)
  | moveAssign (target source : Nat) (residue : Residue)
      (outcomes : Outcomes)
  | destroy (place : Nat) (outcomes : Outcomes)
  deriving DecidableEq, Repr

namespace Collection

def put (state : Collection) (place : Nat) (focus : Focus) : Collection where
  kernel := focus.kernel
  objects := Function.update state.objects place (some focus.wrapper)

def store (state : Collection) (place : Nat) (wrapper : Option Wrapper) :
    Collection :=
  { state with objects := Function.update state.objects place wrapper }

def step (state : Collection) : CollectionStep → Option Collection
  | .construct place derived name =>
      if (state.objects place).isNone then
        some (state.store place (some (.construct derived name)))
      else none
  | .perform place operation outcomes =>
      (state.objects place).bind fun wrapper =>
        if operation.offered wrapper.derived then
          some (state.put place
            (Focus.perform ⟨state.kernel, wrapper⟩ outcomes operation).1)
        else none
  | .moveConstruct target source residue =>
      (state.objects source).bind fun other =>
        if (state.objects target).isNone then
          some ((state.store target (some other.moveConstruct)).store source
            (some (other.movedFrom residue)))
        else none
  | .moveAssign target source residue outcomes =>
      (state.objects target).bind fun wrapper =>
        (state.objects source).bind fun other =>
          if !wrapper.derived.sameClass other.derived then none
          -- the base part tests for self-assignment, and a unique pointer
          -- moved to itself keeps its buffer
          else if target = source then some state
          else
            some ((state.put target
              (Focus.moveAssign ⟨state.kernel, wrapper⟩ other
                outcomes)).store source (some (other.movedFrom residue)))
  | .destroy place outcomes =>
      (state.objects place).bind fun wrapper =>
        some ((state.put place
          (Focus.destroy ⟨state.kernel, wrapper⟩ outcomes)).store place none)

/-- No wrapper exists yet, and the pins found in bpffs have distinct paths
and were created by none of the calls to come. -/
structure Initial (state : Collection) : Prop where
  descriptors : state.kernel.descriptors = .empty
  pinCalls : state.kernel.pinCalls = .empty
  buffers : state.kernel.buffers = .empty
  foreign : ∀ pin ∈ state.kernel.pins, pin.creator = none
  paths : (state.kernel.pins.map Pin.path).Nodup
  removals : state.kernel.removals = []
  orphaned : state.kernel.orphaned = []
  objects : ∀ place, state.objects place = none

/-- The steps of a collection with the circumstances they are taken in. -/
inductive Moves (state : Collection) : CollectionStep → Collection → Prop where
  | construct {place : Nat} {derived : Derived} {name : Bytes} :
      state.objects place = none →
      Moves state (.construct place derived name)
        (state.store place (some (.construct derived name)))
  | perform {place : Nat} {operation : Operation} {outcomes : Outcomes}
      {wrapper : Wrapper} :
      state.objects place = some wrapper →
      operation.offered wrapper.derived = true →
      Moves state (.perform place operation outcomes)
        (state.put place
          (Focus.perform ⟨state.kernel, wrapper⟩ outcomes operation).1)
  | moveConstruct {target source : Nat} {residue : Residue}
      {other : Wrapper} :
      state.objects source = some other →
      state.objects target = none →
      Moves state (.moveConstruct target source residue)
        ((state.store target (some other.moveConstruct)).store source
          (some (other.movedFrom residue)))
  | moveSelf {place : Nat} {residue : Residue} {outcomes : Outcomes} :
      Moves state (.moveAssign place place residue outcomes) state
  | moveAssign {target source : Nat} {residue : Residue}
      {outcomes : Outcomes} {wrapper other : Wrapper} :
      target ≠ source →
      state.objects target = some wrapper →
      state.objects source = some other →
      wrapper.derived.sameClass other.derived = true →
      Moves state (.moveAssign target source residue outcomes)
        ((state.put target
          (Focus.moveAssign ⟨state.kernel, wrapper⟩ other outcomes)).store
            source (some (other.movedFrom residue)))
  | destroy {place : Nat} {outcomes : Outcomes} {wrapper : Wrapper} :
      state.objects place = some wrapper →
      Moves state (.destroy place outcomes)
        ((state.put place
          (Focus.destroy ⟨state.kernel, wrapper⟩ outcomes)).store place none)

theorem moves_of_step {state target : Collection} {label : CollectionStep}
    (stepped : state.step label = some target) :
    state.Moves label target := by
  cases label with
  | construct place derived name =>
      simp only [step] at stepped
      split at stepped
      · rename_i vacant
        cases stepped
        exact .construct (Option.isNone_iff_eq_none.mp vacant)
      · cases stepped
  | perform place operation outcomes =>
      obtain ⟨wrapper, found, rest⟩ := Option.bind_eq_some_iff.mp stepped
      split at rest
      · rename_i offered
        cases rest
        exact .perform found offered
      · cases rest
  | moveConstruct place source residue =>
      obtain ⟨other, found, rest⟩ := Option.bind_eq_some_iff.mp stepped
      split at rest
      · rename_i vacant
        cases rest
        exact .moveConstruct found (Option.isNone_iff_eq_none.mp vacant)
      · cases rest
  | moveAssign place source residue outcomes =>
      obtain ⟨wrapper, found, rest⟩ := Option.bind_eq_some_iff.mp stepped
      obtain ⟨other, foundOther, rest⟩ := Option.bind_eq_some_iff.mp rest
      split at rest
      · cases rest
      · rename_i sameClass
        split at rest
        · rename_i same
          cases rest
          subst same
          exact .moveSelf
        · rename_i different
          cases rest
          exact .moveAssign different found foundOther
            (by simpa using sameClass)
  | destroy place outcomes =>
      obtain ⟨wrapper, found, rest⟩ := Option.bind_eq_some_iff.mp stepped
      cases rest
      exact .destroy found

end Collection

def collectionMachine : Machine Collection CollectionStep where
  initial := Collection.Initial
  step := Collection.step

end LibbpfControl.BpfControl
