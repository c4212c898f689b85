import LibbpfControl.BpfControl.Operations

/-!
# Ownership of descriptors, pins and event buffers

Every operation of a wrapper is a sequence of a few elementary effects: a
descriptor is obtained or closed, a pin is created, removed or given up, a
buffer is made or freed.  What a collection of wrappers owns is kept by each
effect, hence by each operation; a move hands everything the source holds to
a target which holds nothing.
-/

namespace LibbpfControl.BpfControl

inductive Effect : Focus → Focus → Prop where
  | adjust {focus : Focus} {wrapper : Wrapper} :
      wrapper.descriptor = focus.wrapper.descriptor →
      wrapper.buffer = focus.wrapper.buffer →
      wrapper.pinCall = focus.wrapper.pinCall →
      wrapper.isPinOwner = focus.wrapper.isPinOwner →
      (focus.wrapper.isPinOwner = true →
        wrapper.pinPath = focus.wrapper.pinPath) →
      Effect focus { focus with wrapper := wrapper }
  | newDescriptor {focus : Focus} {map : KernelMap} :
      focus.wrapper.isOpen = false →
      Effect focus
        { kernel := focus.kernel.newDescriptor map
          wrapper :=
            { focus.wrapper with fd := focus.kernel.descriptors.fresh } }
  | closeDescriptor {focus : Focus} :
      focus.wrapper.isOpen = true →
      focus.wrapper.buffer = none →
      focus.wrapper.pinCall = none →
      Effect focus
        { kernel := focus.kernel.closeDescriptor focus.wrapper.fd.toNat
          wrapper := { focus.wrapper with fd := -1 } }
  | pin {focus : Focus} {path : Bytes} :
      focus.wrapper.isOpen = true →
      focus.wrapper.isPinOwner = false →
      focus.kernel.pinAt path = none →
      Effect focus
        { kernel := focus.kernel.objPin focus.wrapper.fd.toNat path
          wrapper :=
            { focus.wrapper with
              pinPath := path
              isPinOwner := true
              pinCall := some focus.kernel.pinCalls.fresh } }
  | dropPin {focus : Focus} : Effect focus focus.dropPin
  | remove {focus : Focus} :
      focus.wrapper.isPinOwner = true →
      Effect focus
        ({ focus with
          kernel := focus.kernel.remove focus.wrapper.pinPath
            focus.wrapper.pinCall } : Focus).dropPin
  | newBuffer {focus : Focus} :
      focus.wrapper.isOpen = true →
      focus.wrapper.derived.hasEvents = true →
      focus.wrapper.buffer = none →
      Effect focus
        { kernel := focus.kernel.newBuffer focus.wrapper.fd.toNat
          wrapper :=
            { focus.wrapper with
              derived := focus.wrapper.derived.withBuffer
                (some focus.kernel.buffers.fresh) } }
  | resetBuffer {focus : Focus} : Effect focus focus.resetBuffer

abbrev Effects : Focus → Focus → Prop :=
  Relation.ReflTransGen Effect

namespace Wrapper

theorem descriptor_of_isOpen {wrapper : Wrapper}
    (opened : wrapper.isOpen = true) :
    wrapper.descriptor = some wrapper.fd.toNat := by
  simp [descriptor, opened]

theorem isOpen_of_descriptor {wrapper : Wrapper} {held : Nat}
    (holding : wrapper.descriptor = some held) : wrapper.isOpen = true := by
  unfold descriptor at holding
  split at holding
  · assumption
  · cases holding

theorem descriptor_of_closed {wrapper : Wrapper}
    (closed : wrapper.isOpen = false) : wrapper.descriptor = none := by
  simp [descriptor, closed]

/-- What a wrapper says about itself is true of the system. -/
structure Sound (kernel : Kernel) (wrapper : Wrapper) : Prop where
  owner : wrapper.isPinOwner = wrapper.pinCall.isSome
  pinned : ∀ call, wrapper.pinCall = some call → wrapper.isOpen = true ∧
    ∃ pin ∈ kernel.pins,
      pin.path = cString wrapper.pinPath ∧ pin.creator = some call
  buffered : ∀ buffer, wrapper.buffer = some buffer →
    wrapper.descriptor = some (kernel.builtFrom buffer)

variable {kernel : Kernel} {wrapper : Wrapper}

theorem Sound.pinCall_of_unowned (sound : wrapper.Sound kernel)
    (unowned : wrapper.isPinOwner = false) : wrapper.pinCall = none := by
  rw [sound.owner] at unowned
  exact Option.isSome_eq_false_iff.mp unowned |> Option.isNone_iff_eq_none.mp

/-- A closed wrapper: it holds nothing and promises nothing. -/
structure Vacant (wrapper : Wrapper) : Prop where
  closed : wrapper.isOpen = false
  noBuffer : wrapper.buffer = none
  noCall : wrapper.pinCall = none
  unowned : wrapper.isPinOwner = false

theorem Sound.vacant (sound : wrapper.Sound kernel)
    (closed : wrapper.isOpen = false) : wrapper.Vacant := by
  have noCall : wrapper.pinCall = none := by
    apply Option.eq_none_iff_forall_ne_some.mpr
    intro call isOwner
    exact absurd (sound.pinned call isOwner).1 (by simp [closed])
  refine ⟨closed, ?_, noCall, ?_⟩
  · apply Option.eq_none_iff_forall_ne_some.mpr
    intro buffer holding
    have opened := isOpen_of_descriptor (sound.buffered buffer holding)
    exact absurd opened (by simp [closed])
  · rw [sound.owner, noCall]
    rfl

theorem sound_of_unused (unowned : wrapper.isPinOwner = false)
    (noCall : wrapper.pinCall = none) (noBuffer : wrapper.buffer = none) :
    wrapper.Sound kernel where
  owner := by rw [unowned, noCall]; rfl
  pinned := by simp [noCall]
  buffered := by simp [noBuffer]

theorem Vacant.sound (vacant : wrapper.Vacant) : wrapper.Sound kernel :=
  sound_of_unused vacant.unowned vacant.noCall vacant.noBuffer

theorem construct_vacant (derived : Derived) (name : Bytes) :
    (construct derived name).Vacant :=
  ⟨rfl, Derived.buffer_withBuffer_none _, rfl, rfl⟩

theorem movedFrom_vacant (residue : Residue) :
    (wrapper.movedFrom residue).Vacant :=
  ⟨rfl, Derived.buffer_withBuffer_none _, rfl, rfl⟩

end Wrapper

namespace Focus

variable {focus : Focus} {outcomes : Outcomes}

theorem setFd_effect {fd : Int} (closed : focus.wrapper.isOpen = false)
    (negative : fd < 0) : Effect focus (focus.setFd fd) := by
  have stillClosed : ({ focus.wrapper with fd := fd } : Wrapper).isOpen =
      false := by
    simp [Wrapper.isOpen, negative]
  refine .adjust ?_ rfl rfl rfl fun _ => rfl
  rw [Wrapper.descriptor_of_closed closed,
    Wrapper.descriptor_of_closed stillClosed]

theorem pin_effects (pinPath : Bytes) :
    Effects focus (focus.pin pinPath outcomes).1 := by
  unfold pin
  split
  · exact .refl
  · rename_i opened
    split
    · exact .refl
    · rename_i unowned
      split
      · exact .refl
      · rename_i absent
        split
        · exact .refl
        · rename_i answered
          split
          · exact .refl
          · refine .single (.pin (by simpa using opened)
              (by simpa using unowned) ?_)
            simpa [Kernel.pathExists, answered] using absent

/-- The base class closes the descriptor under no buffer; the ownership of
the pin ends in the same operation. -/
theorem closeBase_effects (noBuffer : focus.wrapper.buffer = none) :
    Effects focus (focus.closeBase outcomes).1 := by
  unfold closeBase
  split
  · exact .refl
  · rename_i opened
    have isOpen : focus.wrapper.isOpen = true := by simpa using opened
    exact .tail (.single .dropPin) (.closeDescriptor isOpen noBuffer rfl)

theorem close_effects : Effects focus (focus.close outcomes).1 := by
  have resetFirst :
      Effects focus (focus.resetBuffer.closeBase outcomes).1 :=
    .head .resetBuffer (closeBase_effects resetBuffer_buffer)
  unfold close
  split
  · rename_i plain
    apply closeBase_effects
    simp [Wrapper.buffer, plain, Derived.buffer]
  · exact resetFirst
  · exact resetFirst

theorem closeOpen_effects (outcomes : Outcomes) :
    Effects focus (focus.closeOpen outcomes) := by
  unfold closeOpen
  split
  · exact close_effects
  · exact .refl

theorem destroy_effects (outcomes : Outcomes) :
    Effects focus (focus.destroy outcomes) := by
  unfold destroy
  simp only
  split
  · exact .head .resetBuffer (closeBase_effects resetBuffer_buffer)
  · exact .single .resetBuffer

theorem unpin_effects : Effects focus (focus.unpin outcomes).1 := by
  unfold unpin
  split
  · exact .refl
  · split
    · exact .refl
    · rename_i owner
      have isOwner : focus.wrapper.isPinOwner = true := by
        simpa using owner
      split
      · split
        · exact .single (.adjust rfl rfl rfl isOwner.symm fun _ => rfl)
        · exact .single (.remove isOwner)
      · split
        · exact .single .dropPin
        · exact .single .dropPin

/-- Every way an `open` can end. -/
theorem opens_effects {isPinned : Bool} {pinPath : Bytes}
    {result : Focus × BpfControlErrorCode}
    (unowned : focus.wrapper.isOpen = false →
      focus.wrapper.isPinOwner = false)
    (opens : focus.Opens isPinned pinPath outcomes result) :
    Effects focus result.1 := by
  cases opens with
  | refused => exact .refl
  | plain _ closed => exact .single (setFd_effect closed (by decide))
  | events _ closed =>
      exact .single (setFd_effect closed (Int.negSucc_lt_zero _))
  | rejected _ _ closed =>
      exact .head (.newDescriptor closed) close_effects
  | reused closed =>
      refine .tail (.single (.newDescriptor closed))
        (.adjust rfl rfl rfl rfl fun owner => ?_)
      have isOwner : focus.wrapper.isPinOwner = true := owner
      rw [unowned closed] at isOwner
      cases isOwner
  | notCreated _ closed => exact .single (setFd_effect closed (by decide))
  | created closed => exact .single (.newDescriptor closed)

/-- Making the new buffer before the old one is freed has the result of
freeing the old one first. -/
theorem replaceBuffer_eq (focus : Focus) :
    focus.replaceBuffer false =
      { kernel :=
          focus.resetBuffer.kernel.newBuffer
            focus.resetBuffer.wrapper.fd.toNat
        wrapper :=
          { focus.resetBuffer.wrapper with
            derived := focus.resetBuffer.wrapper.derived.withBuffer
              (some focus.resetBuffer.kernel.buffers.fresh) } } := by
  simp [replaceBuffer, resetBuffer, Kernel.newBuffer, Kernel.freeBuffer,
    Ledger.acquire_releaseHeld]

theorem replaceBuffer_effects (opened : focus.wrapper.isOpen = true)
    (events : focus.wrapper.derived.hasEvents = true) (fails : Bool) :
    Effects focus (focus.replaceBuffer fails) := by
  cases fails with
  | true => exact .single .resetBuffer
  | false =>
      rw [replaceBuffer_eq]
      refine .tail (.single .resetBuffer)
        (.newBuffer opened ?_ resetBuffer_buffer)
      exact (Derived.hasEvents_withBuffer _ _).trans events

theorem eventBufferCreate_effects
    (events : focus.wrapper.derived.hasEvents = true) :
    Effects focus (focus.eventBufferCreate outcomes).1 := by
  unfold eventBufferCreate
  split
  · exact .refl
  · rename_i opened
    split
    · exact .refl
    · exact replaceBuffer_effects (by simpa using opened) events _

theorem setCallbacks_effect (sampleCb lostCb : Bool) :
    Effect focus (focus.setCallbacks sampleCb lostCb) :=
  .adjust rfl (Derived.buffer_setCallbacks _ _ _) rfl rfl fun _ => rfl

theorem perform_effects (sound : focus.wrapper.Sound focus.kernel)
    (operation : Operation)
    (offered : operation.offered focus.wrapper.derived = true) :
    Effects focus (focus.perform outcomes operation).1 := by
  cases operation with
  | openWrapper isPinned pinPath =>
      exact opens_effects (fun closed => (sound.vacant closed).unowned)
        (opens_openWrapper isPinned)
  | pin pinPath => exact pin_effects pinPath
  | unpin => exact unpin_effects
  | close => exact close_effects
  | setCallback sampleCb => exact .single (setCallbacks_effect _ _)
  | setCallbacks sampleCb lostCb => exact .single (setCallbacks_effect _ _)
  | eventBufferCreate => exact eventBufferCreate_effects offered

end Focus

@[simp] theorem Wrapper.descriptor_ofNat (wrapper : Wrapper) (number : Nat) :
    ({ wrapper with fd := (number : Int) } : Wrapper).descriptor =
      some number := by
  simp [Wrapper.descriptor, Wrapper.isOpen]

theorem Kernel.builtFrom_newBuffer (kernel : Kernel) (descriptor : Nat) :
    (kernel.newBuffer descriptor).builtFrom kernel.buffers.fresh =
      descriptor :=
  Function.update_self _ _ _

namespace Effect

open Ledger (Turn)

variable {before after : Focus}

theorem descriptors (effect : Effect before after) :
    Turn before.kernel.descriptors before.wrapper.descriptor
      after.kernel.descriptors after.wrapper.descriptor := by
  cases effect with
  | adjust descriptor =>
      rw [descriptor]
      exact .keep
  | newDescriptor closed =>
      rw [Wrapper.descriptor_of_closed closed]
      simp only [Wrapper.descriptor_ofNat]
      exact .acquire
  | closeDescriptor opened =>
      rw [Wrapper.descriptor_of_isOpen opened]
      exact .release
  | pin => exact .keep
  | dropPin => exact .keep
  | remove => exact .keep
  | newBuffer => exact .keep
  | resetBuffer => exact .keep

theorem buffers (effect : Effect before after) :
    Turn before.kernel.buffers before.wrapper.buffer
      after.kernel.buffers after.wrapper.buffer := by
  cases effect with
  | adjust _ buffer =>
      rw [buffer]
      exact .keep
  | newDescriptor => exact .keep
  | closeDescriptor => exact .keep
  | pin => exact .keep
  | dropPin => exact .keep
  | remove => exact .keep
  | newBuffer _ events noBuffer =>
      rw [noBuffer, Wrapper.buffer, Derived.buffer_withBuffer events]
      exact .acquire
  | resetBuffer =>
      rw [Focus.resetBuffer_buffer]
      exact Ledger.turn_releaseHeld _ _

theorem pinCalls (effect : Effect before after)
    (sound : before.wrapper.Sound before.kernel) :
    Turn before.kernel.pinCalls before.wrapper.pinCall
      after.kernel.pinCalls after.wrapper.pinCall := by
  cases effect with
  | adjust _ _ pinCall =>
      rw [pinCall]
      exact .keep
  | newDescriptor => exact .keep
  | closeDescriptor => exact .keep
  | pin _ unowned =>
      rw [sound.pinCall_of_unowned unowned]
      exact .acquire
  | dropPin => exact Ledger.turn_releaseHeld _ _
  | remove => exact Ledger.turn_releaseHeld _ _
  | newBuffer => exact .keep
  | resetBuffer => exact .keep

/-- Only a pin owner removes a pin, and only the one it names. -/
theorem pins_kept (effect : Effect before after) {pin : Pin}
    (member : pin ∈ before.kernel.pins) :
    pin ∈ after.kernel.pins ∨ before.wrapper.isPinOwner = true ∧
      pin.path = cString before.wrapper.pinPath := by
  cases effect with
  | pin => exact .inl (List.mem_cons_of_mem _ member)
  | remove owner =>
      by_cases named : pin.path = cString before.wrapper.pinPath
      · exact .inr ⟨owner, named⟩
      · exact .inl (List.mem_filter.mpr ⟨member, by simpa using named⟩)
  | _ => exact .inl member

theorem builtFrom_kept (effect : Effect before after) {buffer : Nat}
    (made : buffer < before.kernel.buffers.opened) :
    after.kernel.builtFrom buffer = before.kernel.builtFrom buffer := by
  cases effect with
  | newBuffer => exact Function.update_of_ne (Nat.ne_of_lt made) _ _
  | _ => rfl

theorem paths (effect : Effect before after)
    (distinct : (before.kernel.pins.map Pin.path).Nodup) :
    (after.kernel.pins.map Pin.path).Nodup := by
  cases effect with
  | pin _ _ absent =>
      refine List.nodup_cons.mpr ⟨fun present => ?_, distinct⟩
      obtain ⟨pin, member, same⟩ := List.mem_map.mp present
      have different := List.find?_eq_none.mp absent pin member
      exact different (by simpa using same)
  | remove => exact distinct.sublist (List.filter_sublist.map Pin.path)
  | _ => exact distinct

theorem sound (effect : Effect before after)
    (sound : before.wrapper.Sound before.kernel) :
    after.wrapper.Sound after.kernel := by
  cases effect with
  | adjust descriptor buffer pinCall owner path =>
      refine ⟨?_, fun call held => ?_, fun held holding => ?_⟩
      · rw [owner, pinCall]
        exact sound.owner
      · rw [pinCall] at held
        obtain ⟨opened, pin, member, named, created⟩ :=
          sound.pinned call held
        have isOwner : before.wrapper.isPinOwner = true := by
          rw [sound.owner, held]
          rfl
        refine ⟨?_, pin, member, ?_, created⟩
        · exact Wrapper.isOpen_of_descriptor
            (descriptor.trans (Wrapper.descriptor_of_isOpen opened))
        · rw [path isOwner]
          exact named
      · exact descriptor.trans
          (sound.buffered held (buffer.symm.trans holding))
  | newDescriptor closed =>
      have vacant := sound.vacant closed
      exact Wrapper.sound_of_unused vacant.unowned vacant.noCall
        vacant.noBuffer
  | closeDescriptor _ noBuffer noCall =>
      refine Wrapper.sound_of_unused ?_ noCall noBuffer
      exact sound.owner.trans (by rw [noCall]; rfl)
  | pin opened _ _ =>
      refine ⟨rfl, fun call held => ⟨opened, ?_⟩, sound.buffered⟩
      exact ⟨_, List.mem_cons_self, rfl, held⟩
  | dropPin => exact ⟨rfl, by simp [Focus.dropPin], sound.buffered⟩
  | remove => exact ⟨rfl, by simp [Focus.dropPin], sound.buffered⟩
  | newBuffer opened events _ =>
      refine ⟨sound.owner, sound.pinned, fun buffer holding => ?_⟩
      rw [Wrapper.buffer, Derived.buffer_withBuffer events] at holding
      cases holding
      refine (Wrapper.descriptor_of_isOpen opened).trans ?_
      simp only [Kernel.builtFrom_newBuffer]
  | resetBuffer =>
      refine ⟨sound.owner, sound.pinned, fun buffer holding => ?_⟩
      rw [Focus.resetBuffer_buffer] at holding
      cases holding

end Effect

/-- A wrapper relies on its own pin and on the origin of its own buffer. -/
theorem Wrapper.Sound.frame {kernel later : Kernel} {wrapper : Wrapper}
    (sound : wrapper.Sound kernel)
    (pins : ∀ call pin, wrapper.pinCall = some call → pin ∈ kernel.pins →
      pin.creator = some call → pin ∈ later.pins)
    (built : ∀ buffer, wrapper.buffer = some buffer →
      later.builtFrom buffer = kernel.builtFrom buffer) :
    wrapper.Sound later where
  owner := sound.owner
  pinned := by
    intro call held
    obtain ⟨opened, pin, member, named, created⟩ := sound.pinned call held
    exact ⟨opened, pin, pins call pin held member created, named, created⟩
  buffered := by
    intro buffer holding
    rw [built buffer holding]
    exact sound.buffered buffer holding

namespace Collection

/-- What the wrapper at a place holds, if there is one. -/
def holding (state : Collection) (field : Wrapper → Option Nat)
    (place : Nat) : Option Nat :=
  (state.objects place).bind field

structure Secure (state : Collection) : Prop where
  descriptors : state.kernel.descriptors.OwnedBy
    (state.holding Wrapper.descriptor)
  buffers : state.kernel.buffers.OwnedBy (state.holding Wrapper.buffer)
  pinCalls : state.kernel.pinCalls.OwnedBy (state.holding Wrapper.pinCall)
  sound : ∀ place wrapper, state.objects place = some wrapper →
    wrapper.Sound state.kernel
  paths : (state.kernel.pins.map Pin.path).Nodup
  orphaned : state.kernel.orphaned = []
  removals : ∀ removal ∈ state.kernel.removals,
    removal.creator.isSome = true ∧ removal.creator = removal.owner

variable {state : Collection} {place : Nat}

theorem holding_of_object {wrapper : Wrapper} (field : Wrapper → Option Nat)
    (found : state.objects place = some wrapper) :
    state.holding field place = field wrapper := by
  simp [holding, found]

theorem object_of_holding {field : Wrapper → Option Nat} {held : Nat}
    (holds : state.holding field place = some held) :
    ∃ wrapper, state.objects place = some wrapper ∧
      field wrapper = some held :=
  Option.bind_eq_some_iff.mp holds

@[simp] theorem holding_store (wrapper : Option Wrapper)
    (field : Wrapper → Option Nat) :
    (state.store place wrapper).holding field =
      Function.update (state.holding field) place (wrapper.bind field) := by
  funext other
  by_cases same : other = place
  · subst same
    simp [holding, store]
  · simp [holding, store, same]

@[simp] theorem holding_put (focus : Focus) (field : Wrapper → Option Nat) :
    (state.put place focus).holding field =
      Function.update (state.holding field) place (field focus.wrapper) :=
  holding_store (some focus.wrapper) field

theorem objects_put (focus : Focus) :
    (state.put place focus).objects place = some focus.wrapper :=
  Function.update_self _ _ _

theorem put_self {wrapper : Wrapper}
    (found : state.objects place = some wrapper) :
    state.put place ⟨state.kernel, wrapper⟩ = state := by
  simp [put, ← found]

namespace Secure

/-- A descriptor held by a wrapper without a buffer is under no buffer at
all. -/
theorem buffersOver_nil (secure : state.Secure) {wrapper : Wrapper}
    {descriptor : Nat} (found : state.objects place = some wrapper)
    (holds : wrapper.descriptor = some descriptor)
    (noBuffer : wrapper.buffer = none) :
    state.kernel.buffersOver descriptor = [] := by
  apply List.filter_eq_nil_iff.mpr
  intro buffer made live
  obtain ⟨unfreed, builtHere⟩ := of_decide_eq_true live
  obtain ⟨other, held⟩ :=
    secure.buffers.covered buffer (List.mem_range.mp made) unfreed
  obtain ⟨holder, foundHolder, holderBuffer⟩ := object_of_holding held
  have holderDescriptor :=
    (secure.sound other holder foundHolder).buffered buffer holderBuffer
  rw [builtHere] at holderDescriptor
  have samePlace : other = place := secure.descriptors.unique other place
    descriptor ((holding_of_object _ foundHolder).trans holderDescriptor)
    ((holding_of_object _ found).trans holds)
  subst samePlace
  have sameWrapper := Option.some.inj (foundHolder.symm.trans found)
  rw [sameWrapper, noBuffer] at holderBuffer
  cases holderBuffer

/-- The entry at the path of a pin owner is the one its `pin()` created. -/
theorem creator_of_owner (secure : state.Secure) {wrapper : Wrapper}
    (found : state.objects place = some wrapper)
    (owner : wrapper.isPinOwner = true) {pin : Pin}
    (member : pin ∈ state.kernel.pins)
    (named : pin.path = cString wrapper.pinPath) :
    ∃ call, wrapper.pinCall = some call ∧ pin.creator = some call := by
  have sound := secure.sound place wrapper found
  obtain ⟨call, held⟩ := Option.isSome_iff_exists.mp
    (sound.owner.symm.trans owner)
  obtain ⟨_, own, ownMember, ownNamed, created⟩ := sound.pinned call held
  have same : pin = own := List.inj_on_of_nodup_map secure.paths member
    ownMember (named.trans ownNamed.symm)
  exact ⟨call, held, by rw [same]; exact created⟩

section Effects

variable {before after : Focus}

theorem ownedBy_put {field : Wrapper → Option Nat} {ledger later : Ledger}
    (owned : ledger.OwnedBy ((state.put place before).holding field))
    (turned : ledger.Turn (field before.wrapper) later
      (field after.wrapper)) :
    later.OwnedBy ((state.put place after).holding field) := by
  have held : (state.put place before).holding field place =
      field before.wrapper :=
    holding_of_object field (objects_put before)
  rw [← held] at turned
  have moved := owned.turn turned
  rwa [holding_put, Function.update_idem, ← holding_put] at moved

/-- The other wrappers keep their pins and the origins of their buffers. -/
theorem effect_sound (secure : (state.put place before).Secure)
    (effect : Effect before after) (other : Nat) (wrapper : Wrapper)
    (found : (state.put place after).objects other = some wrapper) :
    wrapper.Sound after.kernel := by
  have own := secure.sound place before.wrapper (objects_put before)
  by_cases same : other = place
  · subst same
    have isAfter := Option.some.inj ((objects_put after).symm.trans found)
    rw [← isAfter]
    exact effect.sound own
  · have foundBefore : (state.put place before).objects other =
        some wrapper := by
      simpa [put, Function.update_of_ne same] using found
    refine (secure.sound other wrapper foundBefore).frame ?_ ?_
    · intro call pin held member created
      rcases effect.pins_kept member with kept | ⟨owner, named⟩
      · exact kept
      · obtain ⟨ownCall, ownHeld, ownCreated⟩ := secure.creator_of_owner
          (objects_put before) owner member named
        have sameCall : ownCall = call :=
          Option.some.inj (ownCreated.symm.trans created)
        rw [sameCall] at ownHeld
        exact absurd
          (secure.pinCalls.unique other place call
            ((holding_of_object _ foundBefore).trans held)
            ((holding_of_object _ (objects_put before)).trans ownHeld))
          same
    · intro buffer held
      exact effect.builtFrom_kept (secure.buffers.held other buffer
        ((holding_of_object _ foundBefore).trans held)).1

theorem effect_orphaned (secure : (state.put place before).Secure)
    (effect : Effect before after) : after.kernel.orphaned = [] := by
  cases effect with
  | closeDescriptor opened noBuffer noCall =>
      have none : before.kernel.buffersOver before.wrapper.fd.toNat = [] :=
        secure.buffersOver_nil (objects_put before)
          (Wrapper.descriptor_of_isOpen opened) noBuffer
      have earlier : before.kernel.orphaned = [] := secure.orphaned
      simp [Kernel.closeDescriptor, none, earlier]
  | _ => exact secure.orphaned

theorem effect_removals (secure : (state.put place before).Secure)
    (effect : Effect before after) :
    ∀ removal ∈ after.kernel.removals,
      removal.creator.isSome = true ∧ removal.creator = removal.owner := by
  cases effect with
  | remove owner =>
      intro removal member
      rcases List.mem_append.mp member with recent | earlier
      · obtain ⟨pin, removed, rfl⟩ := List.mem_map.mp recent
        obtain ⟨present, named⟩ := List.mem_filter.mp removed
        obtain ⟨call, held, created⟩ := secure.creator_of_owner
          (objects_put before) owner present (of_decide_eq_true named)
        exact ⟨by simp [created], created.trans held.symm⟩
      · exact secure.removals removal earlier
  | _ => exact secure.removals

theorem effect (secure : (state.put place before).Secure)
    (effect : Effect before after) : (state.put place after).Secure where
  descriptors := ownedBy_put secure.descriptors effect.descriptors
  buffers := ownedBy_put secure.buffers effect.buffers
  pinCalls := ownedBy_put secure.pinCalls
    (effect.pinCalls (secure.sound place _ (objects_put before)))
  sound := secure.effect_sound effect
  paths := effect.paths secure.paths
  orphaned := secure.effect_orphaned effect
  removals := secure.effect_removals effect

theorem effects (secure : (state.put place before).Secure)
    (chain : Effects before after) : (state.put place after).Secure := by
  induction chain with
  | refl => exact secure
  | tail _ next induction => exact induction.effect next

end Effects

/-- An empty place, or one whose wrapper is closed. -/
def Free (wrapper : Option Wrapper) : Prop :=
  ∀ present, wrapper = some present → present.Vacant

theorem Free.bind {wrapper : Option Wrapper} (free : Free wrapper)
    {field : Wrapper → Option Nat}
    (blank : ∀ present : Wrapper, present.Vacant → field present = none) :
    wrapper.bind field = none := by
  cases wrapper with
  | none => rfl
  | some present => exact blank present (free present rfl)

theorem free_none : Free none :=
  fun _ absent => absurd absent (by simp)

/-- Closed wrappers come and go without any effect on what is owned. -/
theorem store_free (secure : state.Secure) {wrapper : Option Wrapper}
    (old : Free (state.objects place)) (new : Free wrapper) :
    (state.store place wrapper).Secure := by
  have unchanged : ∀ field : Wrapper → Option Nat,
      (∀ present : Wrapper, present.Vacant → field present = none) →
      (state.store place wrapper).holding field = state.holding field := by
    intro field blank
    have before : state.holding field place = none := old.bind blank
    rw [holding_store, new.bind blank, ← before, Function.update_eq_self]
  refine ⟨?_, ?_, ?_, ?_, secure.paths, secure.orphaned, secure.removals⟩
  · rw [unchanged _ fun _ vacant =>
      Wrapper.descriptor_of_closed vacant.closed]
    exact secure.descriptors
  · rw [unchanged _ fun _ vacant => vacant.noBuffer]
    exact secure.buffers
  · rw [unchanged _ fun _ vacant => vacant.noCall]
    exact secure.pinCalls
  · intro other present found
    by_cases same : other = place
    · subst same
      have stored : wrapper = some present := by simpa [store] using found
      exact (new present stored).sound
    · refine secure.sound other present ?_
      simpa [store, Function.update_of_ne same] using found

/-- A move hands over everything the source holds. -/
theorem transfer (secure : state.Secure) {target source : Nat}
    {other : Wrapper} (free : Free (state.objects target))
    (found : state.objects source = some other) (residue : Residue) :
    ((state.store target (some other)).store source
      (some (other.movedFrom residue))).Secure := by
  have left : (other.movedFrom residue).Vacant :=
    Wrapper.movedFrom_vacant residue
  have handedOver : ∀ (field : Wrapper → Option Nat) (ledger : Ledger),
      (∀ present : Wrapper, present.Vacant → field present = none) →
      ledger.OwnedBy (state.holding field) →
      ledger.OwnedBy (((state.store target (some other)).store source
        (some (other.movedFrom residue))).holding field) := by
    intro field ledger blank owned
    rw [holding_store, holding_store, Option.bind_some, Option.bind_some,
      blank _ left, ← holding_of_object field found]
    exact owned.transfer (free.bind blank)
  refine ⟨handedOver _ _ (fun _ vacant =>
      Wrapper.descriptor_of_closed vacant.closed) secure.descriptors,
    handedOver _ _ (fun _ vacant => vacant.noBuffer) secure.buffers,
    handedOver _ _ (fun _ vacant => vacant.noCall) secure.pinCalls,
    ?_, secure.paths, secure.orphaned, secure.removals⟩
  intro place present stored
  by_cases isSource : place = source
  · subst isSource
    have isLeft : other.movedFrom residue = present := by
      simpa [store] using stored
    rw [← isLeft]
    exact left.sound
  · by_cases isTarget : place = target
    · subst isTarget
      have isOther : other = present := by
        simpa [store, Function.update_of_ne isSource] using stored
      rw [← isOther]
      exact secure.sound source other found
    · refine secure.sound place present ?_
      simpa [store, Function.update_of_ne isSource,
        Function.update_of_ne isTarget] using stored

end Secure

end Collection

namespace Focus

variable {focus : Focus} {outcomes : Outcomes}

theorem closeBase_isOpen :
    (focus.closeBase outcomes).1.wrapper.isOpen = false := by
  unfold closeBase
  split
  · rename_i closed
    simpa using closed
  · rfl

theorem close_isOpen : (focus.close outcomes).1.wrapper.isOpen = false := by
  unfold close
  split <;> exact closeBase_isOpen

theorem closeOpen_isOpen :
    (focus.closeOpen outcomes).wrapper.isOpen = false := by
  unfold closeOpen
  split
  · exact close_isOpen
  · rename_i closed
    simpa using closed

theorem destroy_isOpen : (focus.destroy outcomes).wrapper.isOpen = false := by
  unfold destroy
  simp only
  split
  · exact closeBase_isOpen
  · rename_i closed
    simpa using closed

/-- The buffer of the target is gone with its descriptor, so that the
assignment to the unique pointer frees nothing. -/
theorem moveAssign_eq (other : Wrapper)
    (noBuffer : (focus.closeOpen outcomes).wrapper.buffer = none) :
    focus.moveAssign other outcomes =
      ⟨(focus.closeOpen outcomes).kernel, other⟩ := by
  simp [moveAssign, noBuffer, Kernel.freeBuffer, Ledger.releaseHeld]

end Focus

namespace Collection

variable {state target : Collection}

/-- A wrapper whose operation leaves it closed holds nothing afterwards. -/
theorem Secure.free_put {place : Nat} {focus : Focus}
    (secure : (state.put place focus).Secure)
    (closed : focus.wrapper.isOpen = false) :
    Secure.Free ((state.put place focus).objects place) := by
  intro present found
  have isFocus := Option.some.inj ((objects_put focus).symm.trans found)
  rw [← isFocus]
  exact (secure.sound place _ (objects_put focus)).vacant closed

theorem Secure.moveAssign (secure : state.Secure) {place source : Nat}
    {wrapper other : Wrapper} (different : place ≠ source)
    (found : state.objects place = some wrapper)
    (foundOther : state.objects source = some other) (residue : Residue)
    (outcomes : Outcomes) :
    ((state.put place
      (Focus.moveAssign ⟨state.kernel, wrapper⟩ other outcomes)).store source
        (some (other.movedFrom residue))).Secure := by
  have start : (state.put place ⟨state.kernel, wrapper⟩).Secure := by
    rw [put_self found]
    exact secure
  have closed := start.effects (Focus.closeOpen_effects outcomes)
  have free := closed.free_put Focus.closeOpen_isOpen
  have kept : (state.put place
      (Focus.closeOpen ⟨state.kernel, wrapper⟩ outcomes)).objects source =
        some other := by
    simpa [put, Function.update_of_ne (Ne.symm different)] using foundOther
  have moved := closed.transfer free kept residue
  rw [Focus.moveAssign_eq other (free _ (objects_put _)).noBuffer]
  simpa [put, store] using moved

theorem secure_of_moves {label : CollectionStep} (secure : state.Secure)
    (moves : state.Moves label target) : target.Secure := by
  cases moves with
  | construct vacant =>
      refine secure.store_free ?_ ?_
      · rw [vacant]
        exact Secure.free_none
      · intro present stored
        cases stored
        exact Wrapper.construct_vacant _ _
  | perform found offered =>
      rw [← put_self found] at secure
      exact secure.effects (Focus.perform_effects
        (secure.sound _ _ (objects_put _)) _ offered)
  | moveConstruct found vacant =>
      refine secure.transfer ?_ found _
      rw [vacant]
      exact Secure.free_none
  | moveSelf => exact secure
  | moveAssign different found foundOther =>
      exact secure.moveAssign different found foundOther _ _
  | @destroy place outcomes wrapper found =>
      rw [← put_self found] at secure
      have destroyed := secure.effects (Focus.destroy_effects outcomes)
      exact destroyed.store_free (destroyed.free_put Focus.destroy_isOpen)
        Secure.free_none

theorem secure_of_initial (initial : state.Initial) : state.Secure := by
  have nothing : ∀ (field : Wrapper → Option Nat) (place : Nat),
      state.holding field place = none := by
    intro field place
    simp [holding, initial.objects place]
  refine ⟨?_, ?_, ?_, ?_, initial.paths, initial.orphaned, ?_⟩
  · rw [initial.descriptors]
    exact Ledger.ownedBy_empty (nothing _)
  · rw [initial.buffers]
    exact Ledger.ownedBy_empty (nothing _)
  · rw [initial.pinCalls]
    exact Ledger.ownedBy_empty (nothing _)
  · intro place wrapper found
    rw [initial.objects place] at found
    cases found
  · simp [initial.removals]

theorem secure_reachable (reached : collectionMachine.Reachable state) :
    state.Secure :=
  reached.invariant (fun _ initial => secure_of_initial initial)
    fun _ _ _ secure stepped => secure_of_moves secure (moves_of_step stepped)

/-- What the wrappers own, as their users see it. -/
structure Ownership (state : Collection) : Prop where
  /-- Every descriptor obtained is held by one wrapper or was closed once. -/
  descriptors : state.kernel.descriptors.OwnedBy
    (state.holding Wrapper.descriptor)
  /-- The path of a pin owner exists and was created by the `pin()` call
  which made it, or the wrapper it was moved from, the owner. -/
  pinOwner : ∀ place wrapper, state.objects place = some wrapper →
    wrapper.isPinOwner = true → wrapper.isOpen = true ∧
      ∃ call, wrapper.pinCall = some call ∧
        ∃ pin ∈ state.kernel.pins,
          pin.path = cString wrapper.pinPath ∧ pin.creator = some call
  oneOwner : ∀ left right first second,
    state.objects left = some first → state.objects right = some second →
    first.isPinOwner = true → second.isPinOwner = true →
    cString first.pinPath = cString second.pinPath → left = right
  /-- Every buffer made is held by one wrapper or was freed once. -/
  buffers : state.kernel.buffers.OwnedBy (state.holding Wrapper.buffer)
  bufferOrigin : ∀ place wrapper buffer,
    state.objects place = some wrapper → wrapper.buffer = some buffer →
    wrapper.isOpen = true ∧
      wrapper.descriptor = some (state.kernel.builtFrom buffer)
  /-- No descriptor was closed under a buffer built from it. -/
  freedFirst : state.kernel.orphaned = []
  /-- Every removed pin was created by the call its remover owned it by. -/
  removals : ∀ removal ∈ state.kernel.removals,
    removal.creator.isSome = true ∧ removal.creator = removal.owner

/-- Two owners of one path hold the same `pin()` call. -/
theorem Secure.oneOwner (secure : state.Secure) {left right : Nat}
    {first second : Wrapper} (foundFirst : state.objects left = some first)
    (foundSecond : state.objects right = some second)
    (ownsFirst : first.isPinOwner = true)
    (ownsSecond : second.isPinOwner = true)
    (samePath : cString first.pinPath = cString second.pinPath) :
    left = right := by
  have sound := secure.sound left first foundFirst
  obtain ⟨call, held⟩ := Option.isSome_iff_exists.mp
    (sound.owner.symm.trans ownsFirst)
  obtain ⟨_, pin, member, named, created⟩ := sound.pinned call held
  obtain ⟨other, otherHeld, otherCreated⟩ := secure.creator_of_owner
    foundSecond ownsSecond member (named.trans samePath)
  have sameCall : other = call :=
    Option.some.inj (otherCreated.symm.trans created)
  rw [sameCall] at otherHeld
  exact secure.pinCalls.unique left right call
    ((holding_of_object _ foundFirst).trans held)
    ((holding_of_object _ foundSecond).trans otherHeld)

end Collection

theorem wrapper_ownership {state : Collection}
    (reached : collectionMachine.Reachable state) : state.Ownership := by
  have secure := Collection.secure_reachable reached
  refine
    { descriptors := secure.descriptors
      pinOwner := ?_
      oneOwner := ?_
      buffers := secure.buffers
      bufferOrigin := ?_
      freedFirst := secure.orphaned
      removals := secure.removals }
  · intro place wrapper found owner
    have sound := secure.sound place wrapper found
    obtain ⟨call, held⟩ := Option.isSome_iff_exists.mp
      (sound.owner.symm.trans owner)
    obtain ⟨opened, pin⟩ := sound.pinned call held
    exact ⟨opened, call, held, pin⟩
  · intro left right first second foundFirst foundSecond ownsFirst ownsSecond
    exact secure.oneOwner foundFirst foundSecond ownsFirst ownsSecond
  · intro place wrapper buffer found holding
    have origin := (secure.sound place wrapper found).buffered buffer holding
    exact ⟨Wrapper.isOpen_of_descriptor origin, origin⟩

/-- Two ring buffer wrappers share a pin, the owner is moved onto the other
one, and a plain map is refused the pin.  The first removal fails; after the
second the wrapper is moved again and pins its map elsewhere. -/
def tradedPins : List CollectionStep :=
  let ring := Derived.ringBuffer 4096 false none
  [.construct 0 ring [101], .perform 0 (.setCallback true) {},
    .perform 0 (.openWrapper false []) {}, .perform 0 (.pin [112]) {},
    .perform 0 .eventBufferCreate {},
    .perform 0 .eventBufferCreate { bufferFails := true },
    .perform 0 .eventBufferCreate {},
    .construct 1 ring [101], .perform 1 (.setCallback true) {},
    .perform 1 (.openWrapper true [112]) {},
    .perform 1 .eventBufferCreate {}, .perform 1 .unpin {},
    .moveAssign 1 1 {} {}, .moveAssign 1 0 {} { closeFails := true },
    .construct 2 (.map 4 8 16 1) [109],
    .perform 2 (.openWrapper true [112]) {},
    .perform 1 .unpin { removeFails := true }, .perform 1 .unpin {},
    .moveConstruct 3 1 {}, .destroy 1 {}, .perform 3 (.pin [113]) {}]

/-- An empty bpffs and no wrapper. -/
def emptyCollection : Collection where
  kernel :=
    { descriptors := .empty
      mapBehind := fun _ => .create 0 0 [] 0 0 0
      nextMapId := 0
      pins := []
      pinCalls := .empty
      removals := []
      buffers := .empty
      builtFrom := fun _ => 0
      orphaned := [] }
  objects := fun _ => none

theorem emptyCollection_initial : emptyCollection.Initial :=
  ⟨rfl, rfl, rfl, by simp [emptyCollection], List.nodup_nil, rfl, rfl,
    fun _ => rfl⟩

theorem tradedPins_enabled :
    (collectionMachine.runWhere (fun _ _ => True) emptyCollection
      tradedPins).isSome = true := by
  decide

def tradedCollection : Collection :=
  collectionMachine.finish emptyCollection tradedPins tradedPins_enabled

theorem wrapper_ownership_traded :
    tradedCollection.Ownership ∧
      tradedCollection.kernel.descriptors = ⟨3, [2, 1]⟩ ∧
      tradedCollection.kernel.buffers = ⟨3, [2, 0]⟩ ∧
      tradedCollection.kernel.removals = [⟨some 0, some 0⟩] ∧
      (tradedCollection.objects 3).map Wrapper.pinCall = some (some 1) :=
  ⟨wrapper_ownership (Machine.reachable_finish emptyCollection_initial
    tradedPins_enabled), by decide⟩

end LibbpfControl.BpfControl
