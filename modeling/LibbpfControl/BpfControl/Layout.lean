import LibbpfControl.BpfControl.Ownership

/-!
# The layout of an open wrapper

The sizes of a wrapper have 64 bits, those of the kernel 32.  Reopening a pin
compares them without loss; creating a map narrows them.  An open wrapper
therefore describes the map behind its descriptor as long as no map is created
from a size which does not fit.
-/

namespace LibbpfControl.BpfControl

namespace Derived

/-- What the size accessors say of a map, compared as integers.  A perf
buffer wrapper says nothing about the size of its array. -/
def Describes : Derived → KernelMap → Prop
  | .map keySize valueSize maxEntries mapType, info =>
      info.keySize.toNat = keySize.toNat ∧
        info.valueSize.toNat = valueSize.toNat ∧
        info.maxEntries.toNat = maxEntries.toNat ∧ info.mapType = mapType
  | .ringBuffer bufSize _ _, info =>
      info.mapType = mapTypeRingbuf ∧ info.maxEntries.toNat = bufSize.toNat
  | .perfBuffer .., _ => True

/-- Every size fits the 32 bits of the kernel. -/
def fits : Derived → Bool
  | .map keySize valueSize maxEntries _ =>
      keySize.toNat < UInt32.size && valueSize.toNat < UInt32.size &&
        maxEntries.toNat < UInt32.size
  | .ringBuffer bufSize _ _ => bufSize.toNat < UInt32.size
  | .perfBuffer .. => true

theorem describes_of_arguments {first second : Derived} {info : KernelMap}
    (same : first.arguments = second.arguments)
    (describes : second.Describes info) : first.Describes info := by
  cases first <;> cases second <;> cases same <;> exact describes

/-- A pinned map is accepted only if it has the requested layout. -/
theorem describes_of_accepts {derived : Derived} {info : KernelMap}
    (accepted : derived.accepts info = true) : derived.Describes info := by
  cases derived with
  | map keySize valueSize maxEntries mapType =>
      simp only [accepts, Focus.mapAccepts, Bool.and_eq_true,
        decide_eq_true_eq] at accepted
      obtain ⟨⟨⟨⟨_, key⟩, value⟩, entries⟩, type⟩ := accepted
      refine ⟨?_, ?_, ?_, type.symm⟩
      · rw [key, UInt32.toNat_toUInt64]
      · rw [value, UInt32.toNat_toUInt64]
      · rw [entries, UInt32.toNat_toUInt64]
  | ringBuffer bufSize =>
      simp only [accepts, Focus.ringBufferAccepts, Bool.and_eq_true,
        decide_eq_true_eq] at accepted
      exact ⟨accepted.1, by rw [accepted.2, UInt32.toNat_toUInt64]⟩
  | perfBuffer => trivial

/-- The layouts which `load_map_info` refuses: another type or size, and for
a plain map also an event buffer of the same layout. -/
def Differs : Derived → KernelMap → Prop
  | .map keySize valueSize maxEntries mapType, info =>
      info.mapType ≠ mapType ∨ info.keySize.toNat ≠ keySize.toNat ∨
        info.valueSize.toNat ≠ valueSize.toNat ∨
        info.maxEntries.toNat ≠ maxEntries.toNat ∨
        info.mapType = mapTypePerfEventArray ∨ info.mapType = mapTypeRingbuf
  | .ringBuffer bufSize _ _, info =>
      info.mapType ≠ mapTypeRingbuf ∨ info.maxEntries.toNat ≠ bufSize.toNat
  | .perfBuffer .., info => info.mapType ≠ mapTypePerfEventArray

theorem widened_eq_iff {size : UInt64} {kept : UInt32} :
    size = kept.toUInt64 ↔ kept.toNat = size.toNat := by
  rw [← UInt64.toNat_inj, UInt32.toNat_toUInt64]
  exact eq_comm

theorem accepts_eq_false_iff {derived : Derived} {info : KernelMap} :
    derived.accepts info = false ↔ derived.Differs info := by
  cases derived with
  | map keySize valueSize maxEntries mapType =>
      simp only [accepts, Focus.mapAccepts, Differs, ← Bool.not_eq_true,
        Bool.and_eq_true, Bool.not_eq_true', decide_eq_true_eq,
        widened_eq_iff]
      grind
  | ringBuffer bufSize =>
      simp only [accepts, Focus.ringBufferAccepts, Differs,
        ← Bool.not_eq_true, Bool.and_eq_true, decide_eq_true_eq,
        widened_eq_iff, not_and_or, ne_eq]
  | perfBuffer =>
      simp only [accepts, Focus.perfBufferAccepts, Differs,
        decide_eq_false_iff_not, ne_eq]

theorem toNat_narrowed {size : UInt64} (fits : size.toNat < UInt32.size) :
    size.toUInt32.toNat = size.toNat := by
  rw [UInt64.toNat_toUInt32]
  exact Nat.mod_eq_of_lt fits

/-- A created map has the requested layout if the sizes fit. -/
theorem describes_requested {derived : Derived} (fitting : derived.fits = true)
    (id : Nat) (name : Bytes) (outcomes : Outcomes) :
    derived.Describes (derived.requested id name outcomes) := by
  cases derived with
  | map keySize valueSize maxEntries mapType =>
      simp only [fits, Bool.and_eq_true, decide_eq_true_eq] at fitting
      obtain ⟨⟨key, value⟩, entries⟩ := fitting
      exact ⟨toNat_narrowed key, toNat_narrowed value, toNat_narrowed entries,
        rfl⟩
  | ringBuffer bufSize =>
      exact ⟨rfl, toNat_narrowed (of_decide_eq_true fitting)⟩
  | perfBuffer => trivial

end Derived

/-- An open wrapper describes the map behind its descriptor. -/
def Wrapper.Agrees (kernel : Kernel) (wrapper : Wrapper) : Prop :=
  wrapper.isOpen = true →
    wrapper.derived.Describes (kernel.mapBehind wrapper.fd.toNat)

theorem Wrapper.agrees_of_closed {kernel : Kernel} {wrapper : Wrapper}
    (closed : wrapper.isOpen = false) : wrapper.Agrees kernel := by
  intro opened
  rw [closed] at opened
  cases opened

theorem Effect.mapBehind_kept {before after : Focus}
    (effect : Effect before after) {descriptor : Nat}
    (obtained : descriptor < before.kernel.descriptors.opened) :
    after.kernel.mapBehind descriptor = before.kernel.mapBehind descriptor ∧
      descriptor < after.kernel.descriptors.opened := by
  cases effect with
  | newDescriptor =>
      exact ⟨Function.update_of_ne (Nat.ne_of_lt obtained) _ _,
        Nat.lt_succ_of_lt obtained⟩
  | _ => exact ⟨rfl, obtained⟩

/-- The map behind a descriptor is the same for ever. -/
theorem mapBehind_of_effects {before after : Focus}
    (chain : Effects before after) {descriptor : Nat}
    (obtained : descriptor < before.kernel.descriptors.opened) :
    after.kernel.mapBehind descriptor = before.kernel.mapBehind descriptor ∧
      descriptor < after.kernel.descriptors.opened := by
  induction chain with
  | refl => exact ⟨rfl, obtained⟩
  | tail _ next induction =>
      obtain ⟨same, still⟩ := induction
      obtain ⟨kept, held⟩ := next.mapBehind_kept still
      exact ⟨kept.trans same, held⟩

namespace Focus

variable {focus : Focus} {outcomes : Outcomes}

theorem opens_agrees {isPinned : Bool} {pinPath : Bytes}
    {result : Focus × BpfControlErrorCode}
    (agrees : focus.wrapper.Agrees focus.kernel)
    (opens : focus.Opens isPinned pinPath outcomes result)
    (fitting : isPinned = false → focus.wrapper.derived.fits = true) :
    result.1.wrapper.Agrees result.1.kernel := by
  cases opens with
  | refused => exact agrees
  | plain => exact Wrapper.agrees_of_closed rfl
  | events => exact Wrapper.agrees_of_closed (setFd_negSucc_isOpen _)
  | rejected => exact Wrapper.agrees_of_closed close_isOpen
  | @reused pin _ _ _ accepted =>
      intro _
      have behind := focus.mapBehind_obtained pin.map
      simp only [behind]
      exact Derived.describes_of_accepts accepted
  | notCreated => exact Wrapper.agrees_of_closed rfl
  | created _ unpinned =>
      intro _
      rw [mapBehind_obtained]
      exact Derived.describes_requested (fitting unpinned) _ _ _

/-- Operations on an open wrapper keep the map behind it. -/
theorem perform_agrees {operation : Operation}
    (offered : operation.offered focus.wrapper.derived = true)
    (sound : focus.wrapper.Sound focus.kernel)
    (held : ∀ descriptor, focus.wrapper.descriptor = some descriptor →
      descriptor < focus.kernel.descriptors.opened)
    (agrees : focus.wrapper.Agrees focus.kernel)
    (fitting : ∀ pinPath, operation = .openWrapper false pinPath →
      focus.wrapper.derived.fits = true) :
    (focus.perform outcomes operation).1.wrapper.Agrees
      (focus.perform outcomes operation).1.kernel := by
  cases writes : operation.writesFd with
  | false =>
      intro opened
      have sameFd : (focus.perform outcomes operation).1.wrapper.fd =
          focus.wrapper.fd :=
        perform_fd writes
      have wasOpen : focus.wrapper.isOpen = true := by
        unfold Wrapper.isOpen at opened ⊢
        rwa [sameFd] at opened
      have obtained := held _ (Wrapper.descriptor_of_isOpen wasOpen)
      have chain : Effects focus (focus.perform outcomes operation).1 :=
        perform_effects sound operation offered
      rw [sameFd, (mapBehind_of_effects chain obtained).1]
      exact Derived.describes_of_arguments (perform_arguments operation)
        (agrees wasOpen)
  | true =>
      cases operation with
      | openWrapper isPinned pinPath =>
          refine opens_agrees agrees (opens_openWrapper isPinned) ?_
          intro unpinned
          subst unpinned
          exact fitting pinPath rfl
      | close => exact Wrapper.agrees_of_closed close_isOpen
      | _ => cases writes

end Focus

namespace Collection

variable {state target : Collection}

theorem mapBehind_of_moves {label : CollectionStep} (secure : state.Secure)
    (moves : state.Moves label target) {descriptor : Nat}
    (obtained : descriptor < state.kernel.descriptors.opened) :
    target.kernel.mapBehind descriptor =
      state.kernel.mapBehind descriptor := by
  cases moves with
  | construct => rfl
  | @perform _ operation outcomes wrapper found offered =>
      have chain : Effects ⟨state.kernel, wrapper⟩
          (Focus.perform ⟨state.kernel, wrapper⟩ outcomes operation).1 :=
        Focus.perform_effects (secure.sound _ _ found) _ offered
      exact (mapBehind_of_effects chain obtained).1
  | moveConstruct => rfl
  | moveSelf => rfl
  | @moveAssign _ _ _ outcomes wrapper =>
      have chain : Effects ⟨state.kernel, wrapper⟩
          (Focus.closeOpen ⟨state.kernel, wrapper⟩ outcomes) :=
        Focus.closeOpen_effects outcomes
      exact (mapBehind_of_effects chain obtained).1
  | @destroy _ outcomes wrapper =>
      have chain : Effects ⟨state.kernel, wrapper⟩
          (Focus.destroy ⟨state.kernel, wrapper⟩ outcomes) :=
        Focus.destroy_effects outcomes
      exact (mapBehind_of_effects chain obtained).1

/-- The descriptor of an open wrapper was obtained. -/
theorem Secure.obtained (secure : state.Secure) {place descriptor : Nat}
    {wrapper : Wrapper} (found : state.objects place = some wrapper)
    (holds : wrapper.descriptor = some descriptor) :
    descriptor < state.kernel.descriptors.opened :=
  (secure.descriptors.held place descriptor
    ((holding_of_object _ found).trans holds)).1

/-- Every open wrapper describes the map behind its descriptor. -/
def LayoutsAgree (state : Collection) : Prop :=
  ∀ place wrapper, state.objects place = some wrapper →
    wrapper.Agrees state.kernel

/-- A map is created only from sizes which fit. -/
def createsFitting (state : Collection) : CollectionStep → Bool
  | .perform place (.openWrapper false _) _ =>
      (state.objects place).all fun wrapper => wrapper.derived.fits
  | _ => true

/-- A wrapper which is only kept or moved. -/
theorem agrees_of_found {label : CollectionStep} (secure : state.Secure)
    (layouts : state.LayoutsAgree) (moves : state.Moves label target)
    {place : Nat} {wrapper : Wrapper}
    (found : state.objects place = some wrapper) :
    wrapper.Agrees target.kernel := by
  intro opened
  rw [mapBehind_of_moves secure moves
    (secure.obtained found (Wrapper.descriptor_of_isOpen opened))]
  exact layouts place wrapper found opened

theorem layoutsAgree_of_moves {label : CollectionStep}
    (secure : state.Secure) (layouts : state.LayoutsAgree)
    (fitting : state.createsFitting label = true)
    (moves : state.Moves label target) : target.LayoutsAgree := by
  intro place wrapper found
  cases origin_of_moves moves found with
  | kept before => exact agrees_of_found secure layouts moves before
  | constructed => exact Wrapper.agrees_of_closed rfl
  | performed before offered sameKernel =>
      rw [sameKernel]
      refine Focus.perform_agrees offered (secure.sound _ _ before)
        (fun _ => secure.obtained before) (layouts _ _ before) ?_
      intro pinPath creates
      subst creates
      simpa [createsFitting, before] using fitting
  | moved before => exact agrees_of_found secure layouts moves before
  | left => exact Wrapper.agrees_of_closed rfl

end Collection

/-- In every run which creates maps only from sizes which fit, the layout of
an open wrapper is the one of the map behind its descriptor. -/
theorem open_layout {state : Collection}
    (reached : collectionMachine.ReachableWhere
      (fun state label => state.createsFitting label = true) state) :
    state.LayoutsAgree := by
  refine reached.invariant_with
    (fun _ before => Collection.secure_reachable before.reachable) ?_ ?_
  · intro start begins place wrapper found
    rw [begins.objects place] at found
    cases found
  · intro state label target secure layouts fitting stepped
    exact Collection.layoutsAgree_of_moves secure layouts fitting
      (Collection.moves_of_step stepped)

/-- A map is created and pinned.  A wrapper which asks for keys of
2 ^ 32 + 4 bytes is refused the pin, one which asks for the same layout gets
it and is moved. -/
def reopenedSteps : List CollectionStep :=
  [.construct 0 (.map 4 8 16 1) [109], .perform 0 (.openWrapper false []) {},
    .perform 0 (.pin [112]) {}, .construct 1 (.map 4294967300 8 16 1) [109],
    .perform 1 (.openWrapper true [112]) {},
    .construct 2 (.map 4 8 16 1) [109],
    .perform 2 (.openWrapper true [112]) {}, .moveAssign 1 2 {} {}]

theorem reopenedSteps_enabled :
    (collectionMachine.runWhere
      (fun state label => state.createsFitting label = true) emptyCollection
      reopenedSteps).isSome = true := by
  decide

def reopenedCollection : Collection :=
  collectionMachine.finishWhere _ emptyCollection reopenedSteps
    reopenedSteps_enabled

theorem open_layout_reopened :
    reopenedCollection.LayoutsAgree ∧
      (reopenedCollection.objects 1).map Wrapper.isOpen = some true :=
  ⟨open_layout (Machine.ReachableWhere.finishWhere
    (fun _ _ allowed => allowed) (.initial emptyCollection_initial)
    reopenedSteps_enabled), by decide⟩

/-- A map is created with keys of 2 ^ 32 + 4 bytes. -/
def wideKeySteps : List CollectionStep :=
  [.construct 0 (.map 4294967300 8 16 1) [109],
    .perform 0 (.openWrapper false []) {}]

theorem wideKeySteps_enabled :
    (collectionMachine.runWhere (fun _ _ => True) emptyCollection
      wideKeySteps).isSome = true := by
  decide

def wideKeyCollection : Collection :=
  collectionMachine.finish emptyCollection wideKeySteps wideKeySteps_enabled

/-- The wrapper is open and says 2 ^ 32 + 4, the keys of the map have four
bytes. -/
theorem created_layout_narrowed :
    collectionMachine.Reachable wideKeyCollection ∧
      (wideKeyCollection.objects 0).map (fun wrapper =>
        (wrapper.isOpen, wrapper.derived,
          (wideKeyCollection.kernel.mapBehind wrapper.fd.toNat).keySize)) =
        some (true, .map 4294967300 8 16 1, 4) ∧
      ¬wideKeyCollection.LayoutsAgree := by
  refine ⟨Machine.reachable_finish emptyCollection_initial
    wideKeySteps_enabled, by decide, ?_⟩
  intro layouts
  have found : wideKeyCollection.objects 0 =
      some { Wrapper.construct (.map 4294967300 8 16 1) [109] with fd := 0 } :=
    by decide
  have sizes := (layouts 0 _ found rfl).1
  exact absurd sizes (by decide)

end LibbpfControl.BpfControl
