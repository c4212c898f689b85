import LibbpfControl.BpfControl.Wrapper

/-!
# What the operations of a wrapper do

The three classes write their `open` separately.  Seen from outside they
differ in three places only: which layout they ask for, which pinned map they
accept, and what they leave in `fd_` when no descriptor is obtained.  One
inversion lemma lists the ways an `open` can end for all of them; what is
known about opening is derived from it.

The other operations are described by what they leave alone: the arguments of
the constructor are never changed, and only `open` and `close` write `fd_`.
-/

namespace LibbpfControl.BpfControl

namespace Derived

/-- The map which the create branch asks for. -/
def requested (derived : Derived) (id : Nat) (name : Bytes)
    (outcomes : Outcomes) : KernelMap :=
  match derived with
  | .map keySize valueSize maxEntries mapType =>
      .create id mapType name keySize.toUInt32 valueSize.toUInt32
        maxEntries.toUInt32
  | .ringBuffer bufSize _ _ =>
      .create id mapTypeRingbuf name 0 0 bufSize.toUInt32
  | .perfBuffer .. =>
      .create id mapTypePerfEventArray name 4 4 outcomes.cpuCount.toUInt32

/-- The comparison of `load_map_info`. -/
def accepts : Derived → KernelMap → Bool
  | .map keySize valueSize maxEntries mapType =>
      Focus.mapAccepts keySize valueSize maxEntries mapType
  | .ringBuffer bufSize _ _ => Focus.ringBufferAccepts bufSize
  | .perfBuffer .. => Focus.perfBufferAccepts

/-- The tests of the create branch before `bpf_map_create`. -/
def creatable (outcomes : Outcomes) : Derived → Bool
  | .map .. => true
  | .ringBuffer bufSize _ _ =>
      !(bufSize ≤ 0 || bufSize &&& (bufSize - 1) ≠ 0)
  | .perfBuffer pageCount _ _ _ =>
      !(outcomes.cpuCount ≤ 0) &&
        !(pageCount ≤ 0 || pageCount &&& (pageCount - 1) ≠ 0)

/-- The arguments of the constructor, without callbacks and buffer. -/
def arguments (derived : Derived) : Derived :=
  (derived.setCallbacks false false).withBuffer none

theorem withBuffer_buffer (derived : Derived) :
    derived.withBuffer derived.buffer = derived := by
  cases derived <;> rfl

@[simp] theorem arguments_withBuffer (derived : Derived)
    (buffer : Option Nat) :
    (derived.withBuffer buffer).arguments = derived.arguments := by
  cases derived <;> rfl

@[simp] theorem arguments_setCallbacks (derived : Derived)
    (sampleCb lostCb : Bool) :
    (derived.setCallbacks sampleCb lostCb).arguments =
      derived.arguments := by
  cases derived <;> rfl

theorem hasEvents_of_arguments {first second : Derived}
    (same : first.arguments = second.arguments) :
    first.hasEvents = second.hasEvents := by
  cases first <;> cases second <;> first | rfl | cases same

end Derived

namespace Focus

/-- A descriptor of `map` is obtained. -/
def obtained (focus : Focus) (map : KernelMap) : Focus where
  kernel := focus.kernel.newDescriptor map
  wrapper := { focus.wrapper with fd := focus.kernel.descriptors.fresh }

variable {focus : Focus} {outcomes : Outcomes} {pinPath : Bytes}

theorem obtained_isOpen (map : KernelMap) :
    (focus.obtained map).wrapper.isOpen = true := by
  simp [obtained, Wrapper.isOpen]

theorem mapBehind_obtained (map : KernelMap) :
    (focus.obtained map).kernel.mapBehind
      (focus.obtained map).wrapper.fd.toNat = map := by
  simp [obtained, Kernel.newDescriptor]

theorem receiveFd_of_success {map : KernelMap}
    (succeeds : outcomes.descriptorFails = none) :
    focus.receiveFd map outcomes = focus.obtained map := by
  simp [receiveFd, succeeds, obtained]

theorem receiveFd_of_failure {map : KernelMap} {code : Nat}
    (fails : outcomes.descriptorFails = some code) :
    focus.receiveFd map outcomes = focus.setFd (Int.negSucc code) := by
  simp [receiveFd, fails]

theorem setFd_negSucc_isOpen (code : Nat) :
    (focus.setFd (Int.negSucc code)).wrapper.isOpen = false := by
  simp [setFd, Wrapper.isOpen]

theorem pinAt_of_pathExists
    (present : focus.kernel.pathExists pinPath outcomes = true) :
    ∃ pin, focus.kernel.pinAt pinPath = some pin := by
  simp only [Kernel.pathExists, Bool.and_eq_true] at present
  exact Option.isSome_iff_exists.mp present.2

theorem objGet_of_pin {pin : Pin}
    (found : focus.kernel.pinAt pinPath = some pin) :
    focus.objGet pinPath outcomes = focus.receiveFd pin.map outcomes := by
  simp [objGet, found]

theorem resetBuffer_buffer : focus.resetBuffer.wrapper.buffer = none :=
  Derived.buffer_withBuffer_none _

/-- What `close` leaves of an open wrapper. -/
def closedWrapper (wrapper : Wrapper) : Wrapper :=
  { wrapper with
    fd := -1
    isPinOwner := false
    pinPath := []
    pinCall := none
    derived := wrapper.derived.withBuffer none }

theorem closeBase_wrapper (opened : focus.wrapper.isOpen = true)
    (noBuffer : focus.wrapper.buffer = none) :
    (focus.closeBase outcomes).1.wrapper = closedWrapper focus.wrapper := by
  have unbuffered : focus.wrapper.derived.withBuffer none =
      focus.wrapper.derived := by
    rw [← noBuffer]
    exact focus.wrapper.derived.withBuffer_buffer
  simp [closeBase, opened, closedWrapper, setFd, dropPin, unbuffered]

theorem close_wrapper (opened : focus.wrapper.isOpen = true) :
    (focus.close outcomes).1.wrapper = closedWrapper focus.wrapper := by
  have resetFirst : (focus.resetBuffer.closeBase outcomes).1.wrapper =
      closedWrapper focus.wrapper := by
    have stillOpen : focus.resetBuffer.wrapper.isOpen = true := opened
    rw [closeBase_wrapper stillOpen resetBuffer_buffer]
    simp [closedWrapper, resetBuffer]
  unfold close
  split
  · rename_i plain
    refine closeBase_wrapper opened ?_
    simp [Wrapper.buffer, plain, Derived.buffer]
  · exact resetFirst
  · exact resetFirst

theorem close_of_closed (closed : focus.wrapper.isOpen = false) :
    (focus.close outcomes).1.wrapper =
      { focus.wrapper with
        derived := focus.wrapper.derived.withBuffer none } := by
  have resetOnly : (focus.resetBuffer.closeBase outcomes).1.wrapper =
      focus.resetBuffer.wrapper := by
    have stillClosed : focus.resetBuffer.wrapper.isOpen = false := closed
    simp [closeBase, stillClosed]
  unfold close
  split
  · rename_i plain
    have unbuffered : focus.wrapper.derived.withBuffer none =
        focus.wrapper.derived := by
      rw [plain]
      rfl
    rw [unbuffered]
    simp [closeBase, closed]
  · exact resetOnly
  · exact resetOnly

/-- The ways an `open` can end. -/
inductive Opens (focus : Focus) (isPinned : Bool) (pinPath : Bytes)
    (outcomes : Outcomes) : Focus × BpfControlErrorCode → Prop where
  /-- The call returns before it touches `fd_`. -/
  | refused {code : BpfControlErrorCode} :
      code ≠ .noError →
      (outcomes.initializeFails = false → focus.wrapper.isOpen = false →
        isPinned = true →
        focus.kernel.pathExists pinPath outcomes = false) →
      (outcomes.initializeFails = false → focus.wrapper.isOpen = false →
        isPinned = false →
        focus.wrapper.derived.creatable outcomes = false) →
      Opens focus isPinned pinPath outcomes (focus, code)
  /-- A plain map finds no pin, or cannot open it. -/
  | plain {code : BpfControlErrorCode} :
      code ≠ .noError →
      focus.wrapper.isOpen = false →
      focus.wrapper.derived.hasEvents = false →
      isPinned = true →
      (focus.kernel.pathExists pinPath outcomes = true →
        outcomes.descriptorFails.isSome = true) →
      Opens focus isPinned pinPath outcomes (focus.setFd (-1), code)
  /-- An event class keeps what `bpf_obj_get` returned. -/
  | events {failure : Nat} :
      outcomes.initializeFails = false →
      focus.wrapper.isOpen = false →
      focus.wrapper.derived.hasEvents = true →
      isPinned = true →
      focus.kernel.pathExists pinPath outcomes = true →
      outcomes.descriptorFails = some failure →
      Opens focus isPinned pinPath outcomes
        (focus.setFd (Int.negSucc failure), .openError)
  /-- The pinned map is closed again. -/
  | rejected {code : BpfControlErrorCode} {pin : Pin} :
      code ≠ .noError →
      outcomes.initializeFails = false →
      focus.wrapper.isOpen = false →
      isPinned = true →
      focus.kernel.pathExists pinPath outcomes = true →
      outcomes.descriptorFails = none →
      focus.kernel.pinAt pinPath = some pin →
      Opens focus isPinned pinPath outcomes
        (((focus.obtained pin.map).close outcomes).1, code)
  | reused {pin : Pin} :
      focus.wrapper.isOpen = false →
      isPinned = true →
      focus.kernel.pinAt pinPath = some pin →
      focus.wrapper.derived.accepts pin.map = true →
      Opens focus isPinned pinPath outcomes
        ({ focus.obtained pin.map with
            wrapper :=
              { (focus.obtained pin.map).wrapper with
                name := pin.map.name
                pinPath := pinPath } },
          .noError)
  | notCreated :
      outcomes.initializeFails = false →
      focus.wrapper.isOpen = false →
      isPinned = false →
      focus.wrapper.derived.creatable outcomes = true →
      outcomes.descriptorFails.isSome = true →
      Opens focus isPinned pinPath outcomes (focus.setFd (-1), .openError)
  | created :
      focus.wrapper.isOpen = false →
      isPinned = false →
      Opens focus isPinned pinPath outcomes
        (focus.obtained
            (focus.wrapper.derived.requested focus.kernel.nextMapId
              focus.wrapper.name outcomes),
          .noError)

/-- The tests which every `open` begins with. -/
theorem opens_of_checks {isPinned : Bool}
    {rest : Focus × BpfControlErrorCode}
    (continues : outcomes.initializeFails = false →
      focus.wrapper.isOpen = false →
      focus.Opens isPinned pinPath outcomes rest) :
    focus.Opens isPinned pinPath outcomes
      (if outcomes.initializeFails then (focus, .bpfRuntimeInitError)
      else if focus.wrapper.isOpen then (focus, .alreadyOpenedError)
      else rest) := by
  split
  · rename_i failed
    exact .refused (by decide) (by simp [failed]) (by simp [failed])
  · rename_i initialized
    split
    · rename_i opened
      exact .refused (by decide) (by simp [opened]) (by simp [opened])
    · rename_i notOpen
      exact continues (by simpa using initialized) (by simpa using notOpen)

/-- A size or a number of CPUs which is not accepted. -/
theorem opens_of_uncreatable {code : BpfControlErrorCode}
    (failed : code ≠ .noError)
    (invalid : focus.wrapper.derived.creatable outcomes = false) :
    focus.Opens false pinPath outcomes (focus, code) :=
  .refused failed (fun _ _ isPinned => by cases isPinned)
    fun _ _ _ => invalid

section Branches

variable (pinPath)
  (initialized : outcomes.initializeFails = false)
  (closed : focus.wrapper.isOpen = false)
include initialized closed

/-- The pinned branch, once `bpf_obj_get` has returned a descriptor. -/
theorem opens_of_obtained {pin : Pin}
    (present : focus.kernel.pathExists pinPath outcomes = true)
    (succeeds : outcomes.descriptorFails = none)
    (found : focus.kernel.pinAt pinPath = some pin) :
    focus.Opens true pinPath outcomes
      ((focus.obtained pin.map).reusePinned focus.wrapper.derived.accepts
        pinPath outcomes) := by
  have opened := focus.obtained_isOpen pin.map
  have behind := focus.mapBehind_obtained pin.map
  have rejected : ∀ code, code ≠ .noError → focus.Opens true pinPath outcomes
      (((focus.obtained pin.map).close outcomes).1, code) :=
    fun code failed =>
      .rejected failed initialized closed rfl present succeeds found
  unfold reusePinned loadMapInfo
  simp only [opened, Bool.not_true, Bool.false_eq_true, if_false, behind]
  by_cases unread : outcomes.infoFails = true
  · rw [if_pos unread]
    exact rejected .openError (by decide)
  · rw [if_neg unread]
    by_cases accepted : focus.wrapper.derived.accepts pin.map = true
    · rw [if_pos accepted]
      exact .reused closed rfl found accepted
    · rw [if_neg accepted]
      exact rejected .pinnedMapMismatchError (by decide)

/-- The create branch, once its tests are passed. -/
theorem opens_of_creatable
    (creatable : focus.wrapper.derived.creatable outcomes = true) :
    focus.Opens false pinPath outcomes
      (let created := focus.receiveFd
        (focus.wrapper.derived.requested focus.kernel.nextMapId
          focus.wrapper.name outcomes) outcomes
      if !created.wrapper.isOpen then (created.setFd (-1), .openError)
      else (created, .noError)) := by
  cases outcome : outcomes.descriptorFails with
  | some code =>
      simp only [receiveFd_of_failure outcome, setFd_negSucc_isOpen]
      exact .notCreated initialized closed rfl creatable (by simp [outcome])
  | none =>
      simp only [receiveFd_of_success outcome, obtained_isOpen]
      exact .created closed rfl

/-- The pinned branch of the event classes. -/
theorem opens_of_pinned_events
    (hasEvents : focus.wrapper.derived.hasEvents = true) :
    focus.Opens true pinPath outcomes
      (if !focus.kernel.pathExists pinPath outcomes then
        (focus, .notPinnedError)
      else
        let got := focus.objGet pinPath outcomes
        if !got.wrapper.isOpen then (got, .openError)
        else
          got.reusePinned focus.wrapper.derived.accepts pinPath
            outcomes) := by
  cases present : focus.kernel.pathExists pinPath outcomes with
  | false =>
      exact .refused (by decide) (fun _ _ _ => present)
        (fun _ _ unpinned => by cases unpinned)
  | true =>
      obtain ⟨pin, found⟩ := pinAt_of_pathExists present
      simp only [objGet_of_pin found]
      cases outcome : outcomes.descriptorFails with
      | some code =>
          simp only [receiveFd_of_failure outcome, setFd_negSucc_isOpen]
          exact .events initialized closed hasEvents rfl present outcome
      | none =>
          simp only [receiveFd_of_success outcome, obtained_isOpen]
          exact opens_of_obtained pinPath initialized closed present outcome found

/-- The pinned branch of a plain map. -/
theorem opens_of_pinned_plain
    (isPlain : focus.wrapper.derived.hasEvents = false) :
    focus.Opens true pinPath outcomes
      (if !focus.kernel.pathExists pinPath outcomes then
        (focus.setFd (-1), .notPinnedError)
      else
        let got := focus.objGet pinPath outcomes
        if !got.wrapper.isOpen then (got.setFd (-1), .openError)
        else
          got.reusePinned focus.wrapper.derived.accepts pinPath
            outcomes) := by
  cases present : focus.kernel.pathExists pinPath outcomes with
  | false =>
      exact .plain (by decide) closed isPlain rfl
        (fun isPresent => by rw [present] at isPresent; cases isPresent)
  | true =>
      obtain ⟨pin, found⟩ := pinAt_of_pathExists present
      simp only [objGet_of_pin found]
      cases outcome : outcomes.descriptorFails with
      | some code =>
          simp only [receiveFd_of_failure outcome, setFd_negSucc_isOpen]
          exact .plain (by decide) closed isPlain rfl
            (fun _ => by simp [outcome])
      | none =>
          simp only [receiveFd_of_success outcome, obtained_isOpen]
          exact opens_of_obtained pinPath initialized closed present outcome found

end Branches

theorem opens_openMap {keySize valueSize maxEntries : UInt64}
    {mapType : UInt32} (isPinned : Bool)
    (isMap : focus.wrapper.derived =
      .map keySize valueSize maxEntries mapType) :
    focus.Opens isPinned pinPath outcomes
      (focus.openMap keySize valueSize maxEntries mapType isPinned pinPath
        outcomes) := by
  unfold openMap
  refine opens_of_checks fun ready closed => ?_
  cases isPinned with
  | true =>
      have pinned := opens_of_pinned_plain pinPath ready closed
        (by rw [isMap]; rfl)
      rw [isMap] at pinned
      exact pinned
  | false =>
      have created := opens_of_creatable pinPath ready closed
        (by rw [isMap]; rfl)
      rw [isMap] at created
      exact created

theorem opens_openRingBuffer {bufSize : UInt64} {sampleCb : Bool}
    {ringbuf : Option Nat} (isPinned : Bool)
    (isRing : focus.wrapper.derived =
      .ringBuffer bufSize sampleCb ringbuf) :
    focus.Opens isPinned pinPath outcomes
      (focus.openRingBuffer bufSize isPinned pinPath outcomes) := by
  unfold openRingBuffer
  refine opens_of_checks fun ready closed => ?_
  cases isPinned with
  | true =>
      have pinned := opens_of_pinned_events pinPath ready closed
        (by rw [isRing]; rfl)
      rw [isRing] at pinned
      exact pinned
  | false =>
      simp only [Bool.false_eq_true, if_false]
      split
      · rename_i invalid
        refine opens_of_uncreatable (by decide) ?_
        rw [isRing]
        simp only [Derived.creatable, invalid, Bool.not_true]
      · rename_i valid
        have created := opens_of_creatable pinPath ready closed (by
          rw [isRing]
          simp only [Derived.creatable, valid, Bool.not_false])
        rw [isRing] at created
        exact created

theorem opens_openPerfBuffer {pageCount : Int32} {sampleCb lostCb : Bool}
    {perfbuf : Option Nat} (isPinned : Bool)
    (isPerf : focus.wrapper.derived =
      .perfBuffer pageCount sampleCb lostCb perfbuf) :
    focus.Opens isPinned pinPath outcomes
      (focus.openPerfBuffer pageCount isPinned pinPath outcomes) := by
  unfold openPerfBuffer
  refine opens_of_checks fun ready closed => ?_
  cases isPinned with
  | true =>
      have pinned := opens_of_pinned_events pinPath ready closed
        (by rw [isPerf]; rfl)
      rw [isPerf] at pinned
      exact pinned
  | false =>
      simp only [Bool.false_eq_true, if_false]
      split
      · rename_i noCpu
        refine opens_of_uncreatable (by decide) ?_
        rw [isPerf]
        simp [Derived.creatable, noCpu]
      · rename_i someCpu
        split
        · rename_i invalid
          refine opens_of_uncreatable (by decide) ?_
          rw [isPerf]
          simp only [Derived.creatable, invalid, Bool.not_true,
            Bool.and_false]
        · rename_i valid
          have created := opens_of_creatable pinPath ready closed (by
            rw [isPerf]
            simp only [Derived.creatable, someCpu, valid, decide_false,
              Bool.not_false, Bool.and_self])
          rw [isPerf] at created
          exact created

/-- The inversion of `open` for all three classes. -/
theorem opens_openWrapper (isPinned : Bool) :
    focus.Opens isPinned pinPath outcomes
      (focus.openWrapper isPinned pinPath outcomes) := by
  unfold openWrapper
  split
  · rename_i isMap
    exact opens_openMap isPinned isMap
  · rename_i isRing
    exact opens_openRingBuffer isPinned isRing
  · rename_i isPerf
    exact opens_openPerfBuffer isPinned isPerf

theorem created_of_success {result : Focus × BpfControlErrorCode}
    (opens : focus.Opens false pinPath outcomes result)
    (success : result.2 = .noError) :
    result.1 = focus.obtained
      (focus.wrapper.derived.requested focus.kernel.nextMapId
        focus.wrapper.name outcomes) := by
  cases opens with
  | refused failed => exact absurd success failed
  | plain failed => exact absurd success failed
  | events => cases success
  | rejected failed => exact absurd success failed
  | reused _ pinned => cases pinned
  | notCreated => cases success
  | created => rfl

theorem reused_of_success {result : Focus × BpfControlErrorCode}
    (opens : focus.Opens true pinPath outcomes result)
    (success : result.2 = .noError) :
    ∃ pin, focus.kernel.pinAt pinPath = some pin ∧
      result.1.wrapper.name = pin.map.name ∧
      result.1.wrapper.isOpen = true := by
  cases opens with
  | refused failed => exact absurd success failed
  | plain failed => exact absurd success failed
  | events => cases success
  | rejected failed => exact absurd success failed
  | @reused pin _ _ found =>
      exact ⟨pin, found, rfl, focus.obtained_isOpen pin.map⟩
  | notCreated => cases success
  | created _ unpinned => cases unpinned

theorem pin_of_success
    (success : (focus.pin pinPath outcomes).2 = .noError) :
    (focus.pin pinPath outcomes).1.kernel =
      focus.kernel.objPin focus.wrapper.fd.toNat pinPath := by
  unfold pin at success ⊢
  repeat' split at success
  all_goals cases success
  simp [*]

theorem opens_arguments {isPinned : Bool}
    {result : Focus × BpfControlErrorCode}
    (opens : focus.Opens isPinned pinPath outcomes result) :
    result.1.wrapper.derived.arguments =
      focus.wrapper.derived.arguments := by
  cases opens with
  | rejected =>
      rw [close_wrapper (obtained_isOpen _)]
      exact Derived.arguments_withBuffer _ _
  | _ => rfl

theorem close_arguments :
    (focus.close outcomes).1.wrapper.derived.arguments =
      focus.wrapper.derived.arguments := by
  cases opened : focus.wrapper.isOpen with
  | true =>
      rw [close_wrapper opened]
      exact Derived.arguments_withBuffer _ _
  | false =>
      rw [close_of_closed opened]
      exact Derived.arguments_withBuffer _ _

theorem pin_frame :
    (focus.pin pinPath outcomes).1.wrapper.fd = focus.wrapper.fd ∧
      (focus.pin pinPath outcomes).1.wrapper.derived =
        focus.wrapper.derived := by
  unfold pin
  repeat' split
  all_goals exact ⟨rfl, rfl⟩

theorem unpin_frame :
    (focus.unpin outcomes).1.wrapper.fd = focus.wrapper.fd ∧
      (focus.unpin outcomes).1.wrapper.derived = focus.wrapper.derived := by
  unfold unpin
  repeat' split
  all_goals exact ⟨rfl, rfl⟩

theorem replaceBuffer_frame (fails : Bool) :
    (focus.replaceBuffer fails).wrapper.fd = focus.wrapper.fd ∧
      (focus.replaceBuffer fails).wrapper.derived.arguments =
        focus.wrapper.derived.arguments := by
  unfold replaceBuffer
  split
  · exact ⟨rfl, Derived.arguments_withBuffer _ _⟩
  · exact ⟨rfl, Derived.arguments_withBuffer _ _⟩

theorem eventBufferCreate_frame :
    (focus.eventBufferCreate outcomes).1.wrapper.fd = focus.wrapper.fd ∧
      (focus.eventBufferCreate outcomes).1.wrapper.derived.arguments =
        focus.wrapper.derived.arguments := by
  unfold eventBufferCreate
  split
  · exact ⟨rfl, rfl⟩
  · split
    · exact ⟨rfl, rfl⟩
    · exact replaceBuffer_frame _

/-- No operation changes the arguments of the constructor. -/
theorem perform_arguments (operation : Operation) :
    (focus.perform outcomes operation).1.wrapper.derived.arguments =
      focus.wrapper.derived.arguments := by
  cases operation with
  | openWrapper isPinned pinPath =>
      exact opens_arguments (opens_openWrapper isPinned)
  | pin pinPath => exact congrArg Derived.arguments pin_frame.2
  | unpin => exact congrArg Derived.arguments unpin_frame.2
  | close => exact close_arguments
  | setCallback sampleCb => exact Derived.arguments_setCallbacks _ _ _
  | setCallbacks sampleCb lostCb =>
      exact Derived.arguments_setCallbacks _ _ _
  | eventBufferCreate => exact eventBufferCreate_frame.2

end Focus

/-- The operations which write `fd_`. -/
def Operation.writesFd : Operation → Bool
  | .openWrapper _ _ => true
  | .close => true
  | _ => false

theorem Focus.perform_fd {focus : Focus} {outcomes : Outcomes}
    {operation : Operation} (keeps : operation.writesFd = false) :
    (focus.perform outcomes operation).1.wrapper.fd = focus.wrapper.fd := by
  cases operation with
  | openWrapper => cases keeps
  | pin pinPath => exact pin_frame.1
  | unpin => exact unpin_frame.1
  | close => cases keeps
  | setCallback sampleCb => rfl
  | setCallbacks sampleCb lostCb => rfl
  | eventBufferCreate => exact eventBufferCreate_frame.1

namespace Collection

/-- How a step came to leave `wrapper` at `place`. -/
inductive Origin (state target : Collection) (place : Nat) :
    CollectionStep → Wrapper → Prop where
  | kept {label : CollectionStep} {wrapper : Wrapper} :
      state.objects place = some wrapper →
      Origin state target place label wrapper
  | constructed {derived : Derived} {name : Bytes} :
      Origin state target place (.construct place derived name)
        (.construct derived name)
  | performed {operation : Operation} {outcomes : Outcomes}
      {wrapper : Wrapper} :
      state.objects place = some wrapper →
      operation.offered wrapper.derived = true →
      target.kernel =
        (Focus.perform ⟨state.kernel, wrapper⟩ outcomes operation).1.kernel →
      Origin state target place (.perform place operation outcomes)
        (Focus.perform ⟨state.kernel, wrapper⟩ outcomes operation).1.wrapper
  | moved {label : CollectionStep} {source : Nat} {wrapper : Wrapper} :
      state.objects source = some wrapper →
      Origin state target place label wrapper
  | left {label : CollectionStep} {wrapper : Wrapper} {residue : Residue} :
      Origin state target place label (wrapper.movedFrom residue)

variable {state target : Collection} {place : Nat}

theorem found_store {slot : Nat} {wrapper : Option Wrapper}
    {present : Wrapper}
    (found : (state.store slot wrapper).objects place = some present) :
    place = slot ∧ wrapper = some present ∨
      place ≠ slot ∧ state.objects place = some present := by
  by_cases same : place = slot
  · subst same
    exact .inl ⟨rfl, by simpa [store] using found⟩
  · exact .inr ⟨same, by simpa [store, Function.update_of_ne same] using found⟩

theorem found_put {slot : Nat} {focus : Focus} {present : Wrapper}
    (found : (state.put slot focus).objects place = some present) :
    place = slot ∧ focus.wrapper = present ∨
      place ≠ slot ∧ state.objects place = some present := by
  have stored : (state.store slot (some focus.wrapper)).objects place =
      some present := found
  rcases found_store stored with ⟨same, stored⟩ | other
  · exact .inl ⟨same, Option.some.inj stored⟩
  · exact .inr other

theorem origin_of_moves {label : CollectionStep} {wrapper : Wrapper}
    (moves : state.Moves label target)
    (found : target.objects place = some wrapper) :
    state.Origin target place label wrapper := by
  cases moves with
  | construct =>
      rcases found_store found with ⟨rfl, stored⟩ | ⟨_, before⟩
      · cases stored
        exact .constructed
      · exact .kept before
  | perform present offered =>
      rcases found_put found with ⟨rfl, rfl⟩ | ⟨_, before⟩
      · exact .performed present offered rfl
      · exact .kept before
  | moveConstruct present =>
      rcases found_store found with ⟨_, stored⟩ | ⟨_, earlier⟩
      · cases stored
        exact .left
      · rcases found_store earlier with ⟨_, stored⟩ | ⟨_, before⟩
        · cases stored
          exact .moved present
        · exact .kept before
  | moveSelf => exact .kept found
  | moveAssign _ _ present =>
      rcases found_store found with ⟨_, stored⟩ | ⟨_, earlier⟩
      · cases stored
        exact .left
      · rcases found_put earlier with ⟨_, rfl⟩ | ⟨_, before⟩
        · exact .moved present
        · exact .kept before
  | destroy =>
      rcases found_store found with ⟨_, stored⟩ | ⟨different, earlier⟩
      · cases stored
      · rcases found_put earlier with ⟨same, _⟩ | ⟨_, before⟩
        · exact absurd same different
        · exact .kept before

end Collection

end LibbpfControl.BpfControl
