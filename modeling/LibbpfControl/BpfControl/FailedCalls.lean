import LibbpfControl.BpfControl.Ownership

/-!
# Failed calls

A call which returns an error is meant to leave the wrapper as it was.  It
does not always: `Disturbs` lists the failing calls after which a user sees a
different wrapper, and a failing call of any reachable wrapper changes what
is observed exactly if it is one of them.
-/

namespace LibbpfControl.BpfControl

/-- What the users of a wrapper can see of it. -/
structure Observed where
  fd : Int
  isOpen : Bool
  name : Bytes
  pinPath : Bytes
  isPinOwner : Bool
  hasBuffer : Bool
  deriving DecidableEq, Repr

def Wrapper.observed (wrapper : Wrapper) : Observed where
  fd := wrapper.fd
  isOpen := wrapper.isOpen
  name := wrapper.name
  pinPath := wrapper.pinPath
  isPinOwner := wrapper.isPinOwner
  hasBuffer := wrapper.buffer.isSome

/-- The results after which a call could be repeated.  An `unpin()` whose pin
is gone clears the local state by contract. -/
def Operation.Fails (code : BpfControlErrorCode) : Operation → Prop
  | .openWrapper _ _ => code ≠ .noError
  | .pin _ => code ≠ .noError
  | .unpin => code ≠ .noError ∧ code ≠ .notPinnedError
  | .eventBufferCreate => code ≠ .noError
  | _ => False

/-- The failing calls after which the wrapper is not as it was. -/
inductive Focus.Disturbs (focus : Focus) (outcomes : Outcomes) :
    Operation → Prop where
  /-- An event class keeps the code of a failed `bpf_obj_get` in `fd_`. -/
  | objGetCode {pinPath : Bytes} {code : Nat} :
      outcomes.initializeFails = false →
      focus.wrapper.isOpen = false →
      focus.wrapper.derived.hasEvents = true →
      focus.kernel.pathExists pinPath outcomes = true →
      outcomes.descriptorFails = some code →
      focus.wrapper.fd ≠ Int.negSucc code →
      Disturbs focus outcomes (.openWrapper true pinPath)
  /-- A code which an event class kept is overwritten by -1, when a pinned
  map cannot be reused or a new one cannot be created. -/
  | keptCode {isPinned : Bool} {pinPath : Bytes} :
      outcomes.initializeFails = false →
      focus.wrapper.isOpen = false →
      focus.wrapper.derived.hasEvents = true →
      (isPinned = true → focus.kernel.pathExists pinPath outcomes = true ∧
        outcomes.descriptorFails = none) →
      (isPinned = false → focus.wrapper.derived.creatable outcomes = true) →
      focus.wrapper.fd ≠ -1 →
      Disturbs focus outcomes (.openWrapper isPinned pinPath)
  /-- A pinned map which cannot be reused clears the path which a move has
  left in a closed wrapper. -/
  | residualPath {pinPath : Bytes} :
      outcomes.initializeFails = false →
      focus.wrapper.isOpen = false →
      focus.kernel.pathExists pinPath outcomes = true →
      outcomes.descriptorFails = none →
      focus.wrapper.pinPath ≠ [] →
      Disturbs focus outcomes (.openWrapper true pinPath)
  /-- A pin owner which cannot test for its path gives it up. -/
  | ownedPin :
      focus.wrapper.isOpen = true →
      focus.wrapper.isPinOwner = true →
      outcomes.existsFails = true →
      Disturbs focus outcomes .unpin
  /-- The old buffer is freed also when the new one cannot be made. -/
  | eventBuffer :
      focus.wrapper.isOpen = true →
      focus.wrapper.derived.callbacksSet = true →
      outcomes.bufferFails = true →
      focus.wrapper.buffer.isSome = true →
      Disturbs focus outcomes .eventBufferCreate

/-- `BpfMapControl` leaves no code in `fd_`. -/
def Wrapper.Settled (wrapper : Wrapper) : Prop :=
  wrapper.derived.hasEvents = false → wrapper.isOpen = false →
    wrapper.fd = -1

namespace Wrapper

variable {before after : Wrapper}

theorem Settled.of_same (settled : before.Settled)
    (fd : after.fd = before.fd)
    (same : after.derived.arguments = before.derived.arguments) :
    after.Settled := by
  unfold Settled isOpen
  rw [fd, Derived.hasEvents_of_arguments same]
  exact settled

theorem settled_of_fd (fd : after.fd = -1) : after.Settled :=
  fun _ _ => fd

theorem settled_of_isOpen (opened : after.isOpen = true) : after.Settled := by
  intro _ closed
  rw [opened] at closed
  cases closed

end Wrapper

namespace Focus

variable {focus : Focus} {outcomes : Outcomes} {pinPath : Bytes}
  {isPinned : Bool}

theorem opens_settled {result : Focus × BpfControlErrorCode}
    (settled : focus.wrapper.Settled)
    (opens : focus.Opens isPinned pinPath outcomes result) :
    result.1.wrapper.Settled := by
  cases opens with
  | refused => exact settled
  | plain => exact Wrapper.settled_of_fd rfl
  | events _ _ hasEvents =>
      intro isPlain
      exact absurd (hasEvents.symm.trans isPlain) (by decide)
  | rejected =>
      refine Wrapper.settled_of_fd ?_
      rw [close_wrapper (obtained_isOpen _)]
      rfl
  | @reused pin =>
      exact Wrapper.settled_of_isOpen (focus.obtained_isOpen pin.map)
  | notCreated => exact Wrapper.settled_of_fd rfl
  | created => exact Wrapper.settled_of_isOpen (focus.obtained_isOpen _)

theorem close_settled (settled : focus.wrapper.Settled) :
    (focus.close outcomes).1.wrapper.Settled := by
  cases opened : focus.wrapper.isOpen with
  | true =>
      refine Wrapper.settled_of_fd ?_
      rw [close_wrapper opened]
      rfl
  | false =>
      refine settled.of_same ?_ close_arguments
      rw [close_of_closed opened]

theorem perform_settled (operation : Operation)
    (settled : focus.wrapper.Settled) :
    (focus.perform outcomes operation).1.wrapper.Settled := by
  cases writes : operation.writesFd with
  | false =>
      exact settled.of_same (perform_fd writes) (perform_arguments operation)
  | true =>
      cases operation with
      | openWrapper isPinned pinPath =>
          exact opens_settled settled (opens_openWrapper isPinned)
      | close => exact close_settled settled
      | _ => cases writes

end Focus

namespace Collection

def Settled (state : Collection) : Prop :=
  ∀ place wrapper, state.objects place = some wrapper → wrapper.Settled

variable {state target : Collection}

theorem settled_of_moves {label : CollectionStep} (settled : state.Settled)
    (moves : state.Moves label target) : target.Settled := by
  intro place wrapper found
  cases origin_of_moves moves found with
  | kept before => exact settled _ _ before
  | constructed => exact Wrapper.settled_of_fd rfl
  | performed before =>
      exact Focus.perform_settled _ (settled _ _ before)
  | moved before => exact settled _ _ before
  | left => exact Wrapper.settled_of_fd rfl

theorem settled_reachable (reached : collectionMachine.Reachable state) :
    state.Settled := by
  refine reached.invariant ?_ ?_
  · intro start begins place wrapper found
    rw [begins.objects place] at found
    cases found
  · intro state label target settled stepped
    exact settled_of_moves settled (moves_of_step stepped)

end Collection

namespace Focus

variable {focus : Focus} {outcomes : Outcomes}

section Opening

variable {isPinned : Bool} {pinPath : Bytes}

theorem not_disturbs_of_refused
    (absent : outcomes.initializeFails = false →
      focus.wrapper.isOpen = false → isPinned = true →
      focus.kernel.pathExists pinPath outcomes = false)
    (uncreatable : outcomes.initializeFails = false →
      focus.wrapper.isOpen = false → isPinned = false →
      focus.wrapper.derived.creatable outcomes = false) :
    ¬focus.Disturbs outcomes (.openWrapper isPinned pinPath) := by
  intro disturbs
  cases disturbs with
  | objGetCode ready closed _ present =>
      exact absurd present (by simp [absent ready closed rfl])
  | keptCode ready closed _ pinned created =>
      cases isPinned with
      | true =>
          exact absurd (pinned rfl).1 (by simp [absent ready closed rfl])
      | false =>
          exact absurd (created rfl) (by simp [uncreatable ready closed rfl])
  | residualPath ready closed present =>
      exact absurd present (by simp [absent ready closed rfl])

theorem not_disturbs_of_plain
    (isPlain : focus.wrapper.derived.hasEvents = false)
    (fails : focus.kernel.pathExists pinPath outcomes = true →
      outcomes.descriptorFails.isSome = true) :
    ¬focus.Disturbs outcomes (.openWrapper true pinPath) := by
  intro disturbs
  cases disturbs with
  | objGetCode _ _ hasEvents => exact absurd hasEvents (by simp [isPlain])
  | keptCode _ _ hasEvents => exact absurd hasEvents (by simp [isPlain])
  | residualPath _ _ present succeeds =>
      exact absurd (fails present) (by simp [succeeds])

theorem disturbs_events_iff {code : Nat}
    (ready : outcomes.initializeFails = false)
    (closed : focus.wrapper.isOpen = false)
    (hasEvents : focus.wrapper.derived.hasEvents = true)
    (present : focus.kernel.pathExists pinPath outcomes = true)
    (fails : outcomes.descriptorFails = some code) :
    focus.Disturbs outcomes (.openWrapper true pinPath) ↔
      focus.wrapper.fd ≠ Int.negSucc code := by
  constructor
  · intro disturbs
    cases disturbs with
    | objGetCode _ _ _ _ other different =>
        rw [fails] at other
        cases other
        exact different
    | keptCode _ _ _ pinned => exact absurd (pinned rfl).2 (by simp [fails])
    | residualPath _ _ _ succeeds => exact absurd succeeds (by simp [fails])
  · exact .objGetCode ready closed hasEvents present fails

/-- A plain map has no code to lose. -/
theorem disturbs_of_code (settled : focus.wrapper.Settled)
    (ready : outcomes.initializeFails = false)
    (closed : focus.wrapper.isOpen = false)
    (pinned : isPinned = true →
      focus.kernel.pathExists pinPath outcomes = true ∧
        outcomes.descriptorFails = none)
    (created : isPinned = false →
      focus.wrapper.derived.creatable outcomes = true)
    (code : focus.wrapper.fd ≠ -1) :
    focus.Disturbs outcomes (.openWrapper isPinned pinPath) := by
  cases hasEvents : focus.wrapper.derived.hasEvents with
  | false => exact absurd (settled hasEvents closed) code
  | true => exact .keptCode ready closed hasEvents pinned created code

theorem disturbs_rejected_iff (settled : focus.wrapper.Settled)
    (ready : outcomes.initializeFails = false)
    (closed : focus.wrapper.isOpen = false)
    (present : focus.kernel.pathExists pinPath outcomes = true)
    (succeeds : outcomes.descriptorFails = none) :
    focus.Disturbs outcomes (.openWrapper true pinPath) ↔
      focus.wrapper.fd ≠ -1 ∨ focus.wrapper.pinPath ≠ [] := by
  constructor
  · intro disturbs
    cases disturbs with
    | objGetCode _ _ _ _ fails => exact absurd fails (by simp [succeeds])
    | keptCode _ _ _ _ _ code => exact .inl code
    | residualPath _ _ _ _ path => exact .inr path
  · rintro (code | path)
    · exact disturbs_of_code settled ready closed
        (fun _ => ⟨present, succeeds⟩) (fun unpinned => by cases unpinned) code
    · exact .residualPath ready closed present succeeds path

theorem disturbs_notCreated_iff (settled : focus.wrapper.Settled)
    (ready : outcomes.initializeFails = false)
    (closed : focus.wrapper.isOpen = false)
    (creatable : focus.wrapper.derived.creatable outcomes = true) :
    focus.Disturbs outcomes (.openWrapper false pinPath) ↔
      focus.wrapper.fd ≠ -1 := by
  constructor
  · intro disturbs
    cases disturbs with
    | keptCode _ _ _ _ _ code => exact code
  · exact disturbs_of_code settled ready closed
      (fun pinned => by cases pinned) (fun _ => creatable)

theorem setFd_observed_iff {fd : Int} :
    (focus.setFd fd).wrapper.observed = focus.wrapper.observed ↔
      focus.wrapper.fd = fd := by
  constructor
  · intro same
    exact (congrArg Observed.fd same).symm
  · intro same
    subst same
    rfl

/-- A pinned map which is closed again leaves nothing but the name. -/
theorem rejected_observed_iff (vacant : focus.wrapper.Vacant)
    (map : KernelMap) :
    ((focus.obtained map).close outcomes).1.wrapper.observed =
        focus.wrapper.observed ↔
      focus.wrapper.fd = -1 ∧ focus.wrapper.pinPath = [] := by
  rw [close_wrapper (obtained_isOpen map)]
  constructor
  · intro same
    exact ⟨(congrArg Observed.fd same).symm,
      (congrArg Observed.pinPath same).symm⟩
  · rintro ⟨unset, noPath⟩
    have noBuffer : focus.wrapper.derived.buffer = none := vacant.noBuffer
    simp [closedWrapper, Wrapper.observed, obtained, Wrapper.isOpen,
      Wrapper.buffer, unset, noPath, noBuffer, vacant.unowned]

theorem opens_observed_iff {result : Focus × BpfControlErrorCode}
    (vacant : focus.wrapper.isOpen = false → focus.wrapper.Vacant)
    (settled : focus.wrapper.Settled)
    (opens : focus.Opens isPinned pinPath outcomes result)
    (failed : result.2 ≠ .noError) :
    result.1.wrapper.observed = focus.wrapper.observed ↔
      ¬focus.Disturbs outcomes (.openWrapper isPinned pinPath) := by
  cases opens with
  | refused _ absent uncreatable =>
      exact iff_of_true rfl (not_disturbs_of_refused absent uncreatable)
  | plain _ closed isPlain pinned fails =>
      subst pinned
      exact iff_of_true (setFd_observed_iff.mpr (settled isPlain closed))
        (not_disturbs_of_plain isPlain fails)
  | events ready closed hasEvents pinned present fails =>
      subst pinned
      rw [setFd_observed_iff,
        disturbs_events_iff ready closed hasEvents present fails, not_not]
  | rejected _ ready closed pinned present succeeds =>
      subst pinned
      rw [rejected_observed_iff (vacant closed),
        disturbs_rejected_iff settled ready closed present succeeds, not_or,
        not_not, not_not]
  | reused => exact absurd rfl failed
  | notCreated ready closed unpinned creatable =>
      subst unpinned
      rw [setFd_observed_iff,
        disturbs_notCreated_iff settled ready closed creatable, not_not]
  | created => exact absurd rfl failed

end Opening

/-- A `pin()` which fails has touched nothing. -/
theorem pin_unchanged (pinPath : Bytes) :
    (focus.pin pinPath outcomes).1 = focus ∨
      (focus.pin pinPath outcomes).2 = .noError := by
  unfold pin
  repeat' split
  case isFalse.isFalse.isFalse.isFalse.isFalse => exact .inr rfl
  all_goals exact .inl rfl

theorem existsFails_of_pathExists {pinPath : Bytes}
    (present : focus.kernel.pathExists pinPath outcomes = true) :
    outcomes.existsFails = false := by
  simp only [Kernel.pathExists, Bool.and_eq_true, Bool.not_eq_true'] at present
  exact present.1

theorem unpin_observed_iff
    (failed : Operation.unpin.Fails (focus.unpin outcomes).2) :
    (focus.unpin outcomes).1.wrapper.observed = focus.wrapper.observed ↔
      ¬focus.Disturbs outcomes .unpin := by
  unfold unpin at failed ⊢
  split
  · rename_i closed
    refine iff_of_true rfl fun disturbs => ?_
    cases disturbs with
    | ownedPin opened => simp [opened] at closed
  · rename_i opened
    split
    · rename_i unowned
      refine iff_of_true rfl fun disturbs => ?_
      cases disturbs with
      | ownedPin _ owner => simp [owner] at unowned
    · rename_i owned
      have owner : focus.wrapper.isPinOwner = true := by simpa using owned
      split
      · rename_i present
        split
        · refine iff_of_true ?_ fun disturbs => ?_
          · simp [Wrapper.observed, owner, Wrapper.isOpen, Wrapper.buffer]
          · cases disturbs with
            | ownedPin _ _ fails =>
                exact absurd fails
                  (by simp [existsFails_of_pathExists present])
        · rename_i removed
          simp [opened, owned, present, removed, Operation.Fails] at failed
      · rename_i absent
        split
        · rename_i fails
          refine iff_of_false (fun same => ?_) (not_not.mpr ?_)
          · have kept : false = focus.wrapper.isPinOwner :=
              congrArg Observed.isPinOwner same
            rw [owner] at kept
            cases kept
          · exact .ownedPin (by simpa using opened) owner fails
        · rename_i answered
          simp [opened, owned, absent, answered, Operation.Fails] at failed

theorem resetBuffer_observed_iff :
    focus.resetBuffer.wrapper.observed = focus.wrapper.observed ↔
      focus.wrapper.buffer.isSome = false := by
  constructor
  · intro same
    have kept := congrArg Observed.hasBuffer same
    simp only [Wrapper.observed, resetBuffer_buffer] at kept
    exact kept.symm
  · intro noBuffer
    simp only [Wrapper.observed, resetBuffer_buffer, noBuffer]
    rfl

theorem eventBufferCreate_observed_iff
    (failed : (focus.eventBufferCreate outcomes).2 ≠ .noError) :
    (focus.eventBufferCreate outcomes).1.wrapper.observed =
        focus.wrapper.observed ↔
      ¬focus.Disturbs outcomes .eventBufferCreate := by
  unfold eventBufferCreate at failed ⊢
  split
  · rename_i closed
    refine iff_of_true rfl fun disturbs => ?_
    cases disturbs with
    | eventBuffer opened => simp [opened] at closed
  · rename_i opened
    split
    · rename_i unset
      refine iff_of_true rfl fun disturbs => ?_
      cases disturbs with
      | eventBuffer _ callbacks => simp [callbacks] at unset
    · rename_i callbacks
      cases fails : outcomes.bufferFails with
      | false => simp [opened, callbacks, fails] at failed
      | true =>
          have disturbs_iff : focus.Disturbs outcomes .eventBufferCreate ↔
              focus.wrapper.buffer.isSome = true := by
            constructor
            · intro disturbs
              cases disturbs with
              | eventBuffer _ _ _ present => exact present
            · exact .eventBuffer (by simpa using opened)
                (by simpa using callbacks) fails
          rw [disturbs_iff, Bool.not_eq_true]
          exact resetBuffer_observed_iff

end Focus

/-- A failing call of a wrapper changes what is observed exactly if it is one
of the disturbing calls. -/
theorem failed_call_unchanged_iff {state : Collection}
    (reached : collectionMachine.Reachable state) {place : Nat}
    {wrapper : Wrapper} (found : state.objects place = some wrapper)
    {operation : Operation} {outcomes : Outcomes}
    (failed : operation.Fails
      (Focus.perform ⟨state.kernel, wrapper⟩ outcomes operation).2) :
    (Focus.perform ⟨state.kernel, wrapper⟩ outcomes
        operation).1.wrapper.observed = wrapper.observed ↔
      ¬Focus.Disturbs ⟨state.kernel, wrapper⟩ outcomes operation := by
  have sound := (Collection.secure_reachable reached).sound place wrapper found
  have settled := Collection.settled_reachable reached place wrapper found
  cases operation with
  | openWrapper isPinned pinPath =>
      exact Focus.opens_observed_iff sound.vacant settled
        (Focus.opens_openWrapper isPinned) failed
  | pin pinPath =>
      rcases Focus.pin_unchanged pinPath with same | succeeded
      · exact iff_of_true (congrArg (fun focus : Focus =>
          focus.wrapper.observed) same) (fun disturbs => by cases disturbs)
      · exact absurd succeeded failed
  | unpin => exact Focus.unpin_observed_iff failed
  | close => exact failed.elim
  | setCallback => exact failed.elim
  | setCallbacks => exact failed.elim
  | eventBufferCreate => exact Focus.eventBufferCreate_observed_iff failed

/-- A ring buffer wrapper pins its map and makes its event buffer; a second
one is constructed for the same map. -/
def sharedRingSteps : List CollectionStep :=
  let ring := Derived.ringBuffer 4096 false none
  [.construct 0 ring [101], .perform 0 (.setCallback true) {},
    .perform 0 (.openWrapper false []) {}, .perform 0 (.pin [112]) {},
    .perform 0 .eventBufferCreate {}, .construct 1 ring [101]]

theorem sharedRingSteps_enabled :
    (collectionMachine.runWhere (fun _ _ => True) emptyCollection
      sharedRingSteps).isSome = true := by
  decide

def sharedRing : Collection :=
  collectionMachine.finish emptyCollection sharedRingSteps
    sharedRingSteps_enabled

theorem sharedRing_reachable : collectionMachine.Reachable sharedRing :=
  Machine.reachable_finish emptyCollection_initial sharedRingSteps_enabled

def ringOwner : Wrapper where
  fd := 0
  name := [101]
  pinPath := [112]
  isPinOwner := true
  derived := .ringBuffer 4096 true (some 0)
  pinCall := some 0

def ringReader : Wrapper :=
  .construct (.ringBuffer 4096 false none) [101]

def Collection.call (state : Collection) (wrapper : Wrapper)
    (operation : Operation) (outcomes : Outcomes) :
    Observed × BpfControlErrorCode :=
  let called := Focus.perform ⟨state.kernel, wrapper⟩ outcomes operation
  (called.1.wrapper.observed, called.2)

/-- A removal which fails is undone. -/
theorem failed_call_unchanged_restored :
    Operation.unpin.Fails (Focus.perform ⟨sharedRing.kernel, ringOwner⟩
        { removeFails := true } .unpin).2 ∧
      (Focus.perform ⟨sharedRing.kernel, ringOwner⟩ { removeFails := true }
        .unpin).1.wrapper.observed = ringOwner.observed := by
  have found : sharedRing.objects 0 = some ringOwner := by decide
  have failed : Operation.unpin.Fails
      (Focus.perform ⟨sharedRing.kernel, ringOwner⟩ { removeFails := true }
        .unpin).2 :=
    ⟨by decide, by decide⟩
  refine ⟨failed, (failed_call_unchanged_iff sharedRing_reachable found
    failed).mpr fun disturbs => ?_⟩
  cases disturbs with
  | ownedPin _ _ fails => cases fails

/-- A failed `bpf_obj_get` shows in `get_fd()`, a failed test of the path
costs the owner its pin, and a buffer which cannot be made takes the old one
away. -/
theorem failed_calls_disturb :
    collectionMachine.Reachable sharedRing ∧
      sharedRing.objects 0 = some ringOwner ∧
      sharedRing.objects 1 = some ringReader ∧
      sharedRing.call ringReader (.openWrapper true [112])
          { descriptorFails := some 12 } =
        ({ ringReader.observed with fd := -13 }, .openError) ∧
      sharedRing.call ringOwner .unpin { existsFails := true } =
        ({ ringOwner.observed with pinPath := [], isPinOwner := false },
          .unpinningError) ∧
      sharedRing.call ringOwner .eventBufferCreate { bufferFails := true } =
        ({ ringOwner.observed with hasBuffer := false }, .bufferMakeError) :=
  ⟨sharedRing_reachable, by decide⟩

end LibbpfControl.BpfControl
