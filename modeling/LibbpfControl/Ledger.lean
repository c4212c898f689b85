import Mathlib.Logic.Function.Basic
import Mathlib.Data.List.Nodup

/-!
# Ledgers of acquired resources

A ledger numbers the resources a program acquires (descriptors, buffers,
rights to remove a file) in the order of their acquisition and records every
release, also a second release of the same resource.  The program holds
resources in places: members of an object, entries of a table.  A ledger is
owned by the places when every resource is held in exactly one place or was
released exactly once: nothing leaked, nothing released twice, nothing used
after its release.
-/

namespace LibbpfControl

structure Ledger where
  opened : Nat
  closed : List Nat
  deriving DecidableEq, Repr

namespace Ledger

def empty : Ledger where
  opened := 0
  closed := []

/-- The number the next acquisition gets. -/
def fresh (ledger : Ledger) : Nat :=
  ledger.opened

def acquire (ledger : Ledger) : Ledger :=
  { ledger with opened := ledger.opened + 1 }

def release (ledger : Ledger) (resource : Nat) : Ledger :=
  { ledger with closed := resource :: ledger.closed }

/-- Release what a place holds, if it holds anything. -/
def releaseHeld (ledger : Ledger) : Option Nat → Ledger
  | none => ledger
  | some resource => ledger.release resource

@[simp] theorem fresh_releaseHeld (ledger : Ledger) (held : Option Nat) :
    (ledger.releaseHeld held).fresh = ledger.fresh := by
  cases held <;> rfl

theorem acquire_releaseHeld (ledger : Ledger) (held : Option Nat) :
    ledger.acquire.releaseHeld held = (ledger.releaseHeld held).acquire := by
  cases held <;> rfl

variable {Place : Type}

structure OwnedBy (ledger : Ledger) (holds : Place → Option Nat) : Prop where
  releasedOnce : ledger.closed.Nodup
  acquired : ∀ resource ∈ ledger.closed, resource < ledger.opened
  held : ∀ place resource, holds place = some resource →
    resource < ledger.opened ∧ resource ∉ ledger.closed
  unique : ∀ left right resource, holds left = some resource →
    holds right = some resource → left = right
  covered : ∀ resource, resource < ledger.opened →
    resource ∉ ledger.closed → ∃ place, holds place = some resource

theorem ownedBy_empty {holds : Place → Option Nat}
    (nothing : ∀ place, holds place = none) : empty.OwnedBy holds where
  releasedOnce := List.nodup_nil
  acquired := by simp [empty]
  held := by simp [nothing]
  unique := by simp [nothing]
  covered := by simp [empty]

variable [DecidableEq Place] {ledger : Ledger} {holds : Place → Option Nat}
  {place : Place} {resource : Nat}

/-- An acquisition is stored in a place which holds nothing. -/
theorem OwnedBy.acquire (owned : ledger.OwnedBy holds)
    (vacant : holds place = none) :
    ledger.acquire.OwnedBy
      (Function.update holds place (some ledger.fresh)) := by
  have known : ∀ other resource,
      Function.update holds place (some ledger.fresh) other =
          some resource →
        other = place ∧ resource = ledger.opened ∨
          other ≠ place ∧ holds other = some resource := by
    intro other resource held
    by_cases same : other = place
    · subst same
      rw [Function.update_self] at held
      exact .inl ⟨rfl, (Option.some.inj held).symm⟩
    · rw [Function.update_of_ne same] at held
      exact .inr ⟨same, held⟩
  refine ⟨owned.releasedOnce, ?_, ?_, ?_, ?_⟩
  · intro released member
    exact Nat.lt_succ_of_lt (owned.acquired released member)
  · intro other resource held
    rcases known other resource held with ⟨_, rfl⟩ | ⟨_, before⟩
    · refine ⟨Nat.lt_succ_self _, fun member => ?_⟩
      exact Nat.lt_irrefl _ (owned.acquired _ member)
    · obtain ⟨inRange, unreleased⟩ := owned.held other resource before
      exact ⟨Nat.lt_succ_of_lt inRange, unreleased⟩
  · intro left right resource leftHeld rightHeld
    rcases known left resource leftHeld with ⟨rfl, rfl⟩ | ⟨_, leftBefore⟩
    · rcases known right _ rightHeld with ⟨rfl, _⟩ | ⟨_, rightBefore⟩
      · rfl
      · exact absurd (owned.held _ _ rightBefore).1 (Nat.lt_irrefl _)
    · rcases known right resource rightHeld with ⟨rfl, rfl⟩ | ⟨_, rightBefore⟩
      · exact absurd (owned.held _ _ leftBefore).1 (Nat.lt_irrefl _)
      · exact owned.unique left right resource leftBefore rightBefore
  · intro resource inRange unreleased
    rcases Nat.lt_succ_iff_lt_or_eq.mp inRange with before | rfl
    · obtain ⟨other, held⟩ := owned.covered resource before unreleased
      have different : other ≠ place := by
        intro same
        subst same
        exact absurd (vacant.symm.trans held) (by simp)
      exact ⟨other, by rw [Function.update_of_ne different]; exact held⟩
    · exact ⟨place, Function.update_self _ _ _⟩

/-- A release empties the place the resource was held in. -/
theorem OwnedBy.release (owned : ledger.OwnedBy holds)
    (holding : holds place = some resource) :
    (ledger.release resource).OwnedBy
      (Function.update holds place none) := by
  have known : ∀ other held,
      Function.update holds place none other = some held →
        other ≠ place ∧ holds other = some held := by
    intro other held isHeld
    by_cases same : other = place
    · subst same
      rw [Function.update_self] at isHeld
      cases isHeld
    · rw [Function.update_of_ne same] at isHeld
      exact ⟨same, isHeld⟩
  obtain ⟨inRange, unreleased⟩ := owned.held place resource holding
  refine ⟨List.nodup_cons.mpr ⟨unreleased, owned.releasedOnce⟩, ?_, ?_, ?_,
    ?_⟩
  · intro released member
    rcases List.mem_cons.mp member with rfl | earlier
    · exact inRange
    · exact owned.acquired released earlier
  · intro other held isHeld
    obtain ⟨different, before⟩ := known other held isHeld
    obtain ⟨heldInRange, heldUnreleased⟩ := owned.held other held before
    refine ⟨heldInRange, fun member => ?_⟩
    rcases List.mem_cons.mp member with rfl | earlier
    · exact different (owned.unique other place held before holding)
    · exact heldUnreleased earlier
  · intro left right held leftHeld rightHeld
    exact owned.unique left right held (known left held leftHeld).2
      (known right held rightHeld).2
  · intro other otherInRange otherUnreleased
    simp only [Ledger.release, List.mem_cons, not_or] at otherUnreleased
    obtain ⟨holder, held⟩ :=
      owned.covered other otherInRange otherUnreleased.2
    have different : holder ≠ place := by
      intro same
      subst same
      exact otherUnreleased.1 (Option.some.inj (held.symm.trans holding))
    exact ⟨holder, by rw [Function.update_of_ne different]; exact held⟩

/-- What one action can do to a ledger and to the place it acts on. -/
inductive Turn : Ledger → Option Nat → Ledger → Option Nat → Prop where
  | keep {ledger : Ledger} {held : Option Nat} :
      Turn ledger held ledger held
  | acquire {ledger : Ledger} :
      Turn ledger none ledger.acquire (some ledger.fresh)
  | release {ledger : Ledger} {resource : Nat} :
      Turn ledger (some resource) (ledger.release resource) none

theorem turn_releaseHeld (ledger : Ledger) (held : Option Nat) :
    Turn ledger held (ledger.releaseHeld held) none := by
  cases held with
  | none => exact .keep
  | some resource => exact .release

theorem OwnedBy.turn {after : Ledger} {held : Option Nat}
    (owned : ledger.OwnedBy holds)
    (turned : Turn ledger (holds place) after held) :
    after.OwnedBy (Function.update holds place held) := by
  generalize before : holds place = prior at turned
  cases turned with
  | keep => rwa [← before, Function.update_eq_self]
  | acquire => exact owned.acquire before
  | release => exact owned.release before

/-- What one place holds is handed over to a vacant one. -/
theorem OwnedBy.transfer {source target : Place}
    (owned : ledger.OwnedBy holds) (vacant : holds target = none) :
    ledger.OwnedBy (Function.update
      (Function.update holds target (holds source)) source none) := by
  have known : ∀ other held,
      Function.update (Function.update holds target (holds source)) source
          none other = some held →
        other = target ∧ holds source = some held ∨
          other ≠ source ∧ holds other = some held := by
    intro other held isHeld
    by_cases isSource : other = source
    · subst isSource
      rw [Function.update_self] at isHeld
      cases isHeld
    · rw [Function.update_of_ne isSource] at isHeld
      by_cases isTarget : other = target
      · subst isTarget
        rw [Function.update_self] at isHeld
        exact .inl ⟨rfl, isHeld⟩
      · rw [Function.update_of_ne isTarget] at isHeld
        exact .inr ⟨isSource, isHeld⟩
  refine ⟨owned.releasedOnce, owned.acquired, ?_, ?_, ?_⟩
  · intro other held isHeld
    rcases known other held isHeld with ⟨_, before⟩ | ⟨_, before⟩
    · exact owned.held source held before
    · exact owned.held other held before
  · intro left right held leftHeld rightHeld
    rcases known left held leftHeld with ⟨rfl, leftBefore⟩ |
      ⟨leftElse, leftBefore⟩
    · rcases known right held rightHeld with ⟨rfl, _⟩ |
        ⟨rightElse, rightBefore⟩
      · rfl
      · exact absurd (owned.unique right source held rightBefore leftBefore)
          rightElse
    · rcases known right held rightHeld with ⟨rfl, rightBefore⟩ |
        ⟨_, rightBefore⟩
      · exact absurd (owned.unique left source held leftBefore rightBefore)
          leftElse
      · exact owned.unique left right held leftBefore rightBefore
  · intro resource inRange unreleased
    obtain ⟨holder, held⟩ := owned.covered resource inRange unreleased
    have notTarget : holder ≠ target := by
      intro same
      subst same
      exact absurd (vacant.symm.trans held) (by simp)
    by_cases isSource : holder = source
    · subst isSource
      refine ⟨target, ?_⟩
      rw [Function.update_of_ne (Ne.symm notTarget), Function.update_self]
      exact held
    · refine ⟨holder, ?_⟩
      rw [Function.update_of_ne isSource, Function.update_of_ne notTarget]
      exact held

end Ledger

end LibbpfControl
