import Mathlib.Data.List.Basic
import Mathlib.Logic.Function.Basic

/-!
# Queues of reserved slots

Several writers share a queue with one reader.  A writer reserves a slot at
the end, fills it on its own and commits it; the reader takes committed slots
from the front and stops at one which is still reserved.  Slots are numbered
in the order of their reservation, so the reader sees the entries in that
order however the commits are interleaved.

`Carries` relates a queue to the list of everything it was ever meant to
carry.  `Reserved` says that a slot waits for its writer, and `Writers` that
each such slot has exactly one.
-/

namespace LibbpfControl

structure SlotQueue (Entry : Type) where
  /-- The number of slots which were taken. -/
  consumed : Nat
  /-- The slots which follow; one which is only reserved has no entry. -/
  slots : List (Option Entry)
  deriving DecidableEq, Repr

namespace SlotQueue

variable {Entry Item : Type}

def empty : SlotQueue Entry where
  consumed := 0
  slots := []

/-- The number of the slot which is reserved next. -/
def next (queue : SlotQueue Entry) : Nat :=
  queue.consumed + queue.slots.length

def reserve (queue : SlotQueue Entry) : SlotQueue Entry :=
  { queue with slots := queue.slots ++ [none] }

def commit (queue : SlotQueue Entry) (number : Nat) (entry : Entry) :
    SlotQueue Entry :=
  { queue with
    slots := queue.slots.set (number - queue.consumed) (some entry) }

/-- The entry which the reader finds. -/
def front (queue : SlotQueue Entry) : Option Entry :=
  queue.slots.head?.join

def consume (queue : SlotQueue Entry) : SlotQueue Entry where
  consumed := queue.consumed + 1
  slots := queue.slots.tail

/-- The slot waits for the writer which has reserved it. -/
structure Reserved (queue : SlotQueue Entry) (number : Nat) : Prop where
  ahead : queue.consumed ≤ number
  vacant : queue.slots[number - queue.consumed]? = some none

/-- The queue carries the items in their order: what is committed in a slot
represents the item of that number. -/
structure Carries (represents : Item → Entry → Prop) (items : List Item)
    (queue : SlotQueue Entry) : Prop where
  length : items.length = queue.next
  committed : ∀ place entry, queue.slots[place]? = some (some entry) →
    ∃ item, items[queue.consumed + place]? = some item ∧
      represents item entry

/-- Each reserved slot is held by one writer, and a writer holds at most the
slot of its ticket. -/
structure Writers {Writer : Type} (ticket : Writer → Option Nat)
    (queue : SlotQueue Entry) : Prop where
  reserved : ∀ writer number, ticket writer = some number →
    queue.Reserved number
  apart : ∀ first second number, ticket first = some number →
    ticket second = some number → first = second
  claimed : ∀ number, queue.Reserved number →
    ∃ writer, ticket writer = some number

/-- What is left to do: each slot is taken once, a reserved one is committed
before. -/
def work (queue : SlotQueue Entry) : Nat :=
  queue.slots.length + queue.slots.countP Option.isNone

section Reservations

variable {queue : SlotQueue Entry} {number other : Nat} {entry : Entry}

theorem Reserved.lt_next (reserved : queue.Reserved number) :
    number < queue.next := by
  obtain ⟨inside, _⟩ := List.getElem?_eq_some_iff.mp reserved.vacant
  have ahead := reserved.ahead
  simp only [next]
  omega

theorem reserved_reserve_iff :
    queue.reserve.Reserved number ↔
      queue.Reserved number ∨ number = queue.next := by
  constructor
  · rintro ⟨ahead, vacant⟩
    simp only [reserve, List.getElem?_append] at ahead vacant
    split at vacant
    · exact .inl ⟨ahead, vacant⟩
    · right
      obtain ⟨inside, _⟩ := List.getElem?_eq_some_iff.mp vacant
      simp only [List.length_singleton] at inside
      simp only [next]
      omega
  · rintro (reserved | rfl)
    · refine ⟨reserved.ahead, ?_⟩
      obtain ⟨inside, _⟩ := List.getElem?_eq_some_iff.mp reserved.vacant
      rw [reserve, List.getElem?_append_left inside]
      exact reserved.vacant
    · refine ⟨Nat.le_add_right _ _, ?_⟩
      simp [reserve, next]

theorem reserved_commit_iff (mine : queue.Reserved number) :
    (queue.commit number entry).Reserved other ↔
      queue.Reserved other ∧ other ≠ number := by
  have mineAhead := mine.ahead
  constructor
  · rintro ⟨ahead, vacant⟩
    simp only [commit, List.getElem?_set] at ahead vacant
    split at vacant
    · simp at vacant
    · rename_i apart
      exact ⟨⟨ahead, vacant⟩, fun same => apart (by rw [same])⟩
  · rintro ⟨⟨ahead, vacant⟩, different⟩
    have apart : number - queue.consumed ≠ other - queue.consumed := by
      omega
    refine ⟨ahead, ?_⟩
    rw [commit, List.getElem?_set_ne apart]
    exact vacant

/-- The reader finds an entry exactly in a first slot which is committed. -/
theorem slots_of_front (found : queue.front = some entry) :
    ∃ rest, queue.slots = some entry :: rest := by
  cases slots : queue.slots with
  | nil => simp [front, slots] at found
  | cons first rest =>
      have same : first = some entry := by
        simpa [front, slots] using found
      exact ⟨rest, by rw [same]⟩

theorem reserved_consume_iff (found : queue.front = some entry) :
    queue.consume.Reserved number ↔ queue.Reserved number := by
  obtain ⟨rest, slots⟩ := slots_of_front found
  constructor
  · rintro ⟨ahead, vacant⟩
    simp only [consume, slots, List.tail_cons] at ahead vacant
    have later : number - queue.consumed =
        number - (queue.consumed + 1) + 1 := by
      omega
    refine ⟨Nat.le_of_succ_le ahead, ?_⟩
    rw [slots, later, List.getElem?_cons_succ]
    exact vacant
  · rintro ⟨ahead, vacant⟩
    rw [slots] at vacant
    cases offset : number - queue.consumed with
    | zero => simp [offset] at vacant
    | succ place =>
        rw [offset, List.getElem?_cons_succ] at vacant
        have before : number - (queue.consumed + 1) = place := by
          omega
        refine ⟨Nat.lt_of_sub_eq_succ offset, ?_⟩
        simp only [consume, slots, List.tail_cons, before]
        exact vacant

/-- The reader finds nothing in an empty queue and before a reserved slot. -/
theorem reserved_of_front_eq_none (waits : queue.front = none)
    (filled : queue.slots ≠ []) : queue.Reserved queue.consumed := by
  refine ⟨Nat.le_refl _, ?_⟩
  cases slots : queue.slots with
  | nil => exact absurd slots filled
  | cons first rest =>
      have vacant : first = none := by
        simpa [front, slots] using waits
      simp [vacant]

theorem work_commit (mine : queue.Reserved number) :
    (queue.commit number entry).work < queue.work := by
  obtain ⟨inside, vacant⟩ := List.getElem?_eq_some_iff.mp mine.vacant
  have present : 0 < queue.slots.countP Option.isNone :=
    List.countP_pos_iff.mpr ⟨none, vacant ▸ List.getElem_mem inside, rfl⟩
  simp only [work, commit, List.length_set, List.countP_set inside, vacant,
    Option.isNone_none, Option.isNone_some, if_true, Bool.false_eq_true,
    if_false]
  omega

theorem work_consume (found : queue.front = some entry) :
    queue.consume.work < queue.work := by
  obtain ⟨rest, slots⟩ := slots_of_front found
  simp [work, consume, slots]

end Reservations

namespace Writers

variable {Writer : Type} {ticket : Writer → Option Nat}
  {queue : SlotQueue Entry} {entry : Entry}

theorem empty : Writers (fun _ : Writer => none)
    (SlotQueue.empty : SlotQueue Entry) where
  reserved _ _ held := nomatch held
  apart _ _ _ held := nomatch held
  claimed number reserved := by
    simpa [SlotQueue.empty] using reserved.vacant

variable [DecidableEq Writer] (writers : Writers ticket queue)
include writers

/-- A writer takes the next slot. -/
theorem reserve {writer : Writer} (idle : ticket writer = none) :
    Writers (Function.update ticket writer (some queue.next))
      queue.reserve := by
  have fresh : ∀ other, ticket other ≠ some queue.next := fun other held =>
    Nat.lt_irrefl _ (writers.reserved other _ held).lt_next
  constructor
  case reserved =>
    intro other number held
    apply reserved_reserve_iff.mpr
    by_cases same : other = writer
    · subst same
      rw [Function.update_self] at held
      exact .inr (Option.some.inj held).symm
    · rw [Function.update_of_ne same] at held
      exact .inl (writers.reserved other number held)
  case apart =>
    intro first second number firstHeld secondHeld
    by_cases isFirst : first = writer
    · by_cases isSecond : second = writer
      · rw [isFirst, isSecond]
      · rw [isFirst, Function.update_self] at firstHeld
        rw [Function.update_of_ne isSecond, ← firstHeld] at secondHeld
        exact absurd secondHeld (fresh second)
    · rw [Function.update_of_ne isFirst] at firstHeld
      by_cases isSecond : second = writer
      · rw [isSecond, Function.update_self] at secondHeld
        rw [← secondHeld] at firstHeld
        exact absurd firstHeld (fresh first)
      · rw [Function.update_of_ne isSecond] at secondHeld
        exact writers.apart first second number firstHeld secondHeld
  case claimed =>
    intro number reserved
    rcases reserved_reserve_iff.mp reserved with before | rfl
    · obtain ⟨other, held⟩ := writers.claimed number before
      refine ⟨other, ?_⟩
      rw [Function.update_of_ne, held]
      rintro rfl
      rw [idle] at held
      cases held
    · exact ⟨writer, Function.update_self ..⟩

/-- A writer commits the slot it holds. -/
theorem commit {writer : Writer} {number : Nat}
    (mine : ticket writer = some number) :
    Writers (Function.update ticket writer none)
      (queue.commit number entry) := by
  have reserved := writers.reserved writer number mine
  -- A ticket which is left belongs to another writer and another slot.
  have left : ∀ {other held},
      Function.update ticket writer none other = some held →
      other ≠ writer ∧ ticket other = some held := by
    intro other held ticketed
    by_cases same : other = writer
    · rw [same, Function.update_self] at ticketed
      cases ticketed
    · rw [Function.update_of_ne same] at ticketed
      exact ⟨same, ticketed⟩
  constructor
  case reserved =>
    intro other held ticketed
    obtain ⟨different, before⟩ := left ticketed
    apply (reserved_commit_iff reserved).mpr
    refine ⟨writers.reserved other held before, ?_⟩
    rintro rfl
    exact different (writers.apart other writer held before mine)
  case apart =>
    intro first second held firstHeld secondHeld
    exact writers.apart first second held (left firstHeld).2
      (left secondHeld).2
  case claimed =>
    intro held stillReserved
    obtain ⟨before, different⟩ :=
      (reserved_commit_iff reserved).mp stillReserved
    obtain ⟨other, ticketed⟩ := writers.claimed held before
    refine ⟨other, ?_⟩
    rw [Function.update_of_ne, ticketed]
    rintro rfl
    rw [mine] at ticketed
    exact different (Option.some.inj ticketed).symm

omit [DecidableEq Writer] in
theorem consume (found : queue.front = some entry) :
    Writers ticket queue.consume where
  reserved writer number held :=
    (reserved_consume_iff found).mpr (writers.reserved writer number held)
  apart := writers.apart
  claimed number reserved :=
    writers.claimed number ((reserved_consume_iff found).mp reserved)

end Writers

namespace Carries

variable {represents : Item → Entry → Prop} {items : List Item}
  {queue : SlotQueue Entry} {number : Nat} {entry : Entry}

theorem empty :
    Carries represents ([] : List Item)
      (SlotQueue.empty : SlotQueue Entry) where
  length := rfl
  committed := by
    simp [SlotQueue.empty]

variable (carries : Carries represents items queue)
include carries

/-- The item for which a slot is reserved comes last. -/
theorem reserve (item : Item) :
    Carries represents (items ++ [item]) queue.reserve := by
  constructor
  case length =>
    simp only [List.length_append, carries.length, SlotQueue.reserve, next,
      List.length_singleton]
    omega
  case committed =>
    intro place entry found
    simp only [SlotQueue.reserve, List.getElem?_append] at found
    split at found
    · obtain ⟨present, same, represented⟩ :=
        carries.committed place entry found
      refine ⟨present, ?_, represented⟩
      obtain ⟨inside, _⟩ := List.getElem?_eq_some_iff.mp same
      exact (List.getElem?_append_left inside).trans same
    · obtain ⟨inside, vacant⟩ := List.getElem?_eq_some_iff.mp found
      simp at vacant

/-- A writer commits the item for which it has reserved. -/
theorem commit (reserved : queue.Reserved number) {item : Item}
    (found : items[number]? = some item)
    (represented : represents item entry) :
    Carries represents items (queue.commit number entry) := by
  constructor
  case length =>
    simp only [carries.length, SlotQueue.commit, next, List.length_set]
  case committed =>
    intro place other stands
    simp only [SlotQueue.commit, List.getElem?_set] at stands
    split at stands
    · rename_i same
      subst same
      simp only [Option.ite_none_right_eq_some, Option.some.injEq] at stands
      obtain ⟨_, rfl⟩ := stands
      refine ⟨item, ?_, represented⟩
      simp only [SlotQueue.commit, Nat.add_sub_cancel' reserved.ahead]
      exact found
    · exact carries.committed place other stands

/-- The reader takes the oldest item which was not taken. -/
theorem front (found : queue.front = some entry) :
    ∃ item, items[queue.consumed]? = some item ∧ represents item entry := by
  obtain ⟨rest, slots⟩ := slots_of_front found
  apply carries.committed 0 entry
  rw [slots, List.getElem?_cons_zero]

theorem consume (found : queue.front = some entry) :
    Carries represents items queue.consume := by
  obtain ⟨rest, slots⟩ := slots_of_front found
  constructor
  case length =>
    rw [carries.length]
    simp only [next, SlotQueue.consume, slots, List.length_cons,
      List.tail_cons]
    omega
  case committed =>
    intro place other stands
    simp only [SlotQueue.consume, slots, List.tail_cons] at stands
    obtain ⟨item, same, represented⟩ :=
      carries.committed (place + 1) other (by
        rw [slots, List.getElem?_cons_succ]
        exact stands)
    refine ⟨item, ?_, represented⟩
    rw [← same, SlotQueue.consume, Nat.add_assoc, Nat.add_comm 1 place]

end Carries

end SlotQueue

end LibbpfControl
