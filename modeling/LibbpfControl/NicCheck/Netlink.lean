import Mathlib.Data.List.Basic

/-!
# The netlink socket of the monitor

`drain_netlink` receives datagrams until the socket is empty.  It does not
parse attributes: the only question it answers is whether anything was
consumed after which the interfaces have to be read again.  That is the case
for a message about a link or an address, for a datagram which did not fit
the buffer, and for an overrun of the receive queue, after which the kernel
has dropped datagrams.

The bytes of a datagram are walked with `NLMSG_OK` and `NLMSG_NEXT`.  The
signed length of the source is the length of the bytes that are left here:
where the aligned message length exceeds it the source has a negative length
and the walk has nothing left.

Which outcomes are relevant is said a second time by `ReceiveOutcome.Relevant`,
from the numbers of the netlink protocol alone.
-/

namespace LibbpfControl.NicCheck

/-- `kNetlinkBufferSize`. -/
def netlinkBufferSize : Nat := 8192

/-- `sizeof(struct nlmsghdr)`. -/
def nlmsgHeaderSize : Nat := 16

/-- A little-endian number of `width` bytes, read at `offset`. -/
def readNumber (bytes : List UInt8) (offset width : Nat) : Nat :=
  ((bytes.drop offset).take width).foldr
    (fun byte value => byte.toNat + 256 * value) 0

def nlmsgLen (bytes : List UInt8) : Nat :=
  readNumber bytes 0 4

def nlmsgType (bytes : List UInt8) : Nat :=
  readNumber bytes 4 2

def nlmsgAlign (length : Nat) : Nat :=
  (length + 3) / 4 * 4

/-- `NLMSG_OK` for the header at the start of the bytes which are left. -/
def nlmsgOk (bytes : List UInt8) : Bool :=
  decide (nlmsgHeaderSize ≤ bytes.length) &&
    decide (nlmsgHeaderSize ≤ nlmsgLen bytes) &&
    decide (nlmsgLen bytes ≤ bytes.length)

/-- `NLMSG_NEXT`. -/
def nlmsgNext (bytes : List UInt8) : List UInt8 :=
  bytes.drop (nlmsgAlign (nlmsgLen bytes))

/-- The messages the walk visits, each as the bytes from its header on.
Every message takes at least a header, so the number of bytes bounds their
number. -/
def nlmsgWalk : Nat → List UInt8 → List (List UInt8)
  | 0, _ => []
  | fuel + 1, bytes =>
      if nlmsgOk bytes then bytes :: nlmsgWalk fuel (nlmsgNext bytes) else []

def rtmNewlink : Nat := 16
def rtmDellink : Nat := 17
def rtmNewaddr : Nat := 20
def rtmDeladdr : Nat := 21

/-- The cases of the switch which set `changed`. -/
def changesInterfaces (messageType : Nat) : Bool :=
  messageType == rtmNewlink || messageType == rtmDellink ||
    messageType == rtmNewaddr || messageType == rtmDeladdr

/-- The effect of one datagram on `changed`. -/
def datagramChanges (bytes : List UInt8) : Bool :=
  decide (netlinkBufferSize < bytes.length) ||
    (nlmsgWalk bytes.length bytes).any fun message =>
      changesInterfaces (nlmsgType message)

/-- What `recvmsg` returns to the loop of `drain_netlink`. -/
inductive ReceiveOutcome where
  | interrupted
  | wouldBlock
  | overrun
  | failed
  | empty
  | datagram (bytes : List UInt8)
  deriving DecidableEq, Repr

/-- Whether the receive loop goes on after the outcome. -/
def ReceiveOutcome.continues : ReceiveOutcome → Bool
  | .interrupted => true
  | .overrun => true
  | .datagram _ => true
  | .wouldBlock => false
  | .failed => false
  | .empty => false

/-- Whether the outcome sets `changed`. -/
def ReceiveOutcome.changes : ReceiveOutcome → Bool
  | .overrun => true
  | .datagram bytes => datagramChanges bytes
  | _ => false

def byteAt (bytes : List UInt8) (position : Nat) : Nat :=
  (bytes.getD position 0).toNat

/-- `nlmsg_len` of the header at an offset: four bytes, the lowest first. -/
def nlmsgLenAt (bytes : List UInt8) (header : Nat) : Nat :=
  byteAt bytes header + 256 * byteAt bytes (header + 1) +
    65536 * byteAt bytes (header + 2) + 16777216 * byteAt bytes (header + 3)

/-- `nlmsg_type` of the header at an offset. -/
def nlmsgTypeAt (bytes : List UInt8) (header : Nat) : Nat :=
  byteAt bytes (header + 4) + 256 * byteAt bytes (header + 5)

/-- At least a header remains, and the length it gives covers the header and
does not exceed what remains. -/
structure HeaderFits (bytes : List UInt8) (header : Nat) : Prop where
  remains : header + 16 ≤ bytes.length
  covers : 16 ≤ nlmsgLenAt bytes header
  ends : header + nlmsgLenAt bytes header ≤ bytes.length

/-- The offsets of the messages in the chain which begins at an offset. -/
inductive ChainFrom (bytes : List UInt8) : Nat → Nat → Prop where
  | here {header : Nat} (fits : HeaderFits bytes header) :
      ChainFrom bytes header header
  | next {header message : Nat} (fits : HeaderFits bytes header)
      (later : ChainFrom bytes
        (header + (nlmsgLenAt bytes header + 3) / 4 * 4) message) :
      ChainFrom bytes header message

/-- Some message of the datagram is an `RTM_NEWLINK`, `RTM_DELLINK`,
`RTM_NEWADDR` or `RTM_DELADDR`. -/
def TellsOfInterface (bytes : List UInt8) : Prop :=
  ∃ message, ChainFrom bytes 0 message ∧
    nlmsgTypeAt bytes message ∈ [16, 17, 20, 21]

/-- The interfaces have to be read again: an overrun, a datagram which does
not fit the buffer, or one with a message about a link or an address. -/
def ReceiveOutcome.Relevant : ReceiveOutcome → Prop
  | .overrun => True
  | .datagram bytes => 8192 < bytes.length ∨ TellsOfInterface bytes
  | .interrupted => False
  | .wouldBlock => False
  | .failed => False
  | .empty => False

theorem readNumber_succ (bytes : List UInt8) (offset width : Nat) :
    readNumber bytes offset (width + 1) =
      byteAt bytes offset + 256 * readNumber bytes (offset + 1) width := by
  simp only [readNumber, byteAt, List.getD_eq_getElem?_getD,
    ← List.head?_drop, ← List.tail_drop]
  cases bytes.drop offset with
  | nil => simp
  | cons byte rest => simp

theorem readNumber_len (bytes : List UInt8) (header : Nat) :
    readNumber bytes header 4 = nlmsgLenAt bytes header := by
  rw [readNumber_succ, readNumber_succ, readNumber_succ, readNumber_succ]
  show byteAt bytes header + 256 * (byteAt bytes (header + 1) +
    256 * (byteAt bytes (header + 2) + 256 * (byteAt bytes (header + 3) +
      256 * 0))) = _
  unfold nlmsgLenAt
  omega

theorem readNumber_type (bytes : List UInt8) (header : Nat) :
    readNumber bytes (header + 4) 2 = nlmsgTypeAt bytes header := by
  rw [readNumber_succ, readNumber_succ]
  rfl

theorem readNumber_drop (bytes : List UInt8) (header offset width : Nat) :
    readNumber (bytes.drop header) offset width =
      readNumber bytes (header + offset) width := by
  rw [readNumber, List.drop_drop, readNumber]

theorem le_nlmsgAlign (length : Nat) : length ≤ nlmsgAlign length := by
  unfold nlmsgAlign
  omega

theorem changesInterfaces_iff {messageType : Nat} :
    changesInterfaces messageType = true ↔
      messageType ∈ [16, 17, 20, 21] := by
  simp [changesInterfaces, rtmNewlink, rtmDellink, rtmNewaddr, rtmDeladdr,
    or_assoc]

section Chain

variable {bytes : List UInt8} {header : Nat}

theorem no_chain (none : ¬HeaderFits bytes header) (message : Nat) :
    ¬ChainFrom bytes header message := by
  intro chain
  cases chain with
  | here fits => exact none fits
  | next fits _ => exact none fits

theorem forall_chain_iff {Holds : Nat → Prop}
    (fits : HeaderFits bytes header) :
    (∀ message, ChainFrom bytes header message → Holds message) ↔
      Holds header ∧
        ∀ message,
          ChainFrom bytes (header + nlmsgAlign (nlmsgLenAt bytes header))
            message → Holds message := by
  constructor
  · intro all
    exact ⟨all header (.here fits),
      fun message chain => all message (.next fits chain)⟩
  · rintro ⟨first, others⟩ message chain
    cases chain with
    | here => exact first
    | next _ later => exact others message later

theorem exists_chain_iff {Holds : Nat → Prop}
    (fits : HeaderFits bytes header) :
    (∃ message, ChainFrom bytes header message ∧ Holds message) ↔
      Holds header ∨
        ∃ message,
          ChainFrom bytes (header + nlmsgAlign (nlmsgLenAt bytes header))
            message ∧ Holds message := by
  constructor
  · rintro ⟨message, chain, holds⟩
    cases chain with
    | here => exact .inl holds
    | next _ later => exact .inr ⟨message, later, holds⟩
  · rintro (first | ⟨message, chain, holds⟩)
    · exact ⟨header, .here fits, first⟩
    · exact ⟨message, .next fits chain, holds⟩

theorem nlmsgOk_drop_iff :
    nlmsgOk (bytes.drop header) = true ↔ HeaderFits bytes header := by
  have lenRead : nlmsgLen (bytes.drop header) = nlmsgLenAt bytes header :=
    (readNumber_drop bytes header 0 4).trans (readNumber_len bytes header)
  simp only [nlmsgOk, lenRead, List.length_drop, Bool.and_eq_true,
    decide_eq_true_eq, nlmsgHeaderSize]
  constructor
  · rintro ⟨⟨remains, covers⟩, ends⟩
    exact ⟨by omega, covers, by omega⟩
  · rintro ⟨remains, covers, ends⟩
    exact ⟨⟨by omega, covers⟩, by omega⟩

/-- The walk visits the messages of the chain. -/
theorem nlmsgWalk_changes (fuel : Nat)
    (enough : bytes.length ≤ header + fuel) :
    (nlmsgWalk fuel (bytes.drop header)).any
        (fun message => changesInterfaces (nlmsgType message)) = true ↔
      ∃ message, ChainFrom bytes header message ∧
        nlmsgTypeAt bytes message ∈ [16, 17, 20, 21] := by
  induction fuel generalizing header with
  | zero =>
      have none : ¬HeaderFits bytes header := by
        rintro ⟨remains, _, _⟩
        omega
      simp [nlmsgWalk, no_chain none]
  | succ fuel induction =>
      by_cases fits : HeaderFits bytes header
      · have typeRead : nlmsgType (bytes.drop header) =
            nlmsgTypeAt bytes header :=
          (readNumber_drop bytes header 4 2).trans
            (readNumber_type bytes header)
        have advanced : nlmsgNext (bytes.drop header) = bytes.drop
            (header + nlmsgAlign (nlmsgLenAt bytes header)) := by
          rw [nlmsgNext, List.drop_drop, nlmsgLen, readNumber_drop,
            Nat.add_zero, readNumber_len]
        have fewer : bytes.length ≤
            header + nlmsgAlign (nlmsgLenAt bytes header) + fuel := by
          have covers := fits.covers
          have aligned := le_nlmsgAlign (nlmsgLenAt bytes header)
          omega
        rw [nlmsgWalk, if_pos (nlmsgOk_drop_iff.mpr fits), List.any_cons,
          Bool.or_eq_true, typeRead, advanced, induction fewer,
          changesInterfaces_iff, exists_chain_iff fits]
      · have stopped : ¬nlmsgOk (bytes.drop header) = true :=
          fun accepted => fits (nlmsgOk_drop_iff.mp accepted)
        simp [nlmsgWalk, stopped, no_chain fits]

end Chain

theorem datagramChanges_iff {bytes : List UInt8} :
    datagramChanges bytes = true ↔
      8192 < bytes.length ∨ TellsOfInterface bytes := by
  have enough : bytes.length ≤ 0 + bytes.length :=
    Nat.le_of_eq (Nat.zero_add bytes.length).symm
  have walked := nlmsgWalk_changes bytes.length enough
  rw [List.drop_zero] at walked
  rw [datagramChanges, Bool.or_eq_true, walked, decide_eq_true_eq]
  rfl

/-- The code takes exactly the relevant outcomes for a change. -/
theorem ReceiveOutcome.changes_iff {outcome : ReceiveOutcome} :
    outcome.changes = true ↔ outcome.Relevant := by
  cases outcome with
  | overrun => simp [changes, Relevant]
  | datagram bytes => exact datagramChanges_iff
  | interrupted => simp [changes, Relevant]
  | wouldBlock => simp [changes, Relevant]
  | failed => simp [changes, Relevant]
  | empty => simp [changes, Relevant]

/-- The kernel's side of the socket.  `overrun` is the pending `ENOBUFS`;
`broken` stands for every other condition which `poll` reports as an error
or a hang-up. -/
structure NetlinkSocket where
  queue : List (List UInt8)
  overrun : Bool
  broken : Bool
  deriving DecidableEq, Repr

def NetlinkSocket.fresh : NetlinkSocket where
  queue := []
  overrun := false
  broken := false

/-- A pending error is returned before any queued datagram, and only once. -/
def NetlinkSocket.recvmsg (socket : NetlinkSocket) :
    NetlinkSocket × ReceiveOutcome :=
  if socket.overrun then ({ socket with overrun := false }, .overrun)
  else
    match socket.queue with
    | [] => (socket, .wouldBlock)
    | bytes :: rest =>
        ({ socket with queue := rest },
          if bytes = [] then .empty else .datagram bytes)

/-- After a `recvmsg` no error is pending. -/
theorem NetlinkSocket.recvmsg_overrun (socket : NetlinkSocket) :
    socket.recvmsg.1.overrun = false := by
  unfold recvmsg
  split
  · rfl
  · rename_i clear
    have noError : socket.overrun = false := eq_false_of_ne_true clear
    split
    · exact noError
    · exact noError

theorem NetlinkSocket.recvmsg_broken (socket : NetlinkSocket) :
    socket.recvmsg.1.broken = socket.broken := by
  unfold recvmsg
  split
  · rfl
  · split
    · rfl
    · rfl

/-- A pending overrun makes the receive loop report a change. -/
theorem NetlinkSocket.recvmsg_of_overrun {socket : NetlinkSocket}
    (pending : socket.overrun = true) :
    socket.recvmsg.2 = .overrun := by
  simp [recvmsg, pending]

end LibbpfControl.NicCheck
