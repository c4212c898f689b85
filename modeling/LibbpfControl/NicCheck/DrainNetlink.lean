import LibbpfControl.NicCheck.Monitor

/-!
# Draining the netlink socket

`drain_netlink` as the source has it: results of `recvmsg` with their error
numbers, one stack buffer which keeps the bytes of earlier datagrams, and the
walk over its messages with an offset and a signed length.  The walk records
every field it reads.

The walk visits exactly the messages of `ChainFrom`, whatever the buffer held
before.  Its reads stay inside the datagram as long as every error message is
long enough for the error code that is read from it, which `NLMSG_OK` does
not check.
-/

namespace LibbpfControl.NicCheck

/-- What lies behind the datagram does not change a number inside it. -/
theorem readNumber_append {bytes : List UInt8} {offset width : Nat}
    (rest : List UInt8) (inside : offset + width ≤ bytes.length) :
    readNumber (bytes ++ rest) offset width = readNumber bytes offset width := by
  have taken : ((bytes ++ rest).drop offset).take width =
      (bytes.drop offset).take width := by
    rw [List.drop_append_of_le_length (by omega),
      List.take_append_of_le_length (by rw [List.length_drop]; omega)]
  rw [readNumber, taken, readNumber]

def nlmsgError : Nat := 2

/-- A read of the walk: the header of the message it belongs to, how many
bytes that message has, and the bytes of the message which are read. -/
structure FieldRead where
  header : Nat
  extent : Nat
  offset : Nat
  width : Nat
  deriving DecidableEq, Repr

/-- The read stays within the received bytes and within its message. -/
def FieldRead.Within (received : Nat) (read : FieldRead) : Prop :=
  read.header + read.offset + read.width ≤ received ∧
    read.offset + read.width ≤ read.extent

instance (received : Nat) (read : FieldRead) :
    Decidable (read.Within received) :=
  inferInstanceAs (Decidable (_ ∧ _))

structure Walk where
  changed : Bool
  reads : List FieldRead
  deriving DecidableEq, Repr

/-- The body of the loop: the type is read for the switch, and `error` for an
error message. -/
def Walk.visit (walk : Walk) (header messageLen messageType : Nat) :
    Walk where
  changed := walk.changed || changesInterfaces messageType
  reads :=
    walk.reads ++ [⟨header, messageLen, 4, 2⟩] ++
      (if messageType = nlmsgError then
        [⟨header, messageLen, nlmsgHeaderSize, 4⟩]
      else [])

/-- `NLMSG_OK` and `NLMSG_NEXT` both read `nlmsg_len`.  A header which is not
accepted has no message; its own bytes are what the read belongs to. -/
def walkMessages (buffer : List UInt8) :
    Nat → Nat → Int → Walk → Option Walk
  | 0, _, _, _ => none
  | fuel + 1, header, length, walk =>
      if length < nlmsgHeaderSize then some walk
      else
        let messageLen := readNumber buffer header 4
        if nlmsgHeaderSize ≤ messageLen ∧ (messageLen : Int) ≤ length then
          let read : FieldRead := ⟨header, messageLen, 0, 4⟩
          let visited :=
            Walk.visit { walk with reads := walk.reads ++ [read] } header
              messageLen (readNumber buffer (header + 4) 2)
          walkMessages buffer fuel (header + nlmsgAlign messageLen)
            (length - nlmsgAlign messageLen)
            { visited with reads := visited.reads ++ [read] }
        else
          some { walk with
            reads := walk.reads ++ [⟨header, nlmsgHeaderSize, 0, 4⟩] }

section WalkResult

variable {bytes rest : List UInt8} {header : Nat}

/-- The walk accepts a header exactly when it fits the datagram. -/
theorem accepts_iff (rest : List UInt8)
    (remains : ¬((bytes.length : Int) - header < nlmsgHeaderSize)) :
    (nlmsgHeaderSize ≤ readNumber (bytes ++ rest) header 4 ∧
        (readNumber (bytes ++ rest) header 4 : Int) ≤
          bytes.length - header) ↔
      HeaderFits bytes header := by
  unfold nlmsgHeaderSize at *
  have inside : header + 16 ≤ bytes.length := by omega
  rw [readNumber_append rest (by omega), readNumber_len]
  constructor
  · rintro ⟨covers, ends⟩
    exact ⟨inside, covers, by omega⟩
  · intro fits
    refine ⟨fits.covers, ?_⟩
    have ends := fits.ends
    omega

theorem read_len (fits : HeaderFits bytes header) :
    readNumber (bytes ++ rest) header 4 = nlmsgLenAt bytes header := by
  have remains := fits.remains
  rw [readNumber_append rest (by omega), readNumber_len]

theorem read_type (fits : HeaderFits bytes header) :
    readNumber (bytes ++ rest) (header + 4) 2 =
      nlmsgTypeAt bytes header := by
  have remains := fits.remains
  rw [readNumber_append rest (by omega), readNumber_type]

/-- The message carries the whole error code, if it is an error message. -/
def ErrorFits (bytes : List UInt8) (message : Nat) : Prop :=
  nlmsgTypeAt bytes message = nlmsgError →
    nlmsgHeaderSize + 4 ≤ nlmsgLenAt bytes message

/-- The walk after the message at a header. -/
def Walk.past (walk : Walk) (bytes : List UInt8) (header : Nat) : Walk :=
  let read : FieldRead := ⟨header, nlmsgLenAt bytes header, 0, 4⟩
  let visited :=
    Walk.visit { walk with reads := walk.reads ++ [read] } header
      (nlmsgLenAt bytes header) (nlmsgTypeAt bytes header)
  { visited with reads := visited.reads ++ [read] }

theorem past_changed (walk : Walk) :
    (walk.past bytes header).changed =
      (walk.changed || changesInterfaces (nlmsgTypeAt bytes header)) :=
  rfl

/-- Every field of an accepted message lies in it, the error code only if the
message is long enough. -/
theorem past_within (walk : Walk) (fits : HeaderFits bytes header) :
    (∀ read ∈ (walk.past bytes header).reads, read.Within bytes.length) ↔
      (∀ read ∈ walk.reads, read.Within bytes.length) ∧
        ErrorFits bytes header := by
  obtain ⟨remains, covers, ends⟩ := fits
  have lenWithin : FieldRead.Within bytes.length
      ⟨header, nlmsgLenAt bytes header, 0, 4⟩ := by
    constructor <;> simp only <;> omega
  have typeWithin : FieldRead.Within bytes.length
      ⟨header, nlmsgLenAt bytes header, 4, 2⟩ := by
    constructor <;> simp only <;> omega
  have errorWithin : FieldRead.Within bytes.length
      ⟨header, nlmsgLenAt bytes header, nlmsgHeaderSize, 4⟩ ↔
        nlmsgHeaderSize + 4 ≤ nlmsgLenAt bytes header := by
    constructor
    · intro within
      exact within.2
    · intro enough
      exact ⟨by simp only; omega, enough⟩
  by_cases isError : nlmsgTypeAt bytes header = nlmsgError
  · simp [Walk.past, Walk.visit, ErrorFits, isError, lenWithin, typeWithin,
      errorWithin, or_imp, forall_and]
  · simp [Walk.past, Walk.visit, ErrorFits, isError, lenWithin, typeWithin,
      or_imp, forall_and]

theorem walkMessages_short {walk : Walk} {fuel : Nat}
    (short : (bytes.length : Int) - header < nlmsgHeaderSize) :
    walkMessages (bytes ++ rest) (fuel + 1) header (bytes.length - header)
      walk = some walk := by
  simp only [walkMessages, short, if_true]

theorem walkMessages_rejected {walk : Walk} {fuel : Nat}
    (remains : ¬((bytes.length : Int) - header < nlmsgHeaderSize))
    (rejected : ¬HeaderFits bytes header) :
    walkMessages (bytes ++ rest) (fuel + 1) header (bytes.length - header)
      walk = some { walk with
        reads := walk.reads ++ [⟨header, nlmsgHeaderSize, 0, 4⟩] } := by
  simp only [walkMessages, remains, if_false,
    if_neg (fun accepted => rejected ((accepts_iff rest remains).mp accepted))]

theorem walkMessages_accepted {walk : Walk} {fuel : Nat}
    (fits : HeaderFits bytes header) :
    walkMessages (bytes ++ rest) (fuel + 1) header (bytes.length - header)
      walk =
      walkMessages (bytes ++ rest) fuel
        (header + nlmsgAlign (nlmsgLenAt bytes header))
        (bytes.length -
          (header + nlmsgAlign (nlmsgLenAt bytes header) : Nat))
        (walk.past bytes header) := by
  have remains : ¬((bytes.length : Int) - header < nlmsgHeaderSize) := by
    have := fits.remains
    unfold nlmsgHeaderSize
    omega
  have shorter : (bytes.length : Int) - header -
        (nlmsgAlign (nlmsgLenAt bytes header) : Nat) =
      bytes.length -
        (header + nlmsgAlign (nlmsgLenAt bytes header) : Nat) := by
    omega
  have accepted := (accepts_iff rest remains).mpr fits
  rw [read_len fits] at accepted
  simp only [walkMessages, remains, if_false, read_len fits,
    if_pos accepted, read_type fits, shorter, Walk.past]

/-- What the walk from a header on adds to what it has found. -/
structure Found (bytes : List UInt8) (header : Nat) (walk result : Walk) :
    Prop where
  changed : result.changed = true ↔
    walk.changed = true ∨ ∃ message, ChainFrom bytes header message ∧
      nlmsgTypeAt bytes message ∈ [16, 17, 20, 21]
  within : (∀ read ∈ result.reads, read.Within bytes.length) ↔
    (∀ read ∈ walk.reads, read.Within bytes.length) ∧
      ∀ message, ChainFrom bytes header message → ErrorFits bytes message

theorem found_of_no_message {walk result : Walk}
    (none : ¬HeaderFits bytes header)
    (changed : result.changed = walk.changed)
    (within : (∀ read ∈ result.reads, read.Within bytes.length) ↔
      ∀ read ∈ walk.reads, read.Within bytes.length) :
    Found bytes header walk result := by
  constructor
  · simp [changed, no_chain none]
  · simp [within, no_chain none]

theorem found_of_message {walk result : Walk}
    (fits : HeaderFits bytes header)
    (later : Found bytes (header + nlmsgAlign (nlmsgLenAt bytes header))
      (walk.past bytes header) result) :
    Found bytes header walk result := by
  constructor
  · rw [later.changed, past_changed, Bool.or_eq_true, or_assoc,
      changesInterfaces_iff, exists_chain_iff fits]
  · rw [later.within, past_within walk fits, and_assoc,
      forall_chain_iff fits]

theorem walkMessages_ends (walk : Walk) (none : ¬HeaderFits bytes header) :
    ∃ result, Found bytes header walk result ∧
      ∀ fuel,
        walkMessages (bytes ++ rest) (fuel + 1) header
          (bytes.length - header) walk = some result := by
  by_cases short : (bytes.length : Int) - header < nlmsgHeaderSize
  · exact ⟨walk, found_of_no_message none rfl Iff.rfl,
      fun _ => walkMessages_short short⟩
  · refine ⟨_, found_of_no_message none ?_ ?_,
      fun _ => walkMessages_rejected short none⟩
    · rfl
    · have within : FieldRead.Within bytes.length
          ⟨header, nlmsgHeaderSize, 0, 4⟩ := by
        unfold nlmsgHeaderSize at *
        constructor <;> simp only <;> omega
      simp [within, or_imp, forall_and]

/-- The walk ends: a header and its successor are at least the size of a
header apart, so there are no more messages than fit in what remains. -/
theorem walkMessages_found (messages : Nat) (walk : Walk)
    (bound : (bytes.length - header) / nlmsgHeaderSize ≤ messages) :
    ∃ result, Found bytes header walk result ∧
      ∀ fuel, messages < fuel →
        walkMessages (bytes ++ rest) fuel header (bytes.length - header)
          walk = some result := by
  induction messages generalizing header walk with
  | zero =>
      have none : ¬HeaderFits bytes header := by
        rintro ⟨remains, _, _⟩
        unfold nlmsgHeaderSize at *
        omega
      obtain ⟨result, found, returns⟩ := walkMessages_ends walk none
      refine ⟨result, found, ?_⟩
      rintro (_ | fuel) enough
      · cases enough
      · exact returns fuel
  | succ messages induction =>
      by_cases fits : HeaderFits bytes header
      · have fewer : (bytes.length -
              (header + nlmsgAlign (nlmsgLenAt bytes header))) /
            nlmsgHeaderSize ≤ messages := by
          have remains := fits.remains
          have covers := fits.covers
          have aligned := le_nlmsgAlign (nlmsgLenAt bytes header)
          unfold nlmsgHeaderSize at *
          omega
        obtain ⟨result, found, returns⟩ :=
          induction (walk.past bytes header) fewer
        refine ⟨result, found_of_message fits found, ?_⟩
        rintro (_ | fuel) enough
        · cases enough
        · rw [walkMessages_accepted fits]
          exact returns fuel (Nat.lt_of_succ_lt_succ enough)
      · obtain ⟨result, found, returns⟩ := walkMessages_ends walk fits
        refine ⟨result, found, ?_⟩
        rintro (_ | fuel) enough
        · cases enough
        · exact returns fuel

end WalkResult

/-- What `recvmsg` has written to the buffer; `truncated` is the flag of the
message header. -/
structure Received where
  bytes : List UInt8
  fits : bytes.length ≤ 8192
  truncated : Bool
  deriving DecidableEq

/-- Room for the messages of a datagram, and for the test which ends the
walk. -/
def Received.rounds (received : Received) : Nat :=
  received.bytes.length / nlmsgHeaderSize + 1

theorem Received.walk_found (received : Received) (stale : List UInt8)
    (walk : Walk) :
    ∃ result, Found received.bytes 0 walk result ∧
      ∀ fuel, received.rounds ≤ fuel →
        walkMessages (received.bytes ++ stale) fuel 0 received.bytes.length
          walk = some result := by
  have bound : (received.bytes.length - 0) / nlmsgHeaderSize ≤
      received.bytes.length / nlmsgHeaderSize := Nat.le_refl _
  obtain ⟨result, found, returns⟩ := walkMessages_found _ walk bound
  refine ⟨result, found, ?_⟩
  intro fuel enough
  have returned := returns fuel enough
  rwa [Int.natCast_zero, Int.sub_zero] at returned

/-- The walk ends.  Its reads stay inside the received bytes and inside their
messages exactly when every error message of the datagram is long enough for
the error code. -/
theorem walk_reads_within_iff (received : Received) (stale : List UInt8) :
    ∃ walk,
      (∀ fuel, received.bytes.length / nlmsgHeaderSize < fuel →
        walkMessages (received.bytes ++ stale) fuel 0 received.bytes.length
          ⟨false, []⟩ = some walk) ∧
      ((∀ read ∈ walk.reads, read.Within received.bytes.length) ↔
        ∀ message, ChainFrom received.bytes 0 message →
          nlmsgTypeAt received.bytes message = nlmsgError →
          nlmsgHeaderSize + 4 ≤ nlmsgLenAt received.bytes message) := by
  obtain ⟨walk, found, returns⟩ := received.walk_found stale ⟨false, []⟩
  refine ⟨walk, returns, found.within.trans ?_⟩
  simp only [List.not_mem_nil, false_implies, implies_true, true_and,
    ErrorFits]

/-- An error message which is nothing but its header. -/
def bareError : Received where
  bytes := [16, 0, 0, 0, 2, 0, 0, 0, 0, 0, 0, 0, 0, 0, 0, 0]
  fits := by decide
  truncated := false

/-- Sixteen bytes are received and the bytes 16 to 19 are read. -/
theorem bareError_reads_stale :
    ∃ walk,
      walkMessages bareError.bytes 2 0 bareError.bytes.length ⟨false, []⟩ =
        some walk ∧
      (⟨0, 16, 16, 4⟩ : FieldRead) ∈ walk.reads ∧
      ¬(⟨0, 16, 16, 4⟩ : FieldRead).Within bareError.bytes.length :=
  ⟨_, rfl, by decide, by decide⟩

def eINTR : Int := 4
def eAGAIN : Int := 11
def eWOULDBLOCK : Int := 11
def eNOBUFS : Int := 105

inductive RecvResult where
  | error (errorNumber : Int)
  | received (received : Received)
  deriving DecidableEq

/-- The variables of `drain_netlink` which live across its rounds, and
`last_error_`. -/
structure Drain where
  changed : Bool
  lastError : InterfaceError
  buffer : List UInt8
  deriving DecidableEq

def Drain.store (drain : Drain) (received : Received) : Drain :=
  { drain with
    buffer := received.bytes ++ drain.buffer.drop received.bytes.length }

/-- One round from `recvmsg` on, with whether the loop goes on. -/
def Drain.round (drain : Drain) : RecvResult → Option (Drain × Bool)
  | .error errorNumber =>
      if errorNumber = eINTR then some (drain, true)
      else if errorNumber = eAGAIN ∨ errorNumber = eWOULDBLOCK then
        some (drain, false)
      else if errorNumber = eNOBUFS then
        some ({ drain with
          lastError := .netlinkOverrunError, changed := true }, true)
      else some ({ drain with lastError := .netlinkReceiveError }, false)
  | .received received =>
      let drain := drain.store received
      if received.bytes.length = 0 then some (drain, false)
      else if received.truncated then
        some ({ drain with changed := true }, true)
      else
        (walkMessages drain.buffer received.rounds 0 received.bytes.length
          ⟨drain.changed, []⟩).map fun walk =>
            ({ drain with changed := walk.changed }, true)

/-- `running` are the reads of `monitor_status_`, `results` what `recvmsg`
returns; both are counted by rounds. -/
def drainLoop (running : Nat → Bool) (results : Nat → RecvResult) :
    Nat → Nat → Drain → Option Drain
  | 0, _, _ => none
  | fuel + 1, index, drain =>
      if running index then
        (drain.round (results index)).bind fun (next, again) =>
          if again then drainLoop running results fuel (index + 1) next
          else some next
      else some drain

def drainNetlink (running : Nat → Bool) (results : Nat → RecvResult)
    (fuel : Nat) (lastError : InterfaceError) (buffer : List UInt8) :
    Option Drain :=
  drainLoop running results fuel 0
    { changed := false, lastError := lastError, buffer := buffer }

/-- An error other than `EINTR` and `ENOBUFS`, or a length of zero. -/
def RecvResult.Ends : RecvResult → Prop
  | .error errorNumber => errorNumber ≠ 4 ∧ errorNumber ≠ 105
  | .received data => data.bytes = []

/-- `ENOBUFS`, a truncated datagram, or a datagram with an `RTM_NEWLINK`,
`RTM_DELLINK`, `RTM_NEWADDR` or `RTM_DELADDR`. -/
def RecvResult.Reports : RecvResult → Prop
  | .error errorNumber => errorNumber = 105
  | .received data =>
      data.bytes ≠ [] ∧
        (data.truncated = true ∨
          ∃ message, ChainFrom data.bytes 0 message ∧
            nlmsgTypeAt data.bytes message ∈ [16, 17, 20, 21])

theorem ends_error {errorNumber : Int} :
    (RecvResult.error errorNumber).Ends ↔
      errorNumber ≠ eINTR ∧ errorNumber ≠ eNOBUFS :=
  Iff.rfl

theorem reports_error {errorNumber : Int} :
    (RecvResult.error errorNumber).Reports ↔ errorNumber = eNOBUFS :=
  Iff.rfl

/-- What a round does to `changed` and whether it is the last. -/
structure Rounds (drain : Drain) (result : RecvResult) (next : Drain)
    (again : Bool) : Prop where
  goesOn : again = true ↔ ¬result.Ends
  changed : next.changed = true ↔ drain.changed = true ∨ result.Reports

theorem round_error (drain : Drain) (errorNumber : Int) :
    ∃ next again,
      drain.round (.error errorNumber) = some (next, again) ∧
        Rounds drain (.error errorNumber) next again := by
  by_cases interrupted : errorNumber = eINTR
  · subst interrupted
    exact ⟨drain, true, rfl, by simp [ends_error],
      by simp [reports_error, eINTR, eNOBUFS]⟩
  by_cases overrun : errorNumber = eNOBUFS
  · subst overrun
    exact ⟨_, true, rfl, by simp [ends_error],
      by simp [reports_error]⟩
  by_cases wouldBlock : errorNumber = eAGAIN ∨ errorNumber = eWOULDBLOCK
  · refine ⟨drain, false, ?_, ?_, ?_⟩
    · simp [Drain.round, interrupted, wouldBlock]
    · simp [ends_error, interrupted, overrun]
    · simp [reports_error, overrun]
  · refine ⟨{ drain with lastError := .netlinkReceiveError }, false, ?_, ?_,
      ?_⟩
    · simp [Drain.round, interrupted, overrun, wouldBlock]
    · simp [ends_error, interrupted, overrun]
    · simp [reports_error, overrun]

theorem round_received (drain : Drain) (received : Received) :
    ∃ next again,
      drain.round (.received received) = some (next, again) ∧
        Rounds drain (.received received) next again := by
  by_cases empty : received.bytes = []
  · refine ⟨drain.store received, false, ?_, ?_, ?_⟩
    · simp [Drain.round, empty]
    · simp [RecvResult.Ends, empty]
    · simp [RecvResult.Reports, empty, Drain.store]
  by_cases truncated : received.truncated = true
  · refine ⟨{ drain.store received with changed := true }, true, ?_, ?_, ?_⟩
    · simp [Drain.round, empty, truncated]
    · simp [RecvResult.Ends, empty]
    · simp [RecvResult.Reports, empty, truncated]
  · obtain ⟨walk, found, returns⟩ := received.walk_found
      (drain.buffer.drop received.bytes.length) ⟨drain.changed, []⟩
    have returned := returns received.rounds (Nat.le_refl _)
    refine ⟨{ drain.store received with changed := walk.changed }, true, ?_,
      ?_, ?_⟩
    · simp [Drain.round, empty, truncated, Drain.store, returned]
    · simp [RecvResult.Ends, empty]
    · simpa [RecvResult.Reports, empty, truncated] using found.changed

theorem round_result (drain : Drain) (result : RecvResult) :
    ∃ next again,
      drain.round result = some (next, again) ∧
        Rounds drain result next again := by
  cases result with
  | error errorNumber => exact round_error drain errorNumber
  | received received => exact round_received drain received

section Loop

variable {running : Nat → Bool} {results : Nat → RecvResult}
  {drain : Drain} {index : Nat}

/-- The loop ends in a round in which the monitor is not running or the
socket has nothing more. -/
def StopsAt (running : Nat → Bool) (results : Nat → RecvResult)
    (index : Nat) : Prop :=
  running index = false ∨ (results index).Ends

theorem drainLoop_stops (drain : Drain)
    (stops : StopsAt running results index) :
    ∃ drained,
      (∀ fuel,
        drainLoop running results (fuel + 1) index drain = some drained) ∧
      (drained.changed = true ↔
        drain.changed = true ∨
          running index = true ∧ (results index).Reports) := by
  cases status : running index with
  | false =>
      exact ⟨drain, fun fuel => by simp [drainLoop, status], by simp⟩
  | true =>
      have ends : (results index).Ends := by
        rcases stops with stopped | ends
        · rw [status] at stopped
          cases stopped
        · exact ends
      obtain ⟨next, again, round, goesOn, changed⟩ :=
        round_result drain (results index)
      have last : again = false := by
        rw [← Bool.not_eq_true, goesOn]
        exact not_not_intro ends
      subst last
      exact ⟨next, fun fuel => by simp [drainLoop, status, round],
        by simpa using changed⟩

theorem drainLoop_goesOn (drain : Drain)
    (goesOn : ¬StopsAt running results index) :
    ∃ next,
      (∀ fuel, drainLoop running results (fuel + 1) index drain =
        drainLoop running results fuel (index + 1) next) ∧
      (next.changed = true ↔
        drain.changed = true ∨
          running index = true ∧ (results index).Reports) := by
  obtain ⟨runs, more⟩ := not_or.mp goesOn
  have status : running index = true := by simpa using runs
  obtain ⟨next, again, round, continues, changed⟩ :=
    round_result drain (results index)
  have notLast : again = true := continues.mpr more
  subst notLast
  exact ⟨next, fun fuel => by simp [drainLoop, status, round],
    by simpa [status] using changed⟩

/-- `recvmsg` reported something between two rounds. -/
def ReportedIn (running : Nat → Bool) (results : Nat → RecvResult)
    (first last : Nat) : Prop :=
  ∃ index, first ≤ index ∧ index ≤ last ∧ running index = true ∧
    (results index).Reports

theorem reportedIn_iff {last : Nat} (before : index ≤ last) :
    ReportedIn running results index last ↔
      (running index = true ∧ (results index).Reports) ∨
        ReportedIn running results (index + 1) last := by
  constructor
  · rintro ⟨reported, first, bound, runs, reports⟩
    rcases Nat.eq_or_lt_of_le first with rfl | later
    · exact .inl ⟨runs, reports⟩
    · exact .inr ⟨reported, later, bound, runs, reports⟩
  · rintro (⟨runs, reports⟩ | ⟨reported, first, bound, reports⟩)
    · exact ⟨index, Nat.le_refl index, before, runs, reports⟩
    · exact ⟨reported, Nat.le_of_succ_le first, bound, reports⟩

/-- Induction on the rounds before the one in which the loop ends. -/
theorem drainLoop_returns (rounds : Nat) (drain : Drain)
    (goesOn : ∀ earlier, index ≤ earlier → earlier < index + rounds →
      ¬StopsAt running results earlier)
    (stops : StopsAt running results (index + rounds)) :
    ∃ drained,
      (∀ fuel, drainLoop running results fuel index drain =
        if rounds < fuel then some drained else none) ∧
      (drained.changed = true ↔
        drain.changed = true ∨
          ReportedIn running results index (index + rounds)) := by
  induction rounds generalizing index drain with
  | zero =>
      obtain ⟨drained, returns, changed⟩ := drainLoop_stops drain stops
      refine ⟨drained, ?_, ?_⟩
      · rintro (_ | fuel)
        · rfl
        · simpa using returns fuel
      · have nothing : ¬ReportedIn running results (index + 1) index := by
          rintro ⟨_, first, bound, _⟩
          omega
        simpa [reportedIn_iff (Nat.le_refl index), nothing] using changed
  | succ rounds induction =>
      obtain ⟨next, continues, first⟩ := drainLoop_goesOn drain
        (goesOn index (Nat.le_refl index) (by omega))
      have shifted : index + 1 + rounds = index + (rounds + 1) := by omega
      obtain ⟨drained, returns, later⟩ := induction next
        (fun earlier after before =>
          goesOn earlier (by omega) (by omega))
        (shifted ▸ stops)
      refine ⟨drained, ?_, ?_⟩
      · rintro (_ | fuel)
        · rfl
        · rw [continues, returns]
          simp only [Nat.add_lt_add_iff_right]
      · rw [later, first, or_assoc, shifted,
          reportedIn_iff (Nat.le_add_right index (rounds + 1))]

/-- If no round is the last, the call does not return. -/
theorem drainLoop_never (fuel : Nat)
    (goesOn : ∀ later, index ≤ later → ¬StopsAt running results later) :
    drainLoop running results fuel index drain = none := by
  induction fuel generalizing index drain with
  | zero => rfl
  | succ fuel induction =>
      obtain ⟨next, continues, _⟩ :=
        drainLoop_goesOn drain (goesOn index (Nat.le_refl index))
      rw [continues]
      apply induction
      intro later after
      exact goesOn later (Nat.le_of_succ_le after)

/-- The call returns in the first round in which the monitor is not running
or the socket has nothing more, and in no other.  It reports a change exactly
if one was received up to then. -/
theorem drainNetlink_reports (running : Nat → Bool)
    (results : Nat → RecvResult) (lastError : InterfaceError)
    (buffer : List UInt8) :
    (∀ last, StopsAt running results last →
      (∀ earlier, earlier < last → ¬StopsAt running results earlier) →
      ∃ drained,
        (∀ fuel, drainNetlink running results fuel lastError buffer =
          if last < fuel then some drained else none) ∧
        (drained.changed = true ↔
          ∃ index, index ≤ last ∧ running index = true ∧
            (results index).Reports)) ∧
      ((∀ index, ¬StopsAt running results index) →
        ∀ fuel,
          drainNetlink running results fuel lastError buffer = none) := by
  constructor
  · intro last stops goesOn
    rw [← Nat.zero_add last] at stops
    obtain ⟨drained, returns, changed⟩ :=
      drainLoop_returns last ⟨false, lastError, buffer⟩
        (fun earlier _ before => goesOn earlier (by omega)) stops
    refine ⟨drained, returns, ?_⟩
    simpa [ReportedIn] using changed
  · intro goesOn fuel
    exact drainLoop_never fuel (fun later _ => goesOn later)

end Loop

/-- What the kernel's outcome looks like to `drain_netlink`: an error number,
or the bytes which fit the buffer. -/
inductive Delivers : ReceiveOutcome → RecvResult → Prop where
  | interrupted : Delivers .interrupted (.error eINTR)
  | wouldBlock : Delivers .wouldBlock (.error eAGAIN)
  | overrun : Delivers .overrun (.error eNOBUFS)
  | failed {errorNumber : Int} (notInterrupted : errorNumber ≠ eINTR)
      (notWouldBlock : errorNumber ≠ eAGAIN)
      (notOverrun : errorNumber ≠ eNOBUFS) :
      Delivers .failed (.error errorNumber)
  | empty {data : Received} (nothing : data.bytes = []) :
      Delivers .empty (.received data)
  | datagram {bytes : List UInt8} {data : Received} (nonempty : bytes ≠ [])
      (copied : data.bytes = bytes.take netlinkBufferSize)
      (flagged : data.truncated = decide (netlinkBufferSize < bytes.length)) :
      Delivers (.datagram bytes) (.received data)

section Delivers

variable {outcome : ReceiveOutcome} {result : RecvResult}

theorem reports_datagram {bytes : List UInt8} {data : Received}
    (nonempty : bytes ≠ [])
    (copied : data.bytes = bytes.take netlinkBufferSize)
    (flagged : data.truncated = decide (netlinkBufferSize < bytes.length)) :
    (RecvResult.received data).Reports ↔
      8192 < bytes.length ∨ TellsOfInterface bytes := by
  unfold netlinkBufferSize at *
  by_cases fits : bytes.length ≤ 8192
  · have whole : data.bytes = bytes := by
      rw [copied, List.take_of_length_le fits]
    simp [RecvResult.Reports, TellsOfInterface, whole, nonempty, flagged,
      Nat.not_lt.mpr fits]
  · have cut : 8192 < bytes.length := Nat.lt_of_not_le fits
    simp [RecvResult.Reports, copied, flagged, cut, nonempty]

theorem delivers_ends (delivers : Delivers outcome result) :
    result.Ends ↔ outcome.continues = false := by
  cases delivers with
  | interrupted => simp [ends_error, ReceiveOutcome.continues]
  | wouldBlock =>
      simp [ends_error, ReceiveOutcome.continues, eAGAIN, eINTR, eNOBUFS]
  | overrun => simp [ends_error, ReceiveOutcome.continues]
  | failed notInterrupted _ notOverrun =>
      simp [ends_error, ReceiveOutcome.continues, notInterrupted,
        notOverrun]
  | empty nothing =>
      simp [RecvResult.Ends, ReceiveOutcome.continues, nothing]
  | datagram nonempty copied _ =>
      have room : netlinkBufferSize ≠ 0 := by decide
      simp [RecvResult.Ends, ReceiveOutcome.continues, copied, nonempty,
        room]

theorem delivers_reports (delivers : Delivers outcome result) :
    result.Reports ↔ outcome.Relevant := by
  cases delivers with
  | interrupted =>
      simp [reports_error, ReceiveOutcome.Relevant, eINTR, eNOBUFS]
  | wouldBlock =>
      simp [reports_error, ReceiveOutcome.Relevant, eAGAIN, eNOBUFS]
  | overrun => simp [reports_error, ReceiveOutcome.Relevant]
  | failed _ _ notOverrun =>
      simp [reports_error, ReceiveOutcome.Relevant, notOverrun]
  | empty nothing =>
      simp [RecvResult.Reports, ReceiveOutcome.Relevant, nothing]
  | datagram nonempty copied flagged =>
      exact reports_datagram nonempty copied flagged

theorem changes_of_last (last : outcome.continues = false) :
    outcome.changes = false := by
  cases outcome with
  | interrupted => cases last
  | wouldBlock => rfl
  | overrun => cases last
  | failed => rfl
  | empty => rfl
  | datagram bytes => cases last

/-- The monitor's receive step is one round of `drain_netlink`. -/
theorem receivePoint_of_round (drain : Drain)
    (delivers : Delivers outcome result) :
    ∃ next again,
      drain.round result = some (next, again) ∧
        receivePoint drain.changed outcome =
          if again then .checkingStatus next.changed
          else .received next.changed := by
  obtain ⟨next, again, round, goesOn, changed⟩ := round_result drain result
  rw [delivers_ends delivers, Bool.not_eq_false] at goesOn
  rw [delivers_reports delivers, ← ReceiveOutcome.changes_iff,
    ← Bool.or_eq_true] at changed
  have sameFlag : next.changed = (drain.changed || outcome.changes) :=
    Bool.eq_iff_iff.mpr changed
  refine ⟨next, again, round, ?_⟩
  cases again with
  | true => simp [receivePoint, goesOn.mp rfl, sameFlag]
  | false =>
      have last : outcome.continues = false := by simpa using goesOn
      simp [receivePoint, last, sameFlag, changes_of_last last]

end Delivers

end LibbpfControl.NicCheck
