import LibbpfControl.TcBpf.Mirroring

/-!
# The packet parser

`tc_mirroring` unwraps up to three VLAN tags, checks the IPv4 header and
submits a `monitor_event` for a monitored interface.  Pointers into the packet
are offsets here, a null pointer is `none`, and every access goes through one
load, which faults at and after `data_end`.

The accepted packets are described on their own by `Frame`, a record of the
parts of a packet.  The parser agrees with it in both directions: it accepts
the bytes of every frame, and what it accepts are the bytes of a frame.
-/

namespace LibbpfControl.TcBpf

def ethPIp : UInt16 := 0x0800
def ethP8021Q : UInt16 := 0x8100
def ethP8021AD : UInt16 := 0x88A8

/-- `sizeof(struct ethhdr)`. -/
def ethhdrSize : Nat := 14

/-- `sizeof(struct custom_vlan_hdr)`. -/
def vlanHdrSize : Nat := 4

/-- `sizeof(struct iphdr)`. -/
def iphdrSize : Nat := 20

structure MonitorEvent where
  srcMac : Vector UInt8 6
  dstMac : Vector UInt8 6
  ethType : UInt16
  /-- The addresses are copied as they stand in the header. -/
  srcIp : Vector UInt8 4
  dstIp : Vector UInt8 4
  ipProto : UInt8
  deriving DecidableEq, Repr

/-- A load which is not before `data_end`. -/
structure LoadFault where
  offset : Nat
  deriving DecidableEq, Repr

abbrev Load (α : Type) : Type := Except LoadFault α

/-- The only access to the bytes between `data` and `data_end`. -/
def loadArray (packet : List UInt8) (offset size : Nat) :
    Load (Vector UInt8 size) :=
  if bounded : offset + size ≤ packet.length then
    .ok (Vector.ofFn fun index =>
      packet.get ⟨offset + index, by omega⟩)
  else .error ⟨offset⟩

def loadByte (packet : List UInt8) (offset : Nat) : Load UInt8 :=
  (loadArray packet offset 1).map fun bytes => bytes[0]

/-- `bpf_ntohs` of two bytes in the order of the packet. -/
def bpfNtohs (bytes : Vector UInt8 2) : UInt16 :=
  bytes[0].toUInt16 * (256 : UInt16) + bytes[1].toUInt16

def loadNtohs (packet : List UInt8) (offset : Nat) : Load UInt16 :=
  (loadArray packet offset 2).map bpfNtohs

def parseEthhdr (packet : List UInt8) (data : Nat) : Option Nat :=
  if packet.length < data + ethhdrSize then none else some data

def isVlan (proto : UInt16) : Bool :=
  proto == ethP8021Q || proto == ethP8021AD

/-- The unrolled loop over the VLAN headers, with the rounds which are
left. -/
def vlanLoop (packet : List UInt8) :
    Nat → UInt16 → Nat → Load (Option (UInt16 × Nat))
  | 0, proto, vh => .ok (some (proto, vh))
  | rounds + 1, proto, vh =>
      if isVlan proto then
        if packet.length < vh + vlanHdrSize then .ok none
        else do
          let encapsulatedProto ← loadNtohs packet (vh + 2)
          vlanLoop packet rounds encapsulatedProto (vh + vlanHdrSize)
      else .ok (some (proto, vh))

/-- The type and the next header; a packet with more than three tags is
dropped. -/
def parseEtherTypeAndNext (packet : List UInt8) (eth : Nat) :
    Load (Option (UInt16 × Nat)) := do
  let hProto ← loadNtohs packet (eth + 12)
  let unwrapped ← vlanLoop packet 3 hProto (eth + ethhdrSize)
  return unwrapped.filter fun result => !isVlan result.1

/-- `ip->version`. -/
def ipVersion (versionIhl : UInt8) : UInt8 := versionIhl >>> 4

/-- `ip->ihl`. -/
def ipIhl (versionIhl : UInt8) : UInt8 := versionIhl &&& 0x0F

def parseIphdr (packet : List UInt8) (ipStart : Nat) : Load (Option Nat) :=
  if packet.length < ipStart + iphdrSize then .ok none
  else do
    let versionIhl ← loadByte packet ipStart
    if ipVersion versionIhl ≠ 4 then return none
    else if ipIhl versionIhl < 5 then return none
    else if packet.length < ipStart + (ipIhl versionIhl).toNat * 4 then
      return none
    else return some ipStart

/-- What the program sees of the kernel when a packet arrives. -/
structure TcContext where
  ifindex : UInt32
  mirrorMap : MirrorMap
  monitorMap : UInt32 → Option UInt32
  /-- `bpf_ringbuf_reserve` finds room. -/
  reserves : Bool

structure TcOutput where
  returned : Int
  clones : List UInt32
  submitted : List MonitorEvent
  deriving DecidableEq, Repr

/-- The test of `monitor_map`. -/
def TcContext.monitored (context : TcContext) : Bool :=
  match context.monitorMap context.ifindex with
  | none => false
  | some value => value != 0

/-- The copies into the reserved event. -/
def fillEvent (packet : List UInt8) (eth : Nat) (ethType : UInt16)
    (ip : Nat) : Load MonitorEvent := do
  let srcMac ← loadArray packet (eth + 6) 6
  let dstMac ← loadArray packet eth 6
  let srcIp ← loadArray packet (ip + 12) 4
  let dstIp ← loadArray packet (ip + 16) 4
  let ipProto ← loadByte packet (ip + 9)
  return { srcMac, dstMac, ethType, srcIp, dstIp, ipProto }

/-- The part of `tc_mirroring` after the clones: the submitted events. -/
def monitoring (context : TcContext) (packet : List UInt8) :
    Load (List MonitorEvent) :=
  match parseEthhdr packet 0 with
  | none => .ok []
  | some eth => do
      match ← parseEtherTypeAndNext packet eth with
      | none => return []
      | some (ethType, nextHeader) =>
          if ethType ≠ ethPIp then return []
          else
            match ← parseIphdr packet nextHeader with
            | none => return []
            | some ip =>
                if context.monitored && context.reserves then
                  let event ← fillEvent packet eth ethType ip
                  return [event]
                else return []

def tcMirroring (context : TcContext) (packet : List UInt8) :
    Load TcOutput := do
  let clones := mirroring context.mirrorMap context.ifindex
  let submitted ← monitoring context packet
  return { returned := 0, clones, submitted }

inductive TagProtocol where
  | dot1q
  | dot1ad
  deriving DecidableEq, Repr

def TagProtocol.bytes : TagProtocol → List UInt8
  | .dot1q => [0x81, 0x00]
  | .dot1ad => [0x88, 0xA8]

structure VlanTag where
  protocol : TagProtocol
  tci : Vector UInt8 2
  deriving DecidableEq, Repr

def VlanTag.bytes (tag : VlanTag) : List UInt8 :=
  tag.protocol.bytes ++ tag.tci.toList

/-- An IPv4 header with everything that follows it.  The high nibble of its
first byte is the version, the low one the length in words of four bytes. -/
structure Ipv4 where
  versionIhl : UInt8
  /-- From the type of service to the time to live. -/
  fields : Vector UInt8 8
  protocol : UInt8
  checksum : Vector UInt8 2
  saddr : Vector UInt8 4
  daddr : Vector UInt8 4
  /-- The options and the payload. -/
  rest : List UInt8
  isVersion4 : versionIhl.toNat / 16 = 4
  atLeastFive : 5 ≤ versionIhl.toNat % 16
  complete : versionIhl.toNat % 16 * 4 ≤ 20 + rest.length

def Ipv4.bytes (ip : Ipv4) : List UInt8 :=
  [ip.versionIhl] ++ ip.fields.toList ++ [ip.protocol] ++
    ip.checksum.toList ++ ip.saddr.toList ++ ip.daddr.toList ++ ip.rest

structure Frame where
  dst : Vector UInt8 6
  src : Vector UInt8 6
  tags : List VlanTag
  ip : Ipv4
  atMostThree : tags.length ≤ 3

def Frame.bytes (frame : Frame) : List UInt8 :=
  frame.dst.toList ++ frame.src.toList ++
    frame.tags.flatMap VlanTag.bytes ++ [0x08, 0x00] ++ frame.ip.bytes

def Frame.event (frame : Frame) : MonitorEvent where
  srcMac := frame.src
  dstMac := frame.dst
  ethType := 0x0800
  srcIp := frame.ip.saddr
  dstIp := frame.ip.daddr
  ipProto := frame.ip.protocol

section Loads

variable {packet rest : List UInt8} {offset size : Nat}

theorem loadArray_of_drop {bytes : Vector UInt8 size} (positive : 0 < size)
    (stands : packet.drop offset = bytes.toList ++ rest) :
    loadArray packet offset size = .ok bytes := by
  have length : packet.length - offset = size + rest.length := by
    rw [← List.length_drop, stands, List.length_append, Vector.length_toList]
  have bounded : offset + size ≤ packet.length := by
    omega
  rw [loadArray, dif_pos bounded]
  congr 1
  apply Vector.ext
  intro index inside
  have same : (packet.drop offset)[index]? =
      (bytes.toList ++ rest)[index]? := by
    rw [stands]
  rw [List.getElem?_append_left (by simpa using inside),
    List.getElem?_drop, List.getElem?_eq_getElem (by omega),
    List.getElem?_eq_getElem (by simpa using inside)] at same
  simpa using same

theorem loadByte_of_drop {byte : UInt8}
    (stands : packet.drop offset = byte :: rest) :
    loadByte packet offset = .ok byte := by
  have loaded : loadArray packet offset 1 = .ok #v[byte] :=
    loadArray_of_drop Nat.one_pos stands
  rw [loadByte, loaded]
  rfl

theorem loadNtohs_of_drop {bytes : Vector UInt8 2}
    (stands : packet.drop offset = bytes.toList ++ rest) :
    loadNtohs packet offset = .ok (bpfNtohs bytes) := by
  rw [loadNtohs, loadArray_of_drop Nat.two_pos stands]
  rfl

/-- What follows the bytes which are passed. -/
theorem drop_add {front : List UInt8} (sized : front.length = size)
    (stands : packet.drop offset = front ++ rest) :
    packet.drop (offset + size) = rest := by
  rw [← List.drop_drop, stands, ← sized, List.drop_left]

/-- Enough bytes start with an array. -/
theorem exists_array (bytes : List UInt8) (enough : size ≤ bytes.length) :
    ∃ (front : Vector UInt8 size) (rest : List UInt8),
      bytes = front.toList ++ rest := by
  refine ⟨⟨(bytes.take size).toArray, ?_⟩, bytes.drop size, ?_⟩
  · simpa using Nat.min_eq_left enough
  · simp

end Loads

theorem bpfNtohs_toNat (bytes : Vector UInt8 2) :
    (bpfNtohs bytes).toNat = bytes[0].toNat * 256 + bytes[1].toNat := by
  have high : bytes[0].toNat < 256 := bytes[0].toNat_lt
  have low : bytes[1].toNat < 256 := bytes[1].toNat_lt
  simp only [bpfNtohs, UInt16.toNat_add, UInt16.toNat_mul,
    UInt8.toNat_toUInt16]
  have base : (256 : UInt16).toNat = 256 := rfl
  rw [base]
  omega

theorem bpfNtohs_injective {first second : Vector UInt8 2}
    (same : bpfNtohs first = bpfNtohs second) : first = second := by
  have sum := congrArg UInt16.toNat same
  rw [bpfNtohs_toNat, bpfNtohs_toNat] at sum
  have firstLow : first[1].toNat < 256 := first[1].toNat_lt
  have secondLow : second[1].toNat < 256 := second[1].toNat_lt
  have sameHigh : first[0] = second[0] := by
    apply UInt8.toNat_inj.mp
    omega
  have sameLow : first[1] = second[1] := by
    apply UInt8.toNat_inj.mp
    omega
  apply Vector.ext
  intro index inside
  match index, inside with
  | 0, _ => exact sameHigh
  | 1, _ => exact sameLow

/-- The two values which announce a tag. -/
def TagProtocol.array : TagProtocol → Vector UInt8 2
  | .dot1q => #v[0x81, 0x00]
  | .dot1ad => #v[0x88, 0xA8]

theorem TagProtocol.toList_array (protocol : TagProtocol) :
    protocol.array.toList = protocol.bytes := by
  cases protocol with
  | dot1q => rfl
  | dot1ad => rfl

theorem isVlan_iff {bytes : Vector UInt8 2} :
    isVlan (bpfNtohs bytes) = true ↔
      ∃ protocol : TagProtocol, bytes = protocol.array := by
  constructor
  · intro announced
    simp only [isVlan, Bool.or_eq_true, beq_iff_eq] at announced
    rcases announced with is8021Q | is8021AD
    · exact ⟨.dot1q, bpfNtohs_injective is8021Q⟩
    · exact ⟨.dot1ad, bpfNtohs_injective is8021AD⟩
  · rintro ⟨protocol, rfl⟩
    cases protocol with
    | dot1q => decide
    | dot1ad => decide

/-- The loop together with the load of the type which it tests first. -/
def unwrapFrom (packet : List UInt8) (rounds offset : Nat) :
    Load (Option (UInt16 × Nat)) := do
  let proto ← loadNtohs packet offset
  vlanLoop packet rounds proto (offset + 2)

section Unwrapping

variable {packet rest : List UInt8} {rounds offset : Nat}

theorem unwrapFrom_type {bytes : Vector UInt8 2}
    (stands : packet.drop offset = bytes.toList ++ rest)
    (notVlan : isVlan (bpfNtohs bytes) = false) :
    unwrapFrom packet rounds offset =
      .ok (some (bpfNtohs bytes, offset + 2)) := by
  rw [unwrapFrom, loadNtohs_of_drop stands]
  cases rounds with
  | zero => rfl
  | succ rounds =>
      show vlanLoop packet (rounds + 1) (bpfNtohs bytes) (offset + 2) = _
      rw [vlanLoop, notVlan]
      rfl

/-- A tag costs one round and four bytes, if the bytes are there. -/
theorem unwrapFrom_tag {protocol : TagProtocol}
    (stands : packet.drop offset = protocol.array.toList ++ rest) :
    unwrapFrom packet (rounds + 1) offset =
      if rest.length < vlanHdrSize then .ok none
      else unwrapFrom packet rounds (offset + vlanHdrSize) := by
  have length : packet.length - offset = 2 + rest.length := by
    rw [← List.length_drop, stands, List.length_append, Vector.length_toList]
  have announced : isVlan (bpfNtohs protocol.array) = true :=
    isVlan_iff.mpr ⟨protocol, rfl⟩
  rw [unwrapFrom, loadNtohs_of_drop stands]
  show vlanLoop packet (rounds + 1) (bpfNtohs protocol.array) (offset + 2) = _
  rw [vlanLoop, if_pos announced]
  by_cases short : rest.length < vlanHdrSize
  · rw [if_pos short, if_pos (by omega)]
  · rw [if_neg short, if_neg (by omega)]
    rfl

/-- The tags of a frame are unwrapped. -/
theorem unwrapFrom_tags {tags : List VlanTag} {bytes : Vector UInt8 2}
    (few : tags.length ≤ rounds)
    (stands : packet.drop offset =
      tags.flatMap VlanTag.bytes ++ (bytes.toList ++ rest))
    (notVlan : isVlan (bpfNtohs bytes) = false) :
    unwrapFrom packet rounds offset =
      .ok (some (bpfNtohs bytes, offset + vlanHdrSize * tags.length + 2)) := by
  induction tags generalizing offset rounds with
  | nil => exact unwrapFrom_type stands notVlan
  | cons tag tags induction =>
      obtain ⟨rounds, rfl⟩ : ∃ fewer, rounds = fewer + 1 :=
        Nat.exists_eq_add_of_lt (Nat.lt_of_lt_of_le (Nat.succ_pos _) few)
          |>.imp fun _ same => by omega
      have announced : packet.drop offset = tag.protocol.array.toList ++
          (tag.tci.toList ++ (tags.flatMap VlanTag.bytes ++
            (bytes.toList ++ rest))) := by
        rw [stands, List.flatMap_cons, VlanTag.bytes,
          TagProtocol.toList_array]
        simp
      have passed : packet.drop (offset + vlanHdrSize) =
          tags.flatMap VlanTag.bytes ++ (bytes.toList ++ rest) := by
        have behind := drop_add tag.tci.length_toList
          (drop_add tag.protocol.array.length_toList announced)
        exact behind
      rw [unwrapFrom_tag announced, if_neg (by simp [vlanHdrSize]; omega),
        induction (Nat.le_of_succ_le_succ few) passed]
      simp only [List.length_cons]
      congr 4
      simp only [vlanHdrSize]
      omega

theorem exists_type (enough : offset + 2 ≤ packet.length) :
    ∃ (bytes : Vector UInt8 2) (rest : List UInt8),
      packet.drop offset = bytes.toList ++ rest ∧
        packet.drop (offset + 2) = rest := by
  have left : 2 ≤ (packet.drop offset).length := by
    rw [List.length_drop]
    omega
  obtain ⟨bytes, rest, stands⟩ := exists_array (packet.drop offset) left
  exact ⟨bytes, rest, stands, drop_add bytes.length_toList stands⟩

/-- An announced tag which is present is passed in one step. -/
theorem exists_tag {offset : Nat} {protocol : TagProtocol}
    {rest : List UInt8}
    (stands : packet.drop offset = protocol.array.toList ++ rest)
    (room : vlanHdrSize ≤ rest.length) :
    ∃ tag : VlanTag, packet.drop offset =
      tag.bytes ++ packet.drop (offset + vlanHdrSize) := by
  obtain ⟨tci, remaining, tciStands⟩ :=
    exists_array rest (Nat.le_trans (by decide : 2 ≤ vlanHdrSize) room)
  have behind := drop_add protocol.array.length_toList stands
  have afterTci := drop_add tci.length_toList (behind.trans tciStands)
  refine ⟨⟨protocol, tci⟩, ?_⟩
  rw [stands, tciStands, VlanTag.bytes, TagProtocol.toList_array,
    List.append_assoc]
  exact congrArg _ (congrArg _ afterTci.symm)

/-- What is unwrapped was wrapped in tags. -/
theorem tags_of_unwrapFrom (rounds offset : Nat)
    (enough : offset + 2 ≤ packet.length) :
    ∃ unwrapped, unwrapFrom packet rounds offset = .ok unwrapped ∧
      ∀ proto next, unwrapped = some (proto, next) →
        ∃ (tags : List VlanTag) (bytes : Vector UInt8 2) (rest : List UInt8),
          tags.length ≤ rounds ∧ proto = bpfNtohs bytes ∧
          packet.drop offset =
            tags.flatMap VlanTag.bytes ++ (bytes.toList ++ rest) ∧
          packet.drop next = rest := by
  induction rounds generalizing offset with
  | zero =>
      obtain ⟨bytes, rest, stands, behind⟩ := exists_type enough
      refine ⟨some (bpfNtohs bytes, offset + 2), ?_, ?_⟩
      · rw [unwrapFrom, loadNtohs_of_drop stands]
        rfl
      · rintro proto next ⟨⟩
        exact ⟨[], bytes, rest, Nat.le_refl _, rfl, stands, behind⟩
  | succ rounds induction =>
      obtain ⟨bytes, rest, stands, behind⟩ := exists_type enough
      cases announced : isVlan (bpfNtohs bytes) with
      | false =>
          refine ⟨_, unwrapFrom_type stands announced, ?_⟩
          rintro proto next ⟨⟩
          exact ⟨[], bytes, rest, Nat.zero_le _, rfl, stands, behind⟩
      | true =>
          obtain ⟨protocol, rfl⟩ := isVlan_iff.mp announced
          rw [unwrapFrom_tag stands]
          split
          · refine ⟨none, rfl, ?_⟩
            rintro proto next ⟨⟩
          · rename_i room
            obtain ⟨unwrapped, result, accepted⟩ :=
              induction (offset + vlanHdrSize) (by
                rw [← behind, List.length_drop] at room
                simp only [vlanHdrSize] at room ⊢
                omega)
            refine ⟨unwrapped, result, ?_⟩
            intro proto next isSome
            obtain ⟨tags, type, payload, few, sameProto, inner, next⟩ :=
              accepted proto next isSome
            obtain ⟨tag, tagStands⟩ :=
              exists_tag stands (Nat.le_of_not_lt room)
            refine ⟨tag :: tags, type, payload, Nat.succ_le_succ few,
              sameProto, ?_, next⟩
            rw [tagStands, inner, List.flatMap_cons, List.append_assoc]

end Unwrapping

theorem parseEtherTypeAndNext_eq (packet : List UInt8) (eth : Nat) :
    parseEtherTypeAndNext packet eth =
      (unwrapFrom packet 3 (eth + 12)).map
        (·.filter fun result => !isVlan result.1) := by
  simp only [parseEtherTypeAndNext, unwrapFrom, ethhdrSize]
  cases loadNtohs packet (eth + 12) with
  | error fault => rfl
  | ok proto => cases vlanLoop packet 3 proto (eth + 14) <;> rfl

namespace Ipv4

theorem length_bytes (ip : Ipv4) :
    ip.bytes.length = iphdrSize + ip.rest.length := by
  simp [bytes, iphdrSize]
  omega

theorem ipVersion_eq_four {versionIhl : UInt8} :
    ipVersion versionIhl = 4 ↔ versionIhl.toNat / 16 = 4 := by
  rw [← UInt8.toNat_inj, ipVersion, UInt8.toNat_shiftRight,
    Nat.shiftRight_eq_div_pow]
  rfl

theorem ipIhl_toNat (versionIhl : UInt8) :
    (ipIhl versionIhl).toNat = versionIhl.toNat % 16 := by
  rw [ipIhl, UInt8.toNat_and]
  exact Nat.and_two_pow_sub_one_eq_mod versionIhl.toNat 4

theorem five_le_ipIhl {versionIhl : UInt8} :
    5 ≤ ipIhl versionIhl ↔ 5 ≤ versionIhl.toNat % 16 := by
  rw [UInt8.le_iff_toNat_le, ipIhl_toNat]
  rfl

theorem parseIphdr_bytes {packet : List UInt8} {ipStart : Nat} {ip : Ipv4}
    (stands : packet.drop ipStart = ip.bytes) :
    parseIphdr packet ipStart = .ok (some ipStart) := by
  have length : packet.length - ipStart = iphdrSize + ip.rest.length := by
    rw [← List.length_drop, stands, length_bytes]
  have positive : 0 < iphdrSize := by decide
  have loaded : loadByte packet ipStart = .ok ip.versionIhl := by
    apply loadByte_of_drop
    rw [stands, bytes]
    rfl
  have isVersion4 : ipVersion ip.versionIhl = 4 :=
    ipVersion_eq_four.mpr ip.isVersion4
  have longEnough : ¬ipIhl ip.versionIhl < 5 :=
    UInt8.not_lt.mpr (five_le_ipIhl.mpr ip.atLeastFive)
  have complete : (ipIhl ip.versionIhl).toNat * 4 ≤
      iphdrSize + ip.rest.length := by
    rw [ipIhl_toNat]
    exact ip.complete
  rw [parseIphdr, if_neg (by omega), loaded]
  simp only [Except.bind, bind, pure, Except.pure, isVersion4, ne_eq,
    not_true_eq_false, if_false, longEnough]
  rw [if_neg (by omega)]

/-- Twenty bytes are enough for the fields of a header. -/
theorem exists_fields {header : List UInt8}
    (enough : iphdrSize ≤ header.length) :
    ∃ (versionIhl : UInt8) (fields : Vector UInt8 8) (protocol : UInt8)
      (checksum : Vector UInt8 2) (saddr daddr : Vector UInt8 4)
      (rest : List UInt8),
      header = [versionIhl] ++ fields.toList ++ [protocol] ++
        checksum.toList ++ saddr.toList ++ daddr.toList ++ rest := by
  simp only [iphdrSize] at enough
  obtain ⟨versionIhl, rest, rfl⟩ :=
    List.exists_cons_of_length_pos (Nat.lt_of_lt_of_le (by decide) enough)
  rw [List.length_cons] at enough
  obtain ⟨fields, rest, rfl⟩ :=
    exists_array rest (show 8 ≤ rest.length by omega)
  rw [List.length_append, Vector.length_toList] at enough
  obtain ⟨protocol, rest, rfl⟩ :=
    List.exists_cons_of_length_pos (show 0 < rest.length by omega)
  rw [List.length_cons] at enough
  obtain ⟨checksum, rest, rfl⟩ :=
    exists_array rest (show 2 ≤ rest.length by omega)
  rw [List.length_append, Vector.length_toList] at enough
  obtain ⟨saddr, rest, rfl⟩ :=
    exists_array rest (show 4 ≤ rest.length by omega)
  rw [List.length_append, Vector.length_toList] at enough
  obtain ⟨daddr, rest, rfl⟩ :=
    exists_array rest (show 4 ≤ rest.length by omega)
  exact ⟨versionIhl, fields, protocol, checksum, saddr, daddr, rest,
    by simp⟩

/-- What is accepted is an IPv4 header. -/
theorem of_parseIphdr (packet : List UInt8) (ipStart : Nat) :
    ∃ parsed, parseIphdr packet ipStart = .ok parsed ∧
      ∀ found, parsed = some found →
        found = ipStart ∧ ∃ ip : Ipv4, packet.drop ipStart = ip.bytes := by
  by_cases short : packet.length < ipStart + iphdrSize
  · refine ⟨none, by rw [parseIphdr, if_pos short], ?_⟩
    rintro found ⟨⟩
  · have enough : iphdrSize ≤ (packet.drop ipStart).length := by
      rw [List.length_drop]
      omega
    obtain ⟨versionIhl, fields, protocol, checksum, saddr, daddr, rest,
      stands⟩ := exists_fields enough
    have length : packet.length - ipStart = iphdrSize + rest.length := by
      rw [← List.length_drop, stands]
      simp [iphdrSize]
      omega
    have loaded : loadByte packet ipStart = .ok versionIhl := by
      apply loadByte_of_drop
      rw [stands]
      rfl
    rw [parseIphdr, if_neg short, loaded]
    simp only [Except.bind, bind, pure, Except.pure]
    split
    · exact ⟨none, rfl, by simp⟩
    · rename_i isVersion4
      split
      · exact ⟨none, rfl, by simp⟩
      · rename_i atLeastFive
        split
        · exact ⟨none, rfl, by simp⟩
        · rename_i complete
          refine ⟨some ipStart, rfl, ?_⟩
          rintro found ⟨⟩
          exact ⟨rfl,
            { versionIhl, fields, protocol, checksum, saddr, daddr, rest
              isVersion4 := ipVersion_eq_four.mp (not_not.mp isVersion4)
              atLeastFive := five_le_ipIhl.mp (UInt8.not_lt.mp atLeastFive)
              complete := by
                rw [ipIhl_toNat] at complete
                simp only [iphdrSize] at length
                omega }, stands⟩

end Ipv4

/-- The type and what precedes and follows it. -/
theorem Frame.drop_bytes (frame : Frame) :
    frame.bytes.drop 12 = frame.tags.flatMap VlanTag.bytes ++
      ((#v[0x08, 0x00] : Vector UInt8 2).toList ++ frame.ip.bytes) := by
  have macs : frame.bytes.drop 0 = (frame.dst.toList ++ frame.src.toList) ++
      (frame.tags.flatMap VlanTag.bytes ++
        ((#v[0x08, 0x00] : Vector UInt8 2).toList ++ frame.ip.bytes)) := by
    simp [Frame.bytes]
  have twelve : (frame.dst.toList ++ frame.src.toList).length = 12 := by
    simp
  have behind := drop_add twelve macs
  exact behind

theorem VlanTag.length_flatMap (tags : List VlanTag) :
    (tags.flatMap VlanTag.bytes).length = vlanHdrSize * tags.length := by
  induction tags with
  | nil => rfl
  | cons tag tags induction =>
      have four : tag.bytes.length = vlanHdrSize := by
        rw [VlanTag.bytes, ← TagProtocol.toList_array]
        simp [vlanHdrSize]
      rw [List.flatMap_cons, List.length_append, induction, four,
        List.length_cons, Nat.mul_succ, Nat.add_comm]

theorem Frame.drop_ip (frame : Frame) :
    frame.bytes.drop (12 + vlanHdrSize * frame.tags.length + 2) =
      frame.ip.bytes :=
  drop_add Vector.length_toList
    (drop_add (VlanTag.length_flatMap frame.tags) frame.drop_bytes)

/-- The fields of a frame are copied into the event. -/
theorem fillEvent_frame (frame : Frame) {ip : Nat}
    (stands : frame.bytes.drop ip = frame.ip.bytes) :
    fillEvent frame.bytes 0 ethPIp ip = .ok frame.event := by
  have atDst : frame.bytes.drop 0 = frame.dst.toList ++
      (frame.src.toList ++ (frame.tags.flatMap VlanTag.bytes ++
        ([0x08, 0x00] ++ frame.ip.bytes))) := by
    simp [Frame.bytes]
  have atSrc := drop_add frame.dst.length_toList atDst
  have atProtocol : frame.bytes.drop (ip + 9) = frame.ip.protocol ::
      (frame.ip.checksum.toList ++ (frame.ip.saddr.toList ++
        (frame.ip.daddr.toList ++ frame.ip.rest))) := by
    have front : frame.bytes.drop ip =
        ([frame.ip.versionIhl] ++ frame.ip.fields.toList) ++
          (frame.ip.protocol :: (frame.ip.checksum.toList ++
            (frame.ip.saddr.toList ++
              (frame.ip.daddr.toList ++ frame.ip.rest)))) := by
      rw [stands, Ipv4.bytes]
      simp
    exact drop_add (by simp) front
  have atSaddr := drop_add frame.ip.checksum.length_toList
    (drop_add (List.length_singleton) atProtocol)
  have atDaddr := drop_add frame.ip.saddr.length_toList atSaddr
  rw [fillEvent, loadArray_of_drop (by decide) atSrc,
    loadArray_of_drop (by decide) atDst,
    loadArray_of_drop (by decide) atSaddr,
    loadArray_of_drop (by decide) atDaddr, loadByte_of_drop atProtocol]
  rfl

/-- A frame is parsed, and submitted when its interface is monitored. -/
theorem monitoring_frame (context : TcContext) (frame : Frame) :
    monitoring context frame.bytes =
      .ok (if context.monitored && context.reserves then [frame.event]
        else []) := by
  have long : ¬frame.bytes.length < 0 + ethhdrSize := by
    simp [Frame.bytes, ethhdrSize]
    omega
  have typed : parseEtherTypeAndNext frame.bytes 0 =
      .ok (some (ethPIp, 12 + vlanHdrSize * frame.tags.length + 2)) := by
    rw [parseEtherTypeAndNext_eq]
    rw [unwrapFrom_tags frame.atMostThree frame.drop_bytes (by decide)]
    rfl
  have header := Ipv4.parseIphdr_bytes frame.drop_ip
  have filled := fillEvent_frame frame frame.drop_ip
  rw [monitoring, parseEthhdr, if_neg long]
  simp only [typed, bind, Except.bind, ne_eq, not_true_eq_false, if_false,
    header]
  split
  · rw [filled]
    rfl
  · rfl

/-- A context in which every frame is submitted. -/
def submittingContext : TcContext where
  ifindex := 0
  mirrorMap _ := none
  monitorMap _ := some 1
  reserves := true

/-- The grammar is unambiguous as far as the event goes. -/
theorem Frame.event_unique {first second : Frame}
    (same : first.bytes = second.bytes) : first.event = second.event := by
  have one : monitoring submittingContext first.bytes =
      .ok [first.event] := monitoring_frame submittingContext first
  have other : monitoring submittingContext second.bytes =
      .ok [second.event] := monitoring_frame submittingContext second
  rw [same, other] at one
  exact (List.cons.inj (Except.ok.inj one)).1.symm

/-- What is parsed is a frame. -/
theorem exists_frame {packet : List UInt8} {tags : List VlanTag}
    {bytes : Vector UInt8 2} {ip : Ipv4}
    (long : ethhdrSize ≤ packet.length) (few : tags.length ≤ 3)
    (isIp : bpfNtohs bytes = ethPIp)
    (stands : packet.drop 12 =
      tags.flatMap VlanTag.bytes ++ (bytes.toList ++ ip.bytes)) :
    ∃ frame : Frame, packet = frame.bytes := by
  have type : bytes = #v[0x08, 0x00] := bpfNtohs_injective isIp
  simp only [ethhdrSize] at long
  obtain ⟨dst, rest, rfl⟩ := exists_array packet (show 6 ≤ _ by omega)
  rw [List.length_append, Vector.length_toList] at long
  obtain ⟨src, rest, rfl⟩ := exists_array rest (show 6 ≤ _ by omega)
  refine ⟨{ dst, src, tags, ip, atMostThree := few }, ?_⟩
  have twelve : (dst.toList ++ src.toList).length = 12 := by
    simp
  rw [← List.append_assoc, ← twelve, List.drop_left] at stands
  rw [stands, type, Frame.bytes]
  simp

/-- What is not a frame is not submitted. -/
theorem monitoring_other (context : TcContext) {packet : List UInt8}
    (other : ¬∃ frame : Frame, packet = frame.bytes) :
    monitoring context packet = .ok [] := by
  rw [monitoring, parseEthhdr]
  by_cases short : packet.length < 0 + ethhdrSize
  · rw [if_pos short]
  · have long : ethhdrSize ≤ packet.length := by
      omega
    obtain ⟨unwrapped, result, tagged⟩ := tags_of_unwrapFrom 3 12
      (Nat.le_trans (by decide : 12 + 2 ≤ ethhdrSize) long)
    rw [if_neg short]
    simp only [parseEtherTypeAndNext_eq, Nat.zero_add, result, Except.map,
      bind, Except.bind]
    split
    · rfl
    · rename_i ethType nextHeader found
      obtain ⟨same, _⟩ := Option.filter_eq_some_iff.mp found
      obtain ⟨tags, bytes, rest, few, typed, stands, next⟩ :=
        tagged ethType nextHeader same
      split
      · rfl
      · rename_i isIp
        obtain ⟨parsed, header, accepted⟩ :=
          Ipv4.of_parseIphdr packet nextHeader
        rw [header]
        cases parsed with
        | none => rfl
        | some ip =>
            obtain ⟨_, ipv4, ipStands⟩ := accepted ip rfl
            rw [← next, ipStands] at stands
            exact absurd (exists_frame long few
              (typed.symm.trans (not_not.mp isIp)) stands) other

theorem TcContext.monitored_iff {context : TcContext} :
    context.monitored = true ↔
      ∃ value, context.monitorMap context.ifindex = some value ∧
        value ≠ 0 := by
  rw [monitored]
  cases context.monitorMap context.ifindex with
  | none => simp
  | some value => simp

/-- The program returns 0 without a load at or after `data_end`.  It submits
an event exactly if the interface is monitored, the ring buffer has room and
the packet is a frame, and the event is that of the frame. -/
theorem tcMirroring_accepts_frames (context : TcContext)
    (packet : List UInt8) :
    ∃ output, tcMirroring context packet = .ok output ∧
      output.returned = 0 ∧ output.submitted.length ≤ 1 ∧
      ∀ event, output.submitted = [event] ↔
        context.reserves = true ∧
        (∃ value, context.monitorMap context.ifindex = some value ∧
          value ≠ 0) ∧
        ∃ frame : Frame, packet = frame.bytes ∧ event = frame.event := by
  simp only [← TcContext.monitored_iff]
  by_cases isFrame : ∃ frame : Frame, packet = frame.bytes
  · obtain ⟨frame, rfl⟩ := isFrame
    rw [tcMirroring, monitoring_frame context frame]
    refine ⟨_, rfl, rfl, ?_, ?_⟩
    · dsimp only
      split
      · exact Nat.le_refl 1
      · exact Nat.zero_le 1
    · intro event
      dsimp only
      split
      · rename_i submits
        obtain ⟨monitored, reserves⟩ := Bool.and_eq_true_iff.mp submits
        constructor
        · intro submitted
          cases submitted
          exact ⟨reserves, monitored, frame, rfl, rfl⟩
        · rintro ⟨_, _, other, same, rfl⟩
          rw [Frame.event_unique same]
      · rename_i silent
        constructor
        · intro submitted
          cases submitted
        · rintro ⟨reserves, monitored, _⟩
          exact absurd (Bool.and_eq_true_iff.mpr ⟨monitored, reserves⟩) silent
  · rw [tcMirroring, monitoring_other context isFrame]
    refine ⟨_, rfl, rfl, Nat.zero_le _, ?_⟩
    intro event
    constructor
    · intro submitted
      cases submitted
    · rintro ⟨_, _, frame, same, _⟩
      exact absurd ⟨frame, same⟩ isFrame

/-- A tagged packet of a monitored interface. -/
example : tcMirroring submittingContext
    ([1, 2, 3, 4, 5, 6, 7, 8, 9, 10, 11, 12, 0x81, 0x00, 0, 5, 0x08, 0x00,
      0x45, 0, 0, 20, 0, 0, 0, 0, 64, 17, 0, 0, 10, 0, 0, 1, 10, 0, 0, 2] :
      List UInt8) =
    .ok
      { returned := 0
        clones := []
        submitted :=
          [{ srcMac := #v[7, 8, 9, 10, 11, 12]
             dstMac := #v[1, 2, 3, 4, 5, 6]
             ethType := 0x0800
             srcIp := #v[10, 0, 0, 1]
             dstIp := #v[10, 0, 0, 2]
             ipProto := 17 }] } := by
  rfl

end LibbpfControl.TcBpf
