import LibbpfControl.Keyed

/-!
# Interface snapshots

`reload_snapshot` builds a map from interface names to records out of the
list returned by `getifaddrs`.  An entry registers its interface and, when it
is an IPv4 entry, may fill the address fields of the registered record; the
two concerns are separate functions here as they are in the source.

The system calls made while the list is read are the fields of
`InterfaceSystem`; they are fixed functions during one refresh.
-/

namespace LibbpfControl.NicCheck

structure InterfaceInfo where
  name : String
  macAddress : String
  ipAddress : String
  netmask : String
  broadcastAddress : String
  ifindex : UInt32
  deriving DecidableEq, Repr

inductive InterfaceError where
  | noError
  | getIfAddrsError
  | ioctlError
  | invalidInterfaceError
  | socketError
  | inetNtoPError
  | notExistIfIndexError
  | notExistIfNameError
  | netlinkSocketError
  | netlinkBindError
  | netlinkReceiveError
  | netlinkOverrunError
  | wakeFdError
  | pollError
  | monitorThreadError
  deriving DecidableEq, Repr

/-- `std::unordered_map<std::string, InterfaceInfo>`. -/
abbrev InterfaceMap : Type :=
  Keyed (Prod.fst : String × InterfaceInfo → String)

/-- What a query stores in `last_error_`. -/
def queryError {Answer : Type} (missing : InterfaceError) :
    Option Answer → InterfaceError
  | some _ => .noError
  | none => missing

/-- `get_ifindex_by_ifname`: zero when the name is not in the snapshot. -/
def getIfindexByIfname (current : InterfaceMap) (ifname : String) :
    UInt32 × InterfaceError :=
  let found := current.find? ifname
  ((found.map fun entry => entry.2.ifindex).getD 0,
    queryError .notExistIfNameError found)

theorem getIfindexByIfname_of_mem {current : InterfaceMap}
    {ifname : String} {info : InterfaceInfo}
    (member : (ifname, info) ∈ current) :
    (getIfindexByIfname current ifname).1 = info.ifindex := by
  have found : current.find? ifname = some (ifname, info) :=
    Keyed.find?_eq_some_iff.mpr ⟨member, rfl⟩
  simp [getIfindexByIfname, found]

/-- A snapshot with one interface. -/
def singleInterface (ifname : String) (ifindex : UInt32) : InterfaceMap where
  items :=
    [(ifname,
      { name := ifname
        macAddress := "02:00:00:00:00:01"
        ipAddress := "N/A"
        netmask := "N/A"
        broadcastAddress := "N/A"
        ifindex := ifindex })]
  distinct := by simp

inductive AddressFamily where
  | inet
  | packet
  | other (code : UInt16)
  deriving DecidableEq, Repr

structure SockAddr where
  family : AddressFamily
  inAddr : UInt32
  deriving DecidableEq, Repr

structure IfAddrs where
  name : String
  flags : UInt32
  addr : Option SockAddr
  netmask : Option SockAddr
  broadaddr : Option SockAddr
  deriving DecidableEq, Repr

def iffBroadcast : UInt32 := 0x2
def iffLoopback : UInt32 := 0x8

/-- `IFNAMSIZ - 1`, the bytes of a name which fit `ifr_name`. -/
def maxIfnameLength : Nat := 15

def nameBytes (ifname : String) : List UInt8 :=
  ifname.toList.flatMap String.utf8EncodeChar

/-- The value of an address field for which there is no address. -/
def noAddress : String := "N/A"

/-- The system calls of one refresh.  `hardwareAddress` is the answer of the
`SIOCGIFHWADDR` request for the bytes in `ifr_name`, and `none` when the
request fails. -/
structure InterfaceSystem where
  ifNametoindex : String → UInt32
  hardwareAddress : List UInt8 → Option (Vector UInt8 6)
  inetNtop : UInt32 → Option String

def hexDigit (value : UInt8) : Char :=
  if value < 10 then Char.ofNat ('0'.toNat + value.toNat)
  else Char.ofNat ('A'.toNat + (value.toNat - 10))

def hexByte (value : UInt8) : List Char :=
  [hexDigit (value / 16), hexDigit (value % 16)]

/-- `%02X:%02X:%02X:%02X:%02X:%02X`. -/
def macToString (mac : Vector UInt8 6) : String :=
  String.ofList (List.intercalate [':'] (mac.toList.map hexByte))

def getMacStringByIfname (system : InterfaceSystem) (ifname : String) :
    String :=
  match system.hardwareAddress ((nameBytes ifname).take maxIfnameLength) with
  | none => ""
  | some mac => macToString mac

def getIpStringBySockaddrIn (system : InterfaceSystem) :
    Option SockAddr → String
  | none => ""
  | some addr =>
      if addr.family = .inet then (system.inetNtop addr.inAddr).getD ""
      else ""

/-- An entry which takes part in the snapshot: it has an address, is not
loopback, and is of a handled family. -/
def IfAddrs.eligible (ifa : IfAddrs) : Option SockAddr :=
  match ifa.addr with
  | none => none
  | some addr =>
      if ifa.flags &&& iffLoopback ≠ 0 then none
      else if addr.family = .inet ∨ addr.family = .packet then some addr
      else none

/-- The record of an interface which was not seen before.  An interface
without an index or without a hardware address is skipped. -/
def newInterface (system : InterfaceSystem) (ifname : String) :
    Option InterfaceInfo :=
  let ifindex := system.ifNametoindex ifname
  if ifindex = 0 then none
  else
    let mac := getMacStringByIfname system ifname
    if mac = "" then none
    else some
      { name := ifname
        macAddress := mac
        ipAddress := noAddress
        netmask := noAddress
        broadcastAddress := noAddress
        ifindex := ifindex }

/-- Find the record of an interface, registering it when it is new. -/
def registerInterface (system : InterfaceSystem) (processed : InterfaceMap)
    (ifname : String) : Option (InterfaceMap × InterfaceInfo) :=
  match processed.find? ifname with
  | some (_, info) => some (processed, info)
  | none =>
      (newInterface system ifname).map fun info =>
        (processed.insert (ifname, info), info)

/-- The address fields carried by an IPv4 entry; `none` when one of the
conversions failed. -/
def ipv4Fields (system : InterfaceSystem) (ifa : IfAddrs) :
    Option (String × String × String) :=
  let deviceIp := getIpStringBySockaddrIn system ifa.addr
  let subnetIp := getIpStringBySockaddrIn system ifa.netmask
  let broadcastIp :=
    if ifa.flags &&& iffBroadcast ≠ 0 then
      getIpStringBySockaddrIn system ifa.broadaddr
    else noAddress
  if deviceIp = "" ∨ subnetIp = "" ∨ broadcastIp = "" then none
  else some (deviceIp, subnetIp, broadcastIp)

def InterfaceInfo.withIpv4 (fields : String × String × String)
    (info : InterfaceInfo) : InterfaceInfo :=
  { info with
    ipAddress := fields.1
    netmask := fields.2.1
    broadcastAddress := fields.2.2 }

/-- The body of the loop of `reload_snapshot` over the entries. -/
def processEntry (system : InterfaceSystem) (processed : InterfaceMap)
    (ifa : IfAddrs) : InterfaceMap :=
  match ifa.eligible with
  | none => processed
  | some addr =>
      match registerInterface system processed ifa.name with
      | none => processed
      | some (registered, info) =>
          if addr.family ≠ .inet then registered
          -- only the first usable IPv4 entry of an interface is kept
          else if info.ipAddress ≠ noAddress then registered
          else
            match ipv4Fields system ifa with
            | none => registered
            | some fields =>
                registered.modify ifa.name
                  (fun entry => (entry.1, entry.2.withIpv4 fields))
                  (fun _ => rfl)

/-- The map built from the whole list. -/
def processEntries (system : InterfaceSystem) (entries : List IfAddrs) :
    InterfaceMap :=
  entries.foldl (processEntry system) Keyed.empty

/-- The part of an `InterfaceLoader` which a refresh reads and writes.
`sockOpen` says that the constructor obtained the `ioctl` socket. -/
structure SnapshotStore where
  interfaces : InterfaceMap
  lastError : InterfaceError
  sockOpen : Bool

/-- `reload_snapshot`, given the answer of `getifaddrs` (`none` when it
failed).  The second component is the published snapshot, if any. -/
def reloadSnapshot (system : InterfaceSystem)
    (answer : Option (List IfAddrs)) (store : SnapshotStore) :
    SnapshotStore × Option InterfaceMap :=
  if store.sockOpen then
    match answer with
    | none => ({ store with lastError := .getIfAddrsError }, none)
    | some entries =>
        let next := processEntries system entries
        ({ store with interfaces := next, lastError := .noError }, some next)
  else ({ store with lastError := .socketError }, none)

/-- The entry has an address of family `AF_INET` or `AF_PACKET`, and no
`IFF_LOOPBACK`. -/
def IfAddrs.Participates (ifa : IfAddrs) : Prop :=
  (ifa.addr.map SockAddr.family = some .inet ∨
      ifa.addr.map SockAddr.family = some .packet) ∧
    ifa.flags &&& 0x8 = 0

instance (ifa : IfAddrs) : Decidable ifa.Participates :=
  inferInstanceAs (Decidable (_ ∧ _))

/-- The labels which `reload_snapshot` registers: the names of participating
entries which have an index and a hardware address. -/
def Registered (system : InterfaceSystem) (entries : List IfAddrs)
    (label : String) : Prop :=
  (∃ ifa ∈ entries, ifa.name = label ∧ ifa.Participates) ∧
    system.ifNametoindex label ≠ 0 ∧
    getMacStringByIfname system label ≠ ""

instance (system : InterfaceSystem) (entries : List IfAddrs)
    (label : String) : Decidable (Registered system entries label) := by
  unfold Registered
  infer_instance

theorem eligible_iff {ifa : IfAddrs} :
    ifa.eligible ≠ none ↔ ifa.Participates := by
  unfold IfAddrs.eligible IfAddrs.Participates iffLoopback
  cases ifa.addr with
  | none => simp
  | some addr =>
      by_cases external : ifa.flags &&& 0x8 = 0
      · simp [external, or_iff_not_imp_left]
      · simp [external]

/-- A map which agrees with the system on names and indexes. -/
def IndexedBy (system : InterfaceSystem) (processed : InterfaceMap) : Prop :=
  ∀ label info, (label, info) ∈ processed →
    info.ifindex = system.ifNametoindex label

theorem newInterface_eq_some {system : InterfaceSystem} {ifname : String}
    {info : InterfaceInfo}
    (created : newInterface system ifname = some info) :
    info.ifindex = system.ifNametoindex ifname ∧
      system.ifNametoindex ifname ≠ 0 ∧
      getMacStringByIfname system ifname ≠ "" := by
  simp only [newInterface] at created
  split at created
  · cases created
  · split at created
    · cases created
    · rename_i indexed macPresent
      simp only [Option.some.injEq] at created
      subst info
      exact ⟨rfl, indexed, macPresent⟩

theorem newInterface_isSome {system : InterfaceSystem} {ifname : String}
    (indexed : system.ifNametoindex ifname ≠ 0)
    (macPresent : getMacStringByIfname system ifname ≠ "") :
    ∃ info, newInterface system ifname = some info := by
  simp [newInterface, indexed, macPresent]

/-- Registering an interface adds its name, with its index, or leaves the map
as it was. -/
theorem registerInterface_eq_some {system : InterfaceSystem}
    {processed registered : InterfaceMap} {ifname : String}
    {info : InterfaceInfo}
    (found : registerInterface system processed ifname =
      some (registered, info)) :
    (registered = processed ∧ (ifname, info) ∈ processed) ∨
      (newInterface system ifname = some info ∧
        ∀ entry, entry ∈ registered ↔
          entry = (ifname, info) ∨ entry ∈ processed) := by
  unfold registerInterface at found
  cases known : processed.find? ifname with
  | some entry =>
      simp only [known, Option.some.injEq, Prod.mk.injEq] at found
      obtain ⟨rfl, rfl⟩ := found
      obtain ⟨member, sameName⟩ := Keyed.find?_eq_some_iff.mp known
      left
      refine ⟨rfl, ?_⟩
      rw [← sameName]
      exact member
  | none =>
      simp only [known, Option.map_eq_some_iff, Prod.mk.injEq] at found
      obtain ⟨created, new, rfl, rfl⟩ := found
      right
      refine ⟨new, ?_⟩
      intro entry
      exact Keyed.mem_insert_of_absent known

theorem registerInterface_eq_none {system : InterfaceSystem}
    {processed : InterfaceMap} {ifname : String}
    (skipped : registerInterface system processed ifname = none) :
    newInterface system ifname = none := by
  unfold registerInterface at skipped
  cases known : processed.find? ifname with
  | some entry => simp [known] at skipped
  | none => simpa [known] using skipped

/-- The names of a map. -/
def Names (current : InterfaceMap) (label : String) : Prop :=
  ∃ info, (label, info) ∈ current

theorem names_iff_of_registered {system : InterfaceSystem}
    {processed registered : InterfaceMap} {ifname : String}
    {info : InterfaceInfo} (label : String)
    (found : registerInterface system processed ifname =
      some (registered, info))
    (indexed : IndexedBy system processed)
    (known : ∀ label, Names processed label →
      system.ifNametoindex label ≠ 0 ∧
        getMacStringByIfname system label ≠ "") :
    IndexedBy system registered ∧
      (Names registered label ↔ Names processed label ∨
        (ifname = label ∧ system.ifNametoindex label ≠ 0 ∧
          getMacStringByIfname system label ≠ "")) := by
  rcases registerInterface_eq_some found with
    ⟨rfl, member⟩ | ⟨created, members⟩
  · refine ⟨indexed, ?_⟩
    constructor
    · exact Or.inl
    · rintro (old | ⟨rfl, _⟩)
      · exact old
      · exact ⟨info, member⟩
  · obtain ⟨sameIndex, nonzero, macPresent⟩ := newInterface_eq_some created
    constructor
    · intro name record entryMember
      rcases (members (name, record)).mp entryMember with new | old
      · simp only [Prod.mk.injEq] at new
        obtain ⟨rfl, rfl⟩ := new
        exact sameIndex
      · exact indexed name record old
    · constructor
      · rintro ⟨record, entryMember⟩
        rcases (members (label, record)).mp entryMember with new | old
        · simp only [Prod.mk.injEq] at new
          obtain ⟨rfl, _⟩ := new
          exact Or.inr ⟨rfl, nonzero, macPresent⟩
        · exact Or.inl ⟨record, old⟩
      · rintro (⟨record, old⟩ | ⟨rfl, _⟩)
        · exact ⟨record, (members _).mpr (Or.inr old)⟩
        · exact ⟨info, (members _).mpr (Or.inl rfl)⟩

theorem names_modify {current : InterfaceMap} {ifname label : String}
    {fields : String × String × String}
    {keepsName : ∀ entry : String × InterfaceInfo,
      ((entry.1, entry.2.withIpv4 fields) : String × InterfaceInfo).1 =
        entry.1} :
    Names (current.modify ifname
        (fun entry => (entry.1, entry.2.withIpv4 fields)) keepsName) label ↔
      Names current label := by
  constructor
  · rintro ⟨record, member⟩
    obtain ⟨⟨name, old⟩, oldMember, same⟩ := Keyed.mem_modify.mp member
    split at same <;> simp only [Prod.mk.injEq] at same
    · exact ⟨old, by rw [same.1]; exact oldMember⟩
    · exact ⟨old, by rw [same.1]; exact oldMember⟩
  · rintro ⟨record, member⟩
    by_cases same : label = ifname
    · exact ⟨record.withIpv4 fields,
        Keyed.mem_modify.mpr ⟨(label, record), member, by simp [same]⟩⟩
    · exact ⟨record,
        Keyed.mem_modify.mpr ⟨(label, record), member, by simp [same]⟩⟩

theorem indexedBy_modify {system : InterfaceSystem} {current : InterfaceMap}
    {ifname : String} {fields : String × String × String}
    {keepsName : ∀ entry : String × InterfaceInfo,
      ((entry.1, entry.2.withIpv4 fields) : String × InterfaceInfo).1 =
        entry.1}
    (indexed : IndexedBy system current) :
    IndexedBy system (current.modify ifname
      (fun entry => (entry.1, entry.2.withIpv4 fields)) keepsName) := by
  intro label record member
  obtain ⟨⟨name, old⟩, oldMember, same⟩ := Keyed.mem_modify.mp member
  have oldIndex := indexed name old oldMember
  split at same <;> simp only [Prod.mk.injEq] at same <;>
    obtain ⟨rfl, rfl⟩ := same
  · simpa [InterfaceInfo.withIpv4] using oldIndex
  · exact oldIndex

/-- What one entry of the list does to the names and indexes. -/
theorem processEntry_names {system : InterfaceSystem}
    {processed : InterfaceMap} (ifa : IfAddrs)
    (indexed : IndexedBy system processed)
    (known : ∀ label, Names processed label →
      system.ifNametoindex label ≠ 0 ∧
        getMacStringByIfname system label ≠ "") :
    IndexedBy system (processEntry system processed ifa) ∧
      ∀ label, Names (processEntry system processed ifa) label ↔
        Names processed label ∨
          ((ifa.name = label ∧ ifa.eligible ≠ none) ∧
            system.ifNametoindex label ≠ 0 ∧
            getMacStringByIfname system label ≠ "") := by
  unfold processEntry
  cases usable : ifa.eligible with
  | none => simpa using indexed
  | some addr =>
      simp only
      cases found : registerInterface system processed ifa.name with
      | none =>
          refine ⟨indexed, fun label => ?_⟩
          constructor
          · exact Or.inl
          · rintro (old | ⟨⟨rfl, _⟩, nonzero, macPresent⟩)
            · exact old
            · obtain ⟨info, created⟩ :=
                newInterface_isSome nonzero macPresent
              rw [registerInterface_eq_none found] at created
              cases created
      | some result =>
          obtain ⟨registered, info⟩ := result
          have spec := fun label =>
            names_iff_of_registered label found indexed known
          have registeredNames : ∀ label, Names registered label ↔
              Names processed label ∨
                ((ifa.name = label ∧ some addr ≠ none) ∧
                  system.ifNametoindex label ≠ 0 ∧
                  getMacStringByIfname system label ≠ "") := by
            intro label
            simpa using (spec label).2
          simp only
          split
          · exact ⟨(spec "").1, registeredNames⟩
          · split
            · exact ⟨(spec "").1, registeredNames⟩
            · split
              · exact ⟨(spec "").1, registeredNames⟩
              · refine ⟨indexedBy_modify (spec "").1, fun label => ?_⟩
                rw [names_modify]
                exact registeredNames label

private theorem foldl_processEntry_names (system : InterfaceSystem)
    (entries : List IfAddrs) (processed : InterfaceMap)
    (indexed : IndexedBy system processed)
    (known : ∀ label, Names processed label →
      system.ifNametoindex label ≠ 0 ∧
        getMacStringByIfname system label ≠ "") :
    IndexedBy system (entries.foldl (processEntry system) processed) ∧
      ∀ label,
        Names (entries.foldl (processEntry system) processed) label ↔
          Names processed label ∨ Registered system entries label := by
  induction entries generalizing processed with
  | nil => simpa [Registered] using indexed
  | cons ifa entries induction =>
      obtain ⟨nextIndexed, nextNames⟩ :=
        processEntry_names ifa indexed known
      have nextKnown : ∀ label,
          Names (processEntry system processed ifa) label →
            system.ifNametoindex label ≠ 0 ∧
              getMacStringByIfname system label ≠ "" := by
        intro label named
        rcases (nextNames label).mp named with old | ⟨_, present⟩
        · exact known label old
        · exact present
      obtain ⟨finalIndexed, finalNames⟩ :=
        induction _ nextIndexed nextKnown
      refine ⟨finalIndexed, fun label => ?_⟩
      simp only [List.foldl_cons, finalNames label, nextNames label,
        Registered, ← eligible_iff, List.mem_cons, exists_eq_or_imp]
      tauto

/-- The snapshot has exactly the registered labels, each with the index the
system gives for it. -/
theorem processEntries_names (system : InterfaceSystem)
    (entries : List IfAddrs) :
    IndexedBy system (processEntries system entries) ∧
      ∀ label, Names (processEntries system entries) label ↔
        Registered system entries label := by
  have noEntry : ∀ entry : String × InterfaceInfo,
      entry ∉ (Keyed.empty : InterfaceMap) := by
    intro entry member
    exact List.not_mem_nil member
  obtain ⟨indexed, names⟩ := foldl_processEntry_names system entries
    Keyed.empty
    (fun label info member => (noEntry _ member).elim)
    (fun label named => (noEntry _ named.choose_spec).elim)
  refine ⟨indexed, fun label => ?_⟩
  rw [processEntries, names label]
  constructor
  · rintro (⟨info, member⟩ | registered)
    · exact (noEntry _ member).elim
    · exact registered
  · exact Or.inr

end LibbpfControl.NicCheck
