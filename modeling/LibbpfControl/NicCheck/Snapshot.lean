import LibbpfControl.NicCheck.Interface

/-!
# What a refresh publishes

`interfaceRecord` says what the snapshot holds for a name, as a function of
the whole list of entries: the addresses are those of the first usable IPv4
entry, which `usableIpv4` describes by flags, families and `inet_ntop`.  The
loop of `reload_snapshot` meets the entries one by one, may
register an interface by one entry and fill its addresses by a later one, and
recognises a record which still has no address by the text in it.  Its result
is the specified map, and therefore depends on the order of the entries only
through the order of the IPv4 entries of each interface.
-/

namespace LibbpfControl.NicCheck

/-- An IPv4 entry of the interface, whatever its flags. -/
def IfAddrs.isInetOf (label : String) (ifa : IfAddrs) : Bool :=
  decide (ifa.name = label ∧ ifa.addr.map SockAddr.family = some .inet)

/-- The text of an address: the pointer is not null, the family is `AF_INET`
and `inet_ntop` gives a text. -/
def addressText (system : InterfaceSystem) : Option SockAddr → Option String
  | some ⟨.inet, address⟩ =>
      (system.inetNtop address).filter fun text => text ≠ ""
  | some ⟨.packet, _⟩ => none
  | some ⟨.other _, _⟩ => none
  | none => none

/-- The addresses the entry has for the interface: it is an IPv4 entry, not
`IFF_LOOPBACK`, and its address, its netmask and, with `IFF_BROADCAST`, its
broadcast address all have a text. -/
def usableIpv4 (system : InterfaceSystem) (label : String) (ifa : IfAddrs) :
    Option (String × String × String) :=
  if ifa.isInetOf label ∧ ifa.flags &&& 0x8 = 0 then do
    let ip ← addressText system ifa.addr
    let netmask ← addressText system ifa.netmask
    let broadcast ←
      if ifa.flags &&& 0x2 = 0 then some "N/A"
      else addressText system ifa.broadaddr
    return (ip, netmask, broadcast)
  else none

def firstIpv4 (system : InterfaceSystem) (entries : List IfAddrs)
    (label : String) : Option (String × String × String) :=
  entries.findSome? (usableIpv4 system label)

/-- The record of a registered interface. -/
def interfaceRecord (system : InterfaceSystem) (entries : List IfAddrs)
    (label : String) : InterfaceInfo :=
  let fields := (firstIpv4 system entries label).getD ("N/A", "N/A", "N/A")
  { name := label
    macAddress := getMacStringByIfname system label
    ipAddress := fields.1
    netmask := fields.2.1
    broadcastAddress := fields.2.2
    ifindex := system.ifNametoindex label }

/-- The map holds the registered names, with their records. -/
def Describes (system : InterfaceSystem) (entries : List IfAddrs)
    (current : InterfaceMap) : Prop :=
  ∀ label info, (label, info) ∈ current ↔
    Registered system entries label ∧
      info = interfaceRecord system entries label

/-- `inet_ntop` writes dotted decimal numbers. -/
def NumericAddresses (system : InterfaceSystem) : Prop :=
  ∀ address, system.inetNtop address ≠ some "N/A"

section Step

variable {system : InterfaceSystem} {entries : List IfAddrs}
  {ifa : IfAddrs} {label : String}

theorem firstIpv4_append :
    firstIpv4 system (entries ++ [ifa]) label =
      (firstIpv4 system entries label).or (usableIpv4 system label ifa) := by
  simp [firstIpv4, List.findSome?_append]

theorem getIpString_eq (addr : Option SockAddr) :
    getIpStringBySockaddrIn system addr =
      (addressText system addr).getD "" := by
  rcases addr with _ | ⟨family, address⟩
  · rfl
  · cases family with
    | packet => rfl
    | other code => rfl
    | inet =>
        cases answer : system.inetNtop address with
        | none => simp [getIpStringBySockaddrIn, addressText, answer]
        | some text =>
            by_cases empty : text = "" <;>
              simp [getIpStringBySockaddrIn, addressText, answer,
                Option.filter, empty]

theorem addressText_ne_empty {addr : Option SockAddr} {text : String}
    (converted : addressText system addr = some text) : text ≠ "" := by
  rcases addr with _ | ⟨family, address⟩
  · cases converted
  · cases family with
    | packet => cases converted
    | other code => cases converted
    | inet =>
        obtain ⟨_, nonempty⟩ := Option.filter_eq_some_iff.mp converted
        exact of_decide_eq_true nonempty

/-- The code takes an empty text for a failed conversion. -/
theorem ipv4Fields_eq (ifa : IfAddrs) :
    ipv4Fields system ifa = (do
      let ip ← addressText system ifa.addr
      let netmask ← addressText system ifa.netmask
      let broadcast ←
        if ifa.flags &&& 0x2 = 0 then some "N/A"
        else addressText system ifa.broadaddr
      return (ip, netmask, broadcast)) := by
  simp only [ipv4Fields, getIpString_eq, iffBroadcast, noAddress]
  cases ip : addressText system ifa.addr with
  | none => simp
  | some ip =>
      have ipText := addressText_ne_empty ‹_›
      cases netmask : addressText system ifa.netmask with
      | none => simp
      | some netmask =>
          have netmaskText := addressText_ne_empty ‹_›
          by_cases quiet : ifa.flags &&& 0x2 = 0
          · simp [quiet, ipText, netmaskText]
          · cases broadcast : addressText system ifa.broadaddr with
            | none => simp [quiet]
            | some broadcast =>
                have broadcastText := addressText_ne_empty ‹_›
                simp [quiet, ipText, netmaskText, broadcastText]

theorem usableIpv4_eq :
    usableIpv4 system label ifa =
      if ifa.isInetOf label ∧ ifa.flags &&& iffLoopback = 0 then
        ipv4Fields system ifa
      else none := by
  rw [ipv4Fields_eq]
  rfl

theorem usableIpv4_of_name (different : ifa.name ≠ label) :
    usableIpv4 system label ifa = none := by
  simp [usableIpv4, IfAddrs.isInetOf, different]

theorem eligible_of_usable {fields : String × String × String}
    (usable : usableIpv4 system label ifa = some fields) :
    ifa.name = label ∧ ifa.eligible ≠ none := by
  unfold usableIpv4 at usable
  split at usable
  · rename_i conditions
    obtain ⟨inet, external⟩ := conditions
    obtain ⟨named, family⟩ := of_decide_eq_true inet
    exact ⟨named, eligible_iff.mpr ⟨.inl family, external⟩⟩
  · cases usable

theorem usableIpv4_of_eligible (system : InterfaceSystem) {addr : SockAddr}
    (eligible : ifa.eligible = some addr) :
    usableIpv4 system ifa.name ifa =
      if addr.family = .inet then ipv4Fields system ifa else none := by
  unfold IfAddrs.eligible at eligible
  cases present : ifa.addr with
  | none => simp [present] at eligible
  | some found =>
      simp only [present] at eligible
      split at eligible
      · cases eligible
      · rename_i external
        split at eligible
        · cases eligible
          simp [usableIpv4_eq, IfAddrs.isInetOf, present,
            of_not_not external]
        · cases eligible

theorem firstIpv4_of_absent
    (absent : ¬∃ ifa ∈ entries, ifa.name = label ∧ ifa.eligible ≠ none) :
    firstIpv4 system entries label = none := by
  rw [firstIpv4, List.findSome?_eq_none_iff]
  intro ifa member
  cases usable : usableIpv4 system label ifa with
  | none => rfl
  | some fields => exact absurd ⟨ifa, member, eligible_of_usable usable⟩ absent

theorem getIpString_ne_noAddress (numeric : NumericAddresses system)
    (addr : Option SockAddr) :
    getIpStringBySockaddrIn system addr ≠ noAddress := by
  have failure : "" ≠ noAddress := by decide
  unfold getIpStringBySockaddrIn
  cases addr with
  | none => exact failure
  | some addr =>
      simp only
      split
      · cases answer : system.inetNtop addr.inAddr with
        | none => exact failure
        | some text =>
            intro same
            apply numeric addr.inAddr
            rw [answer]
            exact congrArg some same
      · exact failure

theorem ipv4Fields_ne_noAddress (numeric : NumericAddresses system)
    {fields : String × String × String}
    (converted : ipv4Fields system ifa = some fields) :
    fields.1 ≠ noAddress := by
  simp only [ipv4Fields] at converted
  obtain ⟨_, same⟩ := Option.ite_none_left_eq_some.mp converted
  rw [← Option.some.inj same]
  exact getIpString_ne_noAddress numeric ifa.addr

/-- The text in a record says whether its interface has had a usable entry. -/
theorem firstIpv4_eq_none_iff (numeric : NumericAddresses system) :
    firstIpv4 system entries label = none ↔
      (interfaceRecord system entries label).ipAddress = noAddress := by
  cases first : firstIpv4 system entries label with
  | none => simp [interfaceRecord, first, noAddress]
  | some fields =>
      have converted : fields.1 ≠ noAddress := by
        obtain ⟨ifa, _, usable⟩ := List.exists_of_findSome?_eq_some first
        rw [usableIpv4_eq] at usable
        obtain ⟨_, converted⟩ := Option.ite_none_right_eq_some.mp usable
        exact ipv4Fields_ne_noAddress numeric converted
      simp [interfaceRecord, first, converted]

theorem registered_append :
    Registered system (entries ++ [ifa]) label ↔
      Registered system entries label ∨
        ((ifa.name = label ∧ ifa.eligible ≠ none) ∧
          system.ifNametoindex label ≠ 0 ∧
          getMacStringByIfname system label ≠ "") := by
  simp only [Registered, eligible_iff, List.mem_append, List.mem_singleton,
    or_and_right, exists_or, exists_eq_left]

/-- An entry which registers nothing and has no address for the interface
leaves what is specified for it. -/
theorem interfaceRecord_append (unusable : usableIpv4 system label ifa = none) :
    interfaceRecord system (entries ++ [ifa]) label =
      interfaceRecord system entries label := by
  simp [interfaceRecord, firstIpv4_append, unusable]

theorem newInterface_record {info : InterfaceInfo}
    (absent : firstIpv4 system entries label = none)
    (created : newInterface system label = some info) :
    info = interfaceRecord system entries label := by
  simp only [newInterface] at created
  obtain ⟨_, created⟩ := Option.ite_none_left_eq_some.mp created
  obtain ⟨_, created⟩ := Option.ite_none_left_eq_some.mp created
  rw [← Option.some.inj created]
  simp [interfaceRecord, absent, noAddress]

/-- The map after registration has the new name, and what was specified
before the entry. -/
theorem describes_registered {processed registered : InterfaceMap}
    {info : InterfaceInfo} (described : Describes system entries processed)
    (eligible : ifa.eligible ≠ none)
    (found : registerInterface system processed ifa.name =
      some (registered, info)) :
    info = interfaceRecord system entries ifa.name ∧
      ∀ label record, (label, record) ∈ registered ↔
        Registered system (entries ++ [ifa]) label ∧
          record = interfaceRecord system entries label := by
  rcases registerInterface_eq_some found with
    ⟨rfl, member⟩ | ⟨created, members⟩
  · obtain ⟨known, same⟩ := (described ifa.name info).mp member
    refine ⟨same, fun label record => ?_⟩
    rw [described label record, registered_append]
    apply and_congr_left'
    constructor
    · exact Or.inl
    · rintro (old | ⟨⟨rfl, _⟩, _⟩)
      · exact old
      · exact known
  · obtain ⟨_, indexed, macPresent⟩ := newInterface_eq_some created
    have same : info = interfaceRecord system entries ifa.name := by
      by_cases known : Registered system entries ifa.name
      · have old := (members _).mpr
          (.inr ((described ifa.name _).mpr ⟨known, rfl⟩))
        have new := (members _).mpr (.inl rfl)
        exact (Prod.mk.inj (Keyed.eq_of_mem new old rfl)).2
      · apply newInterface_record _ created
        apply firstIpv4_of_absent
        simp only [eligible_iff]
        intro present
        exact known ⟨present, indexed, macPresent⟩
    refine ⟨same, fun label record => ?_⟩
    rw [members, described label record, registered_append, or_and_right,
      or_comm]
    apply or_congr_right
    constructor
    · rintro ⟨rfl, rfl⟩
      exact ⟨⟨⟨rfl, eligible⟩, indexed, macPresent⟩, same⟩
    · rintro ⟨⟨⟨rfl, _⟩, _⟩, rfl⟩
      rw [same]

/-- Filling in the addresses of the interface of an entry. -/
theorem describes_filled {registered : InterfaceMap}
    {fields : String × String × String}
    (members : ∀ label record, (label, record) ∈ registered ↔
      Registered system (entries ++ [ifa]) label ∧
        record = interfaceRecord system entries label)
    (absent : firstIpv4 system entries ifa.name = none)
    (usable : usableIpv4 system ifa.name ifa = some fields) :
    Describes system (entries ++ [ifa])
      (registered.modify ifa.name
        (fun entry => (entry.1, entry.2.withIpv4 fields))
        (fun _ => rfl)) := by
  have filled : interfaceRecord system (entries ++ [ifa]) ifa.name =
      (interfaceRecord system entries ifa.name).withIpv4 fields := by
    simp [interfaceRecord, firstIpv4_append, absent, usable,
      InterfaceInfo.withIpv4]
  intro label record
  rw [Keyed.mem_modify]
  constructor
  · rintro ⟨⟨name, old⟩, member, changed⟩
    obtain ⟨known, rfl⟩ := (members name old).mp member
    by_cases named : name = ifa.name
    · subst named
      simp only [if_true, Prod.mk.injEq] at changed
      obtain ⟨rfl, rfl⟩ := changed
      exact ⟨known, filled.symm⟩
    · simp only [named, if_false, Prod.mk.injEq] at changed
      obtain ⟨rfl, rfl⟩ := changed
      exact ⟨known, (interfaceRecord_append
        (usableIpv4_of_name (Ne.symm named))).symm⟩
  · rintro ⟨known, rfl⟩
    refine ⟨(label, interfaceRecord system entries label),
      (members _ _).mpr ⟨known, rfl⟩, ?_⟩
    by_cases named : label = ifa.name
    · subst named
      simp [filled]
    · simp [named, interfaceRecord_append
        (usableIpv4_of_name (Ne.symm named))]

theorem describes_unchanged {registered : InterfaceMap}
    (members : ∀ label record, (label, record) ∈ registered ↔
      Registered system (entries ++ [ifa]) label ∧
        record = interfaceRecord system entries label)
    (kept : firstIpv4 system (entries ++ [ifa]) ifa.name =
      firstIpv4 system entries ifa.name) :
    Describes system (entries ++ [ifa]) registered := by
  intro label record
  rw [members label record]
  by_cases named : ifa.name = label
  · subst named
    simp [interfaceRecord, kept]
  · rw [interfaceRecord_append (usableIpv4_of_name named)]

/-- An entry which cannot register its interface. -/
theorem describes_skipped {processed : InterfaceMap}
    (described : Describes system entries processed)
    (skipped : ∀ label, ifa.name = label → ifa.eligible ≠ none →
      ¬(system.ifNametoindex label ≠ 0 ∧
        getMacStringByIfname system label ≠ "")) :
    Describes system (entries ++ [ifa]) processed := by
  intro label record
  have nothing : ¬((ifa.name = label ∧ ifa.eligible ≠ none) ∧
      system.ifNametoindex label ≠ 0 ∧
      getMacStringByIfname system label ≠ "") :=
    fun new => skipped label new.1.1 new.1.2 new.2
  rw [described label record, registered_append, or_iff_left nothing]
  apply and_congr_right
  intro known
  have unusable : usableIpv4 system label ifa = none := by
    cases usable : usableIpv4 system label ifa with
    | none => rfl
    | some fields =>
        exact absurd ⟨eligible_of_usable usable, known.2⟩ nothing
  rw [interfaceRecord_append unusable]

/-- The loop body on an entry whose interface is registered: an address is
filled in only if none was before. -/
theorem describes_addressed {registered : InterfaceMap} {addr : SockAddr}
    (numeric : NumericAddresses system)
    (eligible : ifa.eligible = some addr)
    (members : ∀ label record, (label, record) ∈ registered ↔
      Registered system (entries ++ [ifa]) label ∧
        record = interfaceRecord system entries label) :
    Describes system (entries ++ [ifa])
      (if addr.family ≠ .inet then registered
      else if (interfaceRecord system entries ifa.name).ipAddress ≠
          noAddress then registered
      else
        match ipv4Fields system ifa with
        | none => registered
        | some fields =>
            registered.modify ifa.name
              (fun entry => (entry.1, entry.2.withIpv4 fields))
              (fun _ => rfl)) := by
  have usable := usableIpv4_of_eligible system eligible
  by_cases inet : addr.family = .inet
  · rw [if_pos inet] at usable
    rw [if_neg (not_not_intro inet)]
    split
    · rename_i addressed
      apply describes_unchanged members
      rw [Ne, ← firstIpv4_eq_none_iff numeric] at addressed
      obtain ⟨fields, first⟩ := Option.ne_none_iff_exists'.mp addressed
      simp [firstIpv4_append, first]
    · rename_i unaddressed
      have absent := (firstIpv4_eq_none_iff numeric).mpr
        (of_not_not unaddressed)
      cases converted : ipv4Fields system ifa with
      | none =>
          apply describes_unchanged members
          simp [firstIpv4_append, usable, converted]
      | some fields =>
          exact describes_filled members absent (usable.trans converted)
  · rw [if_neg inet] at usable
    rw [if_pos inet]
    apply describes_unchanged members
    simp [firstIpv4_append, usable]

/-- One entry takes the map which is specified for the entries before it to
the one specified with it. -/
theorem processEntry_describes {processed : InterfaceMap}
    (numeric : NumericAddresses system)
    (described : Describes system entries processed) :
    Describes system (entries ++ [ifa])
      (processEntry system processed ifa) := by
  unfold processEntry
  cases eligible : ifa.eligible with
  | none =>
      exact describes_skipped described
        (fun _ _ present => absurd eligible present)
  | some addr =>
      simp only
      cases found : registerInterface system processed ifa.name with
      | none =>
          apply describes_skipped described
          rintro label rfl _ ⟨indexed, macPresent⟩
          obtain ⟨info, created⟩ := newInterface_isSome indexed macPresent
          rw [registerInterface_eq_none found] at created
          cases created
      | some pair =>
          obtain ⟨registered, info⟩ := pair
          have present : ifa.eligible ≠ none := by simp [eligible]
          obtain ⟨rfl, members⟩ :=
            describes_registered described present found
          exact describes_addressed numeric eligible members

end Step

section Refresh

variable {system : InterfaceSystem}

theorem foldl_describes {processed : InterfaceMap}
    (numeric : NumericAddresses system) (done rest : List IfAddrs)
    (described : Describes system done processed) :
    Describes system (done ++ rest)
      (rest.foldl (processEntry system) processed) := by
  induction rest generalizing done processed with
  | nil => simpa using described
  | cons ifa rest induction =>
      have next := induction (done ++ [ifa])
        (processEntry_describes numeric described)
      simpa using next

theorem processEntries_describes (numeric : NumericAddresses system)
    (entries : List IfAddrs) :
    Describes system entries (processEntries system entries) := by
  apply foldl_describes numeric [] entries
  intro label record
  simp [Registered, Keyed.mem_def, Keyed.empty]

/-- The order of the entries matters only within the IPv4 entries of an
interface. -/
structure Reorders (left right : List IfAddrs) : Prop where
  permuted : left.Perm right
  inetOrder : ∀ label,
    left.filter (IfAddrs.isInetOf label) =
      right.filter (IfAddrs.isInetOf label)

theorem firstIpv4_filter (entries : List IfAddrs) (label : String) :
    firstIpv4 system (entries.filter (IfAddrs.isInetOf label)) label =
      firstIpv4 system entries label := by
  induction entries with
  | nil => rfl
  | cons ifa entries induction =>
      unfold firstIpv4 at induction ⊢
      cases inet : ifa.isInetOf label with
      | true => rw [List.filter_cons_of_pos inet, List.findSome?_cons,
          List.findSome?_cons, induction]
      | false =>
          have unusable : usableIpv4 system label ifa = none := by
            simp [usableIpv4, inet]
          rw [List.filter_cons_of_neg (by simp [inet]), List.findSome?_cons,
            unusable, induction]

theorem registered_perm {left right : List IfAddrs} {label : String}
    (permuted : left.Perm right) :
    Registered system left label ↔ Registered system right label := by
  simp only [Registered, permuted.mem_iff]

theorem interfaceRecord_of_reorders {left right : List IfAddrs}
    (reorders : Reorders left right) (label : String) :
    interfaceRecord system left label =
      interfaceRecord system right label := by
  have first : firstIpv4 system left label =
      firstIpv4 system right label := by
    rw [← firstIpv4_filter left, reorders.inetOrder label, firstIpv4_filter]
  simp only [interfaceRecord, first]

/-- A refresh publishes the specified map, the same for lists which differ
only in what does not matter.  Without a socket or without an answer of
`getifaddrs` the snapshot stays and nothing is published. -/
theorem reloadSnapshot_exact (numeric : NumericAddresses system)
    (store : SnapshotStore) :
    (store.sockOpen = true → ∀ entries,
      ∃ published,
        reloadSnapshot system (some entries) store =
          ({ store with interfaces := published, lastError := .noError },
            some published) ∧
        (∀ label info, (label, info) ∈ published ↔
          Registered system entries label ∧
            info = interfaceRecord system entries label) ∧
        ∀ reordered, Reorders reordered entries →
          ∃ same,
            (reloadSnapshot system (some reordered) store).2 = some same ∧
              ∀ entry, entry ∈ same ↔ entry ∈ published) ∧
      (store.sockOpen = true →
        reloadSnapshot system none store =
          ({ store with lastError := .getIfAddrsError }, none)) ∧
      (store.sockOpen = false → ∀ answer,
        reloadSnapshot system answer store =
          ({ store with lastError := .socketError }, none)) := by
  refine ⟨?_, ?_, ?_⟩
  · intro opened entries
    refine ⟨processEntries system entries, by simp [reloadSnapshot, opened],
      processEntries_describes numeric entries, ?_⟩
    intro reordered reorders
    refine ⟨processEntries system reordered,
      by simp [reloadSnapshot, opened], ?_⟩
    rintro ⟨label, info⟩
    rw [processEntries_describes numeric reordered label info,
      processEntries_describes numeric entries label info,
      registered_perm reorders.permuted,
      interfaceRecord_of_reorders reorders label]
  · intro opened
    simp [reloadSnapshot, opened]
  · intro closed answer
    simp [reloadSnapshot, closed]

end Refresh

/-- One interface and a loopback device. -/
def oneCardSystem : InterfaceSystem where
  ifNametoindex := fun ifname =>
    if ifname = "lo" then 1 else if ifname = "eth0" then 2 else 0
  hardwareAddress := fun _ => some (Vector.replicate 6 2)
  inetNtop := fun address =>
    some (if address = 1 then "10.0.0.1"
      else if address = 2 then "10.0.0.2"
      else "255.0.0.0")

def linkEntry : IfAddrs where
  name := "eth0"
  flags := 0
  addr := some ⟨.packet, 0⟩
  netmask := none
  broadaddr := none

def inetEntry (address : UInt32) : IfAddrs where
  name := "eth0"
  flags := 0
  addr := some ⟨.inet, address⟩
  netmask := some ⟨.inet, 255⟩
  broadaddr := none

/-- The first IPv4 entry of the interface has no netmask, the last one comes
too late. -/
def oneCardEntries : List IfAddrs :=
  [{ inetEntry 3 with name := "lo", flags := 0x8 },
    { inetEntry 3 with netmask := none }, linkEntry, inetEntry 1,
    inetEntry 2]

theorem oneCardSystem_numeric : NumericAddresses oneCardSystem := by
  intro address
  simp only [oneCardSystem]
  split
  · decide
  · split
    · decide
    · decide

theorem reloadSnapshot_exact_oneCard :
    ∃ published,
      reloadSnapshot oneCardSystem (some oneCardEntries)
          ⟨Keyed.empty, .noError, true⟩ =
        (⟨published, .noError, true⟩, some published) ∧
      (∀ info, ("eth0", info) ∈ published ↔
        info =
          { name := "eth0"
            macAddress := "02:02:02:02:02:02"
            ipAddress := "10.0.0.1"
            netmask := "255.0.0.0"
            broadcastAddress := "N/A"
            ifindex := 2 }) ∧
      ∀ info, ("lo", info) ∉ published := by
  obtain ⟨published, refreshed, members, _⟩ :=
    (reloadSnapshot_exact oneCardSystem_numeric
      ⟨Keyed.empty, .noError, true⟩).1 rfl oneCardEntries
  have registered : Registered oneCardSystem oneCardEntries "eth0" := by
    decide
  have loopback : ¬Registered oneCardSystem oneCardEntries "lo" := by
    decide
  refine ⟨published, refreshed, fun info => ?_, fun info => ?_⟩
  · rw [members]
    exact and_iff_right registered
  · rw [members]
    exact fun known => loopback known.1

end LibbpfControl.NicCheck
