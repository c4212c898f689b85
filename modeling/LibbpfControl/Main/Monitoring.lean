import LibbpfControl.Liveness
import LibbpfControl.SlotQueue
import LibbpfControl.TcBpf.PacketParser

/-!
# Monitoring from the packet to the log

The TC program runs on every CPU.  For a packet of a monitored interface it
reserves a `monitor_event` in the ring buffer, fills it and submits it.  The
monitor thread of the main program polls the ring and logs the addresses of
each event.  Between the two there are only bytes: the writer knows the layout
of the structure, the reader casts the pointer back.

`reported` says what all this is for.  It reads the packets and the calls of
`set_monitoring_target` in their order and lists the events which are due; it
knows nothing of rings, CPUs or layouts.

The ring and `monitor_map` are pinned, so a run goes on over the starts of the
process.  The program looks `monitor_map` up before it reserves; a packet
counts from its reservation on, or from the lookup if that rejects it.
-/

namespace LibbpfControl.Main

open NicCheck TcBpf

/-- `sizeof(struct monitor_event)`: 23 bytes, aligned to four. -/
def monitorEventSize : Nat := 24

/-- The packed structure on a little-endian machine.  The last byte is never
written. -/
def encodeEvent (event : MonitorEvent) (padding : UInt8) : List UInt8 :=
  event.srcMac.toList ++ event.dstMac.toList ++
    [event.ethType.toUInt8, (event.ethType >>> 8).toUInt8] ++
    event.srcIp.toList ++ event.dstIp.toList ++ [event.ipProto, padding]

/-- `INET_ADDRSTRLEN`. -/
def inetAddrstrlen : Nat := 16

def dotted (ip : Vector UInt8 4) : String :=
  toString ip[0].toNat ++ "." ++ toString ip[1].toNat ++ "." ++
    toString ip[2].toNat ++ "." ++ toString ip[3].toNat

/-- `inet_ntop`, which fails when the text and its terminator do not fit. -/
def inetNtop (ip : Vector UInt8 4) (size : Nat) : Option String :=
  if (dotted ip).length < size then some (dotted ip) else none

def ipToString (ip : Vector UInt8 4) : String :=
  match inetNtop ip inetAddrstrlen with
  | none => "0.0.0.0"
  | some text => text

structure CallbackResult where
  returned : Int
  logged : String
  deriving DecidableEq, Repr

/-- The callback of the monitor thread, with the bytes of a sample.  A read
behind them is a fault. -/
def monitorCb (data : List UInt8) : Load CallbackResult :=
  if data.length < monitorEventSize then
    .ok
      { returned := -1
        logged := "MOnitor error, received event size is too small" }
  else do
    let src ← loadArray data 14 4
    let dst ← loadArray data 18 4
    return { returned := 0
             logged := ipToString src ++ " -> " ++ ipToString dst }

/-- The program on one CPU, between its accesses to what is shared. -/
inductive Cpu where
  | idle
  /-- The packet has passed the test of `monitor_map`. -/
  | admitted (ifindex : UInt32) (packet : List UInt8) (event : MonitorEvent)
  /-- The program fills the slot which it has reserved. -/
  | filling (number : Nat) (event : MonitorEvent)
  deriving DecidableEq, Repr

inductive Happening where
  | target (ifindex : UInt32)
  /-- A packet which was handled, and whether it could reserve. -/
  | packet (ifindex : UInt32) (bytes : List UInt8) (reserves : Bool)
  deriving DecidableEq, Repr

structure Monitoring where
  monitorMap : UInt32 → Option UInt32
  ring : SlotQueue (List UInt8)
  cpus : Nat → Cpu
  /-- The monitor thread has its `ring_buffer`. -/
  created : Bool
  /-- What the calls of the callback did. -/
  results : List (Load CallbackResult)
  /-- What has happened, the latest first. -/
  history : List Happening

/-- What the program sees if its reservation succeeds. -/
def reservingContext (monitorMap : UInt32 → Option UInt32)
    (ifindex : UInt32) : TcContext where
  ifindex := ifindex
  mirrorMap _ := none
  monitorMap := monitorMap
  reserves := true

/-- The event for which the program goes on to reserve. -/
def admittedEvent (monitorMap : UInt32 → Option UInt32) (ifindex : UInt32)
    (packet : List UInt8) : Option MonitorEvent :=
  match monitoring (reservingContext monitorMap ifindex) packet with
  | .ok [event] => some event
  | _ => none

namespace Monitoring

def setMonitoringTarget (state : Monitoring) (snapshot : InterfaceMap)
    (ifname : String) (updateFails : Bool) : Monitoring :=
  match snapshot.find? ifname with
  | none => state
  | some (_, info) =>
      if updateFails then state
      else
        { state with
          monitorMap :=
            Function.update state.monitorMap info.ifindex (some 1)
          history := .target info.ifindex :: state.history }

def setCpu (state : Monitoring) (cpu : Nat) (phase : Cpu) : Monitoring :=
  { state with cpus := Function.update state.cpus cpu phase }

def handled (state : Monitoring) (ifindex : UInt32) (packet : List UInt8)
    (reserves : Bool) : Monitoring :=
  { state with
    history := .packet ifindex packet reserves :: state.history }

/-- The program up to the reservation. -/
def arrive (state : Monitoring) (cpu : Nat) (ifindex : UInt32)
    (packet : List UInt8) : Monitoring :=
  match admittedEvent state.monitorMap ifindex packet with
  | none => state.handled ifindex packet true
  | some event => state.setCpu cpu (.admitted ifindex packet event)

/-- `bpf_ringbuf_reserve`. -/
def reserve (state : Monitoring) (cpu : Nat) (ifindex : UInt32)
    (packet : List UInt8) (event : MonitorEvent) (reserves : Bool) :
    Monitoring :=
  if reserves then
    { (state.handled ifindex packet true).setCpu cpu
        (.filling state.ring.next event) with
      ring := state.ring.reserve }
  else (state.handled ifindex packet false).setCpu cpu .idle

/-- `bpf_ringbuf_submit` of the filled slot. -/
def submit (state : Monitoring) (cpu number : Nat) (event : MonitorEvent)
    (padding : UInt8) : Monitoring :=
  { state.setCpu cpu .idle with
    ring := state.ring.commit number (encodeEvent event padding) }

/-- One round of the loop in `ring_buffer__poll`. -/
def consume (state : Monitoring) (sample : List UInt8) : Monitoring :=
  { state with
    ring := state.ring.consume
    results := state.results ++ [monitorCb sample] }

end Monitoring

inductive MonitoringStep where
  | setMonitoringTarget (snapshot : InterfaceMap) (ifname : String)
      (updateFails : Bool)
  | arrive (cpu : Nat) (ifindex : UInt32) (packet : List UInt8)
  | reserve (cpu : Nat) (reserves : Bool)
  | submit (cpu : Nat) (padding : UInt8)
  /-- `event_buffer_create`, whose error the thread ignores. -/
  | eventBufferCreate (succeeds : Bool)
  | poll
  /-- The thread has left its loop and the process ends. -/
  | close

/-- The steps of the system.  Without a `ring_buffer` a poll returns at
once. -/
def Monitoring.step (state : Monitoring) :
    MonitoringStep → Option Monitoring
  | .setMonitoringTarget snapshot ifname updateFails =>
      some (state.setMonitoringTarget snapshot ifname updateFails)
  | .arrive cpu ifindex packet =>
      match state.cpus cpu with
      | .idle => some (state.arrive cpu ifindex packet)
      | _ => none
  | .reserve cpu reserves =>
      match state.cpus cpu with
      | .admitted ifindex packet event =>
          some (state.reserve cpu ifindex packet event reserves)
      | _ => none
  | .submit cpu padding =>
      match state.cpus cpu with
      | .filling number event => some (state.submit cpu number event padding)
      | _ => none
  | .eventBufferCreate succeeds => some { state with created := succeeds }
  | .poll =>
      if state.created then state.ring.front.map state.consume else none
  | .close => some { state with created := false }

def emptyMonitoring : Monitoring where
  monitorMap _ := none
  ring := .empty
  cpus _ := .idle
  created := false
  results := []
  history := []

def monitoringMachine : Machine Monitoring MonitoringStep where
  initial state := state = emptyMonitoring
  step := Monitoring.step

open Classical in
/-- The event of a packet, if the packet is a frame. -/
noncomputable def frameEvent (packet : List UInt8) : Option MonitorEvent :=
  if isFrame : ∃ frame : Frame, packet = frame.bytes then
    some isFrame.choose.event
  else none

/-- The events which are due, the oldest first. -/
noncomputable def reported : List Happening → List MonitorEvent
  | [] => []
  | .target _ :: earlier => reported earlier
  | .packet ifindex bytes reserves :: earlier =>
      reported earlier ++
        if .target ifindex ∈ earlier ∧ reserves = true then
          (frameEvent bytes).toList
        else []

/-- The call of the callback which an event leads to. -/
def printed (event : MonitorEvent) : Load CallbackResult :=
  .ok
    { returned := 0
      logged := dotted event.srcIp ++ " -> " ++ dotted event.dstIp }

theorem frameEvent_bytes (frame : Frame) :
    frameEvent frame.bytes = some frame.event := by
  have isFrame : ∃ other : Frame, frame.bytes = other.bytes := ⟨frame, rfl⟩
  rw [frameEvent, dif_pos isFrame]
  exact congrArg some (Frame.event_unique isFrame.choose_spec.symm)

theorem length_byte (byte : UInt8) : (toString byte.toNat).length ≤ 3 := by
  have all : ∀ value : Fin 256, (toString value.val).length ≤ 3 := by
    decide +kernel
  exact all ⟨byte.toNat, byte.toNat_lt⟩

/-- An address fits, so the text for a failure is never logged. -/
theorem ipToString_eq (ip : Vector UInt8 4) : ipToString ip = dotted ip := by
  have fits : (dotted ip).length < inetAddrstrlen := by
    have first := length_byte ip[0]
    have second := length_byte ip[1]
    have third := length_byte ip[2]
    have fourth := length_byte ip[3]
    have dot : ".".length = 1 := rfl
    simp only [dotted, String.length_append, dot, inetAddrstrlen]
    omega
  rw [ipToString, inetNtop, if_pos fits]

theorem monitorCb_encodeEvent (event : MonitorEvent) (padding : UInt8) :
    monitorCb (encodeEvent event padding) = printed event := by
  have long : ¬(encodeEvent event padding).length < monitorEventSize := by
    simp [encodeEvent, monitorEventSize]
  have whole : (encodeEvent event padding).drop 0 =
      (event.srcMac.toList ++ event.dstMac.toList ++
        [event.ethType.toUInt8, (event.ethType >>> 8).toUInt8]) ++
      (event.srcIp.toList ++ (event.dstIp.toList ++
        [event.ipProto, padding])) := by
    simp [encodeEvent]
  have fourteen : (event.srcMac.toList ++ event.dstMac.toList ++
      [event.ethType.toUInt8, (event.ethType >>> 8).toUInt8]).length =
        14 := by
    simp
  have atSrc : (encodeEvent event padding).drop 14 =
      event.srcIp.toList ++
        (event.dstIp.toList ++ [event.ipProto, padding]) :=
    drop_add fourteen whole
  have atDst : (encodeEvent event padding).drop 18 =
      event.dstIp.toList ++ [event.ipProto, padding] :=
    drop_add event.srcIp.length_toList atSrc
  rw [monitorCb, if_neg long, loadArray_of_drop (by decide) atSrc,
    loadArray_of_drop (by decide) atDst]
  simp only [bind, Except.bind, ipToString_eq]
  rfl

theorem admittedEvent_eq (monitorMap : UInt32 → Option UInt32)
    (ifindex : UInt32) (packet : List UInt8) :
    admittedEvent monitorMap ifindex packet =
      if (monitorMap ifindex).any (· != 0) then frameEvent packet
      else none := by
  have monitored : (reservingContext monitorMap ifindex).monitored =
      (monitorMap ifindex).any (· != 0) := by
    simp only [TcContext.monitored, reservingContext]
    cases monitorMap ifindex with
    | none => rfl
    | some value => rfl
  by_cases isFrame : ∃ frame : Frame, packet = frame.bytes
  · obtain ⟨frame, rfl⟩ := isFrame
    rw [admittedEvent, monitoring_frame, monitored, frameEvent_bytes]
    cases (monitorMap ifindex).any (· != 0) with
    | false => rfl
    | true => rfl
  · rw [admittedEvent, monitoring_other _ isFrame, frameEvent,
      dif_neg isFrame, ite_self]

/-- The steps which only bring what is reserved to the log. -/
def MonitoringStep.drains : MonitoringStep → Bool
  | .submit _ _ | .poll => true
  | _ => false

/-- What a step does. -/
inductive Monitoring.Moves (state : Monitoring) :
    MonitoringStep → Monitoring → Prop where
  | stays {label : MonitoringStep} (created : Bool)
      (other : label.drains = false) : Moves state label { state with created }
  | target {label : MonitoringStep} (ifindex : UInt32)
      (other : label.drains = false) :
      Moves state label
        { state with
          monitorMap := Function.update state.monitorMap ifindex (some 1)
          history := .target ifindex :: state.history }
  | reject {cpu : Nat} {ifindex : UInt32} {packet : List UInt8}
      (rejected : admittedEvent state.monitorMap ifindex packet = none) :
      Moves state (.arrive cpu ifindex packet)
        (state.handled ifindex packet true)
  | accept {cpu : Nat} {ifindex : UInt32} {packet : List UInt8}
      {event : MonitorEvent} (idle : state.cpus cpu = .idle)
      (accepted : admittedEvent state.monitorMap ifindex packet =
        some event) :
      Moves state (.arrive cpu ifindex packet)
        (state.setCpu cpu (.admitted ifindex packet event))
  | reserve {cpu : Nat} {ifindex : UInt32} {packet : List UInt8}
      {event : MonitorEvent} {reserves : Bool}
      (runs : state.cpus cpu = .admitted ifindex packet event) :
      Moves state (.reserve cpu reserves)
        (state.reserve cpu ifindex packet event reserves)
  | submit {cpu number : Nat} {event : MonitorEvent} {padding : UInt8}
      (runs : state.cpus cpu = .filling number event) :
      Moves state (.submit cpu padding)
        (state.submit cpu number event padding)
  | consume {sample : List UInt8} (found : state.ring.front = some sample) :
      Moves state .poll (state.consume sample)

theorem moves_of_step {state target : Monitoring} {label : MonitoringStep}
    (stepped : state.step label = some target) :
    state.Moves label target := by
  cases label with
  | setMonitoringTarget snapshot ifname updateFails =>
      cases stepped
      rw [Monitoring.setMonitoringTarget]
      split
      · exact .stays state.created rfl
      · split
        · exact .stays state.created rfl
        · exact .target _ rfl
  | arrive cpu ifindex packet =>
      simp only [Monitoring.step] at stepped
      split at stepped
      · rename_i idle
        cases stepped
        rw [Monitoring.arrive]
        split
        · rename_i rejected
          exact .reject rejected
        · rename_i event accepted
          exact .accept idle accepted
      · cases stepped
  | reserve cpu reserves =>
      simp only [Monitoring.step] at stepped
      split at stepped
      · rename_i runs
        cases stepped
        exact .reserve runs
      · cases stepped
  | submit cpu padding =>
      simp only [Monitoring.step] at stepped
      split at stepped
      · rename_i runs
        cases stepped
        exact .submit runs
      · cases stepped
  | eventBufferCreate succeeds =>
      cases stepped
      exact .stays succeeds rfl
  | poll =>
      simp only [Monitoring.step] at stepped
      split at stepped
      · obtain ⟨sample, found, rfl⟩ := Option.map_eq_some_iff.mp stepped
        exact .consume found
      · cases stepped
  | close =>
      cases stepped
      exact .stays false rfl

/-- The slot which a CPU fills. -/
def Cpu.ticket : Cpu → Option Nat
  | .filling number _ => some number
  | _ => none

/-- What the program on one CPU rests on. -/
def Cpu.Justified (history : List Happening) : Cpu → Prop
  | .idle => True
  | .admitted ifindex packet event =>
      .target ifindex ∈ history ∧ frameEvent packet = some event
  | .filling number event => (reported history)[number]? = some event

/-- The sample holds the event. -/
def Holds (event : MonitorEvent) (sample : List UInt8) : Prop :=
  ∃ padding, sample = encodeEvent event padding

structure Monitoring.Faithful (state : Monitoring) : Prop where
  targets : ∀ ifindex, state.monitorMap ifindex =
    if .target ifindex ∈ state.history then some 1 else none
  carries : state.ring.Carries Holds (reported state.history)
  writers : state.ring.Writers fun cpu => (state.cpus cpu).ticket
  justified : ∀ cpu, (state.cpus cpu).Justified state.history
  printed : state.results =
    ((reported state.history).take state.ring.consumed).map printed

/-- What is due stays due. -/
theorem exists_reported_append (happening : Happening)
    (history : List Happening) :
    ∃ later, reported (happening :: history) = reported history ++ later := by
  cases happening with
  | target ifindex => exact ⟨[], (List.append_nil _).symm⟩
  | packet ifindex bytes reserves => exact ⟨_, rfl⟩

theorem Cpu.Justified.later {phase : Cpu} {history : List Happening}
    (justified : phase.Justified history) (happening : Happening) :
    phase.Justified (happening :: history) := by
  cases phase with
  | idle => trivial
  | admitted ifindex packet event =>
      exact ⟨List.mem_cons_of_mem _ justified.1, justified.2⟩
  | filling number event =>
      obtain ⟨later, same⟩ := exists_reported_append happening history
      obtain ⟨inside, _⟩ := List.getElem?_eq_some_iff.mp justified
      rw [Cpu.Justified, same, List.getElem?_append_left inside]
      exact justified

/-- A packet which is rejected is not due. -/
theorem reported_rejected {monitorMap : UInt32 → Option UInt32}
    {history : List Happening} {ifindex : UInt32} {packet : List UInt8}
    (targets : monitorMap ifindex =
      if .target ifindex ∈ history then some 1 else none)
    (rejected : admittedEvent monitorMap ifindex packet = none)
    (reserves : Bool) :
    reported (.packet ifindex packet reserves :: history) =
      reported history := by
  rw [admittedEvent_eq, targets] at rejected
  by_cases isTarget : .target ifindex ∈ history
  · rw [if_pos isTarget] at rejected
    have notFrame : frameEvent packet = none := rejected
    simp [reported, notFrame]
  · simp [reported, isTarget]

theorem ticket_update (cpus : Nat → Cpu) (cpu : Nat) (phase : Cpu) :
    (fun other => (Function.update cpus cpu phase other).ticket) =
      Function.update (fun other => (cpus other).ticket) cpu
        phase.ticket :=
  Function.comp_update Cpu.ticket cpus cpu phase

namespace Monitoring.Faithful

variable {state : Monitoring} {cpu : Nat} {ifindex : UInt32}
  {packet : List UInt8} {event : MonitorEvent}

theorem empty : emptyMonitoring.Faithful where
  targets _ := rfl
  carries := .empty
  writers := .empty
  justified _ := trivial
  printed := rfl

variable (faithful : state.Faithful)
include faithful

/-- A new target concerns the packets after it. -/
theorem target (ifindex : UInt32) :
    Faithful
      { state with
        monitorMap := Function.update state.monitorMap ifindex (some 1)
        history := .target ifindex :: state.history } where
  targets other := by
    by_cases same : other = ifindex
    · simp [same]
    · simp [same, faithful.targets]
  carries := faithful.carries
  writers := faithful.writers
  justified other := (faithful.justified other).later _
  printed := faithful.printed

/-- A packet which is not due changes nothing. -/
theorem handled {reserves : Bool}
    (silent : reported (.packet ifindex packet reserves :: state.history) =
      reported state.history) :
    (state.handled ifindex packet reserves).Faithful where
  targets other := by
    simp [Monitoring.handled, faithful.targets]
  carries := silent ▸ faithful.carries
  writers := faithful.writers
  justified other := (faithful.justified other).later _
  printed := by
    simp only [Monitoring.handled, silent]
    exact faithful.printed

theorem justified_update {phase : Cpu}
    (justified : phase.Justified state.history) (other : Nat) :
    (Function.update state.cpus cpu phase other).Justified
      state.history := by
  by_cases same : other = cpu
  · rw [same, Function.update_self]
    exact justified
  · rw [Function.update_of_ne same]
    exact faithful.justified other

/-- A CPU goes on without a slot. -/
theorem setCpu {phase : Cpu} (before : (state.cpus cpu).ticket = none)
    (after : phase.ticket = none)
    (justified : phase.Justified state.history) :
    (state.setCpu cpu phase).Faithful where
  targets := faithful.targets
  carries := faithful.carries
  writers := by
    have same : (fun other =>
        (Function.update state.cpus cpu phase other).ticket) =
        fun other => (state.cpus other).ticket := by
      rw [ticket_update, after, ← before]
      exact Function.update_eq_self cpu fun other => (state.cpus other).ticket
    simp only [Monitoring.setCpu, same]
    exact faithful.writers
  justified := faithful.justified_update justified
  printed := faithful.printed

/-- A packet which finds room is due from now on, and its slot is the last. -/
theorem reserve_room (runs : state.cpus cpu = .admitted ifindex packet event) :
    (state.reserve cpu ifindex packet event true).Faithful := by
  obtain ⟨isTarget, isFrame⟩ : .target ifindex ∈ state.history ∧
      frameEvent packet = some event := by
    have justified := faithful.justified cpu
    rwa [runs] at justified
  have due : reported (.packet ifindex packet true :: state.history) =
      reported state.history ++ [event] := by
    rw [reported, if_pos ⟨isTarget, rfl⟩, isFrame, Option.toList_some]
  have length := faithful.carries.length
  constructor
  case targets =>
    intro other
    simp [Monitoring.reserve, Monitoring.handled, Monitoring.setCpu,
      faithful.targets]
  case carries =>
    have carries := faithful.carries.reserve event
    rwa [← due] at carries
  case writers =>
    have idle : (state.cpus cpu).ticket = none := by
      rw [runs]
      rfl
    show SlotQueue.Writers (fun other => (Function.update state.cpus cpu
      (.filling state.ring.next event) other).ticket) state.ring.reserve
    rw [ticket_update]
    exact faithful.writers.reserve idle
  case justified =>
    intro other
    by_cases same : other = cpu
    · subst same
      simp only [Monitoring.reserve, Monitoring.handled, Monitoring.setCpu,
        if_true, Function.update_self, Cpu.Justified]
      rw [due, ← length]
      simp
    · simp only [Monitoring.reserve, Monitoring.handled, Monitoring.setCpu,
        if_true, Function.update_of_ne same]
      exact (faithful.justified other).later _
  case printed =>
    have inside : state.ring.consumed ≤ (reported state.history).length := by
      rw [length]
      exact Nat.le_add_right _ _
    simp only [Monitoring.reserve, Monitoring.handled, Monitoring.setCpu,
      if_true, due, SlotQueue.reserve,
      List.take_append_of_le_length inside]
    exact faithful.printed

theorem reserve (runs : state.cpus cpu = .admitted ifindex packet event)
    (reserves : Bool) :
    (state.reserve cpu ifindex packet event reserves).Faithful := by
  cases reserves with
  | true => exact faithful.reserve_room runs
  | false =>
      have silent : reported (.packet ifindex packet false ::
          state.history) = reported state.history := by
        simp [reported]
      apply (faithful.handled silent).setCpu
      · rw [Monitoring.handled, runs]
        rfl
      · rfl
      · trivial

theorem submit {number : Nat} (runs : state.cpus cpu = .filling number event)
    (padding : UInt8) : (state.submit cpu number event padding).Faithful := by
  have mine : (state.cpus cpu).ticket = some number := by
    rw [runs]
    rfl
  have due : (reported state.history)[number]? = some event := by
    have justified := faithful.justified cpu
    rwa [runs] at justified
  constructor
  case targets => exact faithful.targets
  case carries =>
    exact faithful.carries.commit (faithful.writers.reserved cpu number mine)
      due ⟨padding, rfl⟩
  case writers =>
    show SlotQueue.Writers
      (fun other => (Function.update state.cpus cpu .idle other).ticket) _
    rw [ticket_update]
    exact faithful.writers.commit mine
  case justified => exact faithful.justified_update trivial
  case printed => exact faithful.printed

/-- The reader prints the oldest event which it has not printed. -/
theorem consume {sample : List UInt8}
    (found : state.ring.front = some sample) :
    (state.consume sample).Faithful := by
  constructor
  case targets => exact faithful.targets
  case carries => exact faithful.carries.consume found
  case writers => exact faithful.writers.consume found
  case justified => exact faithful.justified
  case printed =>
    obtain ⟨due, oldest, padding, rfl⟩ := faithful.carries.front found
    simp only [Monitoring.consume, SlotQueue.consume, List.take_add_one,
      oldest, Option.toList_some, List.map_append, faithful.printed,
      monitorCb_encodeEvent]
    rfl

theorem step {label : MonitoringStep} {target : Monitoring}
    (moves : state.Moves label target) : target.Faithful := by
  cases moves with
  | stays created =>
      exact ⟨faithful.targets, faithful.carries, faithful.writers,
        faithful.justified, faithful.printed⟩
  | target ifindex => exact faithful.target ifindex
  | reject rejected =>
      exact faithful.handled
        (reported_rejected (faithful.targets _) rejected true)
  | accept idle accepted =>
      rename_i cpu ifindex packet event
      rw [admittedEvent_eq, faithful.targets] at accepted
      by_cases isTarget : .target ifindex ∈ state.history
      · rw [if_pos isTarget] at accepted
        apply faithful.setCpu
        · rw [idle]
          rfl
        · rfl
        · exact ⟨isTarget, accepted⟩
      · rw [if_neg isTarget] at accepted
        cases accepted
  | reserve runs => exact faithful.reserve runs _
  | submit runs => exact faithful.submit runs _
  | consume found => exact faithful.consume found

end Monitoring.Faithful

theorem monitoring_faithful {state : Monitoring}
    (reached : monitoringMachine.Reachable state) : state.Faithful := by
  apply reached.invariant
  · rintro _ rfl
    exact .empty
  · intro before label after faithful stepped
    exact faithful.step (moves_of_step stepped)

/-- A poll finds nothing only if everything due is printed, or the CPU with
the next event has not submitted it. -/
def Monitoring.WaitsForCpu (state : Monitoring) : Prop :=
  state.ring.front = none →
    state.results = (reported state.history).map printed ∨
      ∃ cpu event, state.cpus cpu = .filling state.ring.consumed event

theorem Cpu.filling_of_ticket {phase : Cpu} {number : Nat}
    (held : phase.ticket = some number) :
    ∃ event, phase = .filling number event := by
  cases phase with
  | idle => cases held
  | admitted ifindex packet event => cases held
  | filling mine event =>
      cases held
      exact ⟨event, rfl⟩

namespace Monitoring.Faithful

variable {state : Monitoring} (faithful : state.Faithful)
include faithful

theorem printed_all (drained : state.ring.slots = []) :
    state.results = (reported state.history).map Main.printed := by
  have length := faithful.carries.length
  rw [SlotQueue.next, drained, List.length_nil, Nat.add_zero] at length
  rw [faithful.printed, ← length, List.take_length]

theorem filling_of_reserved {number : Nat}
    (reserved : state.ring.Reserved number) :
    ∃ cpu event, state.cpus cpu = .filling number event := by
  obtain ⟨cpu, held⟩ := faithful.writers.claimed number reserved
  exact ⟨cpu, Cpu.filling_of_ticket held⟩

theorem waitsForCpu : state.WaitsForCpu := by
  intro waits
  by_cases drained : state.ring.slots = []
  · exact .inl (faithful.printed_all drained)
  · exact .inr (faithful.filling_of_reserved
      (SlotQueue.reserved_of_front_eq_none waits drained))

end Monitoring.Faithful

/-- Over every interleaving of the CPUs, the main thread and the monitor
thread, and over every start of the process, the callback is called for
exactly the first events which are due, in their order and once for each.  It
reads inside the sample, returns 0 and logs the addresses of the packet.  A
poll which finds nothing has printed all of them, or waits for a CPU. -/
theorem monitoring_prints_in_order {state : Monitoring}
    (reached : monitoringMachine.Reachable state) :
    state.results =
        ((reported state.history).take state.ring.consumed).map printed ∧
      (reported state.history).length = state.ring.next ∧
      state.WaitsForCpu := by
  have faithful := monitoring_faithful reached
  exact ⟨faithful.printed, faithful.carries.length, faithful.waitsForCpu⟩

/-- A UDP packet between two addresses of 10.0.0.0. -/
def samplePacket (src dst : UInt8) : List UInt8 :=
  [1, 2, 3, 4, 5, 6, 7, 8, 9, 10, 11, 12, 0x08, 0x00, 0x45, 0, 0, 20, 0, 0,
    0, 0, 64, 17, 0, 0, 10, 0, 0, src, 10, 0, 0, dst]

/-- CPU 1 reserves before CPU 0 and submits after it. -/
def overtakenSteps : List MonitoringStep :=
  [.setMonitoringTarget (singleInterface "eth0" 2) "eth0" false,
    .eventBufferCreate true, .arrive 0 2 (samplePacket 1 2),
    .arrive 1 2 (samplePacket 3 4), .arrive 2 7 (samplePacket 5 6),
    .reserve 1 true, .reserve 0 true, .submit 0 0, .submit 1 0, .poll]

theorem overtakenSteps_enabled :
    (monitoringMachine.runWhere (fun _ _ => True) emptyMonitoring
      overtakenSteps).isSome = true := by
  decide +kernel

def overtakenMonitoring : Monitoring :=
  monitoringMachine.finish emptyMonitoring overtakenSteps
    overtakenSteps_enabled

theorem monitoring_prints_in_order_overtaken :
    overtakenMonitoring.results =
        ((reported overtakenMonitoring.history).take 1).map printed ∧
      (reported overtakenMonitoring.history).length = 2 ∧
      overtakenMonitoring.WaitsForCpu ∧
      overtakenMonitoring.results =
        [.ok { returned := 0, logged := "10.0.0.3 -> 10.0.0.4" }] := by
  have reached : monitoringMachine.Reachable overtakenMonitoring :=
    Machine.reachable_finish rfl overtakenSteps_enabled
  have consumed : overtakenMonitoring.ring.consumed = 1 := by
    decide +kernel
  have next : overtakenMonitoring.ring.next = 2 := by
    decide +kernel
  obtain ⟨inOrder, length, waits⟩ := monitoring_prints_in_order reached
  rw [consumed] at inOrder
  rw [next] at length
  exact ⟨inOrder, length, waits, by decide +kernel⟩

/-- The states of a drain: nothing new happens. -/
structure Monitoring.Draining (history : List Happening)
    (state : Monitoring) : Prop where
  faithful : state.Faithful
  created : state.created = true
  same : state.history = history

namespace Monitoring.Draining

variable {history : List Happening} {state : Monitoring}
  (draining : state.Draining history)
include draining

/-- Every step of a drain does some of the work. -/
theorem decreases {label : MonitoringStep} {target : Monitoring}
    (drains : label.drains = true) (stepped : state.step label = some target) :
    target.Draining history ∧ target.ring.work < state.ring.work := by
  have moves := moves_of_step stepped
  have faithful := draining.faithful.step moves
  cases moves with
  | stays created other =>
      rw [drains] at other
      cases other
  | target ifindex other =>
      rw [drains] at other
      cases other
  | reject rejected => cases drains
  | accept idle accepted => cases drains
  | reserve runs => cases drains
  | submit runs =>
      refine ⟨⟨faithful, draining.created, draining.same⟩, ?_⟩
      apply SlotQueue.work_commit
      apply draining.faithful.writers.reserved
      rw [runs]
      rfl
  | consume found =>
      exact ⟨⟨faithful, draining.created, draining.same⟩,
        SlotQueue.work_consume found⟩

/-- As long as something is in the ring, a CPU or the thread can go on. -/
theorem enabled (filled : state.ring.slots ≠ []) :
    ∃ label target, label.drains = true ∧
      state.step label = some target := by
  cases front : state.ring.front with
  | some sample =>
      refine ⟨.poll, state.consume sample, rfl, ?_⟩
      rw [step, if_pos draining.created, front, Option.map_some]
  | none =>
      obtain ⟨cpu, event, runs⟩ := draining.faithful.filling_of_reserved
        (SlotQueue.reserved_of_front_eq_none front filled)
      refine ⟨.submit cpu 0,
        state.submit cpu state.ring.consumed event 0, rfl, ?_⟩
      rw [step, runs]

end Monitoring.Draining

/-- From every state in which the monitor thread has its ring buffer, the
CPUs which have reserved and the polls of the thread print everything which is
due, in whatever order they run. -/
theorem monitoring_delivers {state : Monitoring}
    (reached : monitoringMachine.Reachable state)
    (created : state.created = true) :
    monitoringMachine.Inevitable (fun _ label => label.drains = true)
      (fun target =>
        target.results = (reported state.history).map printed) state := by
  apply Machine.Inevitable.of_steps (fun target =>
    target.Draining state.history) fun target => target.ring.work
  · intro before draining unfinished
    apply draining.enabled
    intro drained
    apply unfinished
    rw [draining.faithful.printed_all drained, draining.same]
  · intro before label after draining _ drains stepped
    exact .inr (draining.decreases drains stepped)
  · exact ⟨monitoring_faithful reached, created, rfl⟩

theorem monitoring_delivers_overtaken :
    monitoringMachine.Inevitable (fun _ label => label.drains = true)
      (fun target =>
        target.results =
          (reported overtakenMonitoring.history).map printed)
      overtakenMonitoring :=
  monitoring_delivers (Machine.reachable_finish rfl overtakenSteps_enabled)
    (by decide +kernel)

end LibbpfControl.Main
