import AirStation.Config
import AirStation.Hub
import AirStation.Publisher.Staleness

/-! One cycle of the publisher: it waits for a request to disconnect or for the poll
interval, decides by the flags, and stops, starts or uses the broker session. A
request that the cycle saw is cleared once the cycle has acted, whatever it
decided; one that is raised in the middle of a cycle is left to the next, if the
cycle had seen none. -/

namespace AirStation

/-- The broker as the publisher uses it. Starting and stopping only ask for it; the
outcome is reported later as an event. A publish is of quality 0 and not retained. -/
structure Broker (β : Type) where
  start : Act (Hub β) Unit
  stop : Act (Hub β) Unit
  publish : String → Bytes → Act (Hub β) (Except BrokerError Unit)

namespace Publisher

/-! ### Messages -/

/-- The value of a metric as text, from the readings at hand. -/
def value? (unit : PressureUnit) (s : Snapshot) : Metric → Option String
  | .pm25 => s.dust.map fun d => toString d.value.pm25
  | .pm100 => s.dust.map fun d => toString d.value.pm100
  | .co2 => s.co2.map fun c => toString c.value.ppm
  | .pressure => s.pressure.map fun p => Fixed.text 0 (unit.ofPascals p.value.pascals)
  | .temperature => s.pressure.map fun p => Fixed.text 1 p.value.celsius

def topic (layout : TopicLayout) (m : Metric) : String :=
  layout.path ++ layout.deviceId ++ m.suffix

/-- What becomes of one metric: a topic and a payload, or the reason for neither. -/
def message (cfg : PublisherConfig) (s : Snapshot) (m : Metric) :
    Except Notice (String × String) :=
  match value? cfg.unit s m with
  | none => .error (.slotBusy m)
  | some payload =>
    if payloadCapacity < payload.utf8ByteSize then .error (.payloadTooLong m)
    else
      let t := topic cfg.topics m
      if topicCapacity < t.utf8ByteSize then .error (.topicTooLong m) else .ok (t, payload)

variable {β : Type}

abbrev Site (β : Type) := Watches × Hub β

/-- Publishes metric by metric. A metric without a message is passed over; a rejected
message ends the round. -/
def publishAll (cfg : PublisherConfig) (b : Broker β) (s : Snapshot) :
    List Metric → Act (Site β) Unit
  | [] => pure ()
  | m :: rest =>
    match message cfg s m with
    | .error notice => do
      note notice
      publishAll cfg b s rest
    | .ok (topic, payload) => do
      match ← (b.publish topic payload.toUTF8.toList).on .snd with
      | .error e => note (.rejected e topic)
      | .ok () =>
        note (.published topic payload)
        publishAll cfg b s rest

/-- Enters the revision of one slot, if it was read, and reports what changed. -/
def observe {ρ : Type} (threshold : UInt8) (q : Quantity) (p : Part Watches Staleness) :
    Option (SlotSnapshot ρ) → Act Watches Unit
  | none => pure ()
  | some s => do
    let w ← get
    let (report, watch) := (p.get w).observe s.revision threshold
    set (p.put watch w)
    match report with
    | some .stale => note (.readingsStale q threshold)
    | some .resumed => note (.readingsResumed q)
    | none => pure ()

def watch (threshold : UInt8) (s : Snapshot) : Act Watches Unit := do
  observe threshold .co2 ⟨Watches.co2, fun x w => { w with co2 := x }⟩ s.co2
  observe threshold .dust ⟨Watches.dust, fun x w => { w with dust := x }⟩ s.dust
  observe threshold .pressure ⟨Watches.pressure, fun x w => { w with pressure := x }⟩ s.pressure

/-! ### The cycle -/

inductive Demand where
  | flags (d : Connectivity.FlagDemand)
  | lock (d : StoreDemand)

def Demand.Reply : Demand → Type
  | .flags d => d.Reply
  | .lock d => d.Reply

/-- What a cycle waits for: a flag, or, with the flags it has seen, a slot's lock. -/
inductive Waiting where
  | flags
  | copying (seen : Flags) (p : Store.Copying)

def Waiting.demand (cfg : PublisherConfig) : Waiting → Demand
  | .flags => .flags ⟨cfg.pollInterval, .mustDisconnect⟩
  | .copying _ p => .lock ⟨p.quantity, cfg.lockLimit⟩

abbrev CycleProgress := Progress Waiting Action

/-- Ends the cycle: a request that it saw is settled. -/
def settle (seen : Flags) (action : Action) : Act (Site β) CycleProgress := do
  if seen.contains .mustDisconnect then
    modify fun s => (s.1, { s.2 with net := s.2.net.lower .mustDisconnect })
  pure (.done action)

def copied (cfg : PublisherConfig) (b : Broker β) (seen : Flags) :
    Progress Store.Copying Snapshot → Act (Site β) CycleProgress
  | .paused p => pure (.paused (.copying seen p))
  | .done s => do
    (watch cfg.staleAfter s).on .fst
    publishAll cfg b s Metric.all
    settle seen .publish

def copying (cfg : PublisherConfig) : Activity StoreDemand.Reply (Site β) Snapshot :=
  (Store.snapshot cfg.lockLimit).on (Part.comp .snd Hub.storePart)

/-- Acts on the flags that ended the wait. -/
def act (cfg : PublisherConfig) (b : Broker β) : Progress Unit Flags → Act (Site β) CycleProgress
  | .paused () => pure (.paused .flags)
  | .done seen => do
    let action := decide seen
    note (.decided seen action)
    match action with
    | .stopBroker =>
      note .sessionStopping
      b.stop.on .snd
      modify fun s => (s.1, { s.2 with net := s.2.net.lower .brokerUp })
      settle seen action
    | .startBroker =>
      note .sessionStarting
      b.start.on .snd
      settle seen action
    | .publish => do copied cfg b seen (← (copying cfg).start)
    | .idle => settle seen action

def awaiting (cfg : PublisherConfig) :
    Activity Connectivity.FlagDemand.Reply (Site β) Flags :=
  (Connectivity.waitFor cfg.pollInterval .mustDisconnect).on (Part.comp .snd Hub.netPart)

def cycle (cfg : PublisherConfig) (b : Broker β) : Activity Demand.Reply (Site β) Action where
  Paused := Waiting
  demand := Waiting.demand cfg
  start := do act cfg b (← (awaiting cfg).start)
  resume
    | .flags, reply => do act cfg b (← (awaiting cfg).resume () reply)
    | .copying seen p, reply => do copied cfg b seen (← (copying cfg).resume p reply)

/-! ### Cycle after cycle -/

/-- Begins cycles until one waits. A cycle that does not wait has found a request, and
it settles it; so of two cycles on end the second waits. -/
def proceed (cfg : PublisherConfig) (b : Broker β) :
    Nat → CycleProgress → Act (Site β) (Progress Waiting Empty)
  | _, .paused w => pure (.paused w)
  | 0, .done _ => pure (.paused .flags)
  | n + 1, .done _ => do proceed cfg b n (← (cycle cfg b).start)

def cyclesPerTurn : Nat := 2

/-- The publisher without end. -/
def run (cfg : PublisherConfig) (b : Broker β) : Activity Demand.Reply (Site β) Empty where
  Paused := Waiting
  demand := Waiting.demand cfg
  start := do
    note .publisherStarted
    proceed cfg b cyclesPerTurn (← (cycle cfg b).start)
  resume w reply := do proceed cfg b cyclesPerTurn (← (cycle cfg b).resume w reply)

end Publisher

end AirStation
