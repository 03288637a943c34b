import AirStation.Board.Uart
import AirStation.Board.Wiring
import AirStation.Frame.Co2
import AirStation.Frame.Dust
import AirStation.Hub
import AirStation.Rig.Bus
import AirStation.Rig.Network
import AirStation.Sensor.Uart
import AirStation.Timed.Attend

/-! The station on its board: acquisition, link, address lease, broker session and
publisher around one hub, with a scripted world outside. What the timeline holds for a
moment happens first; then every task goes on as far as it can, in a fixed order. -/

namespace AirStation.Board

open Uplink Rig

/-- The tasks of the station. -/
inductive Chore where
  | acquire (q : Quantity)
  | stack
  | link
  | lease
  | session
  | publisher
  deriving DecidableEq

/-- What may happen to the station from outside. -/
inductive Happening where
  | disconnected (reason : Nat) (times : Nat)
  | lease (state : Option (Option Ipv4.Net))
  | event (e : Event)
  | publish (topic : String) (payload : Bytes) (times : Nat)
  | start (times : Nat)
  | stop
  | answers (more : List (Service × Answer))
  | port (q : Quantity) (more : Uart)
  | bus (change : Bus → Bus)
  | store (r : Reading)

/-- What a happening gives back. -/
inductive Result where
  | nothing
  | heard (yes : Bool)
  | event (r : Event.Result)
  | published (r : Except BrokerError Unit)

structure Plan where
  config : Config := {}
  chores : List Chore
  timeline : List (Millis × Happening) := []
  answers : List (Service × Answer) := []
  co2 : Uart := {}
  dust : Uart := {}
  bus : Bus := .fresh

def co2Sensor (p : Plan) : Sensor Uart (Frame 9) CarbonDioxide :=
  AirStation.Uart.sensor Uart Co2Frame.codec p.config.serial

def dustSensor (p : Plan) : Sensor Uart (Frame 32) Particulates :=
  AirStation.Uart.sensor Uart DustFrame.codec p.config.serial

def pressureSensor (p : Plan) : Sensor (Bmp280.Device Bus) (Vector UInt8 6) Atmosphere :=
  Bmp280.sensor Bus { correction := p.config.correction }

def hubPart : Part Field (Hub Desk) := .fst

def slotPart {ρ : Type} (p : Part Store (Slot ρ)) : Part Field (Slot ρ) :=
  .comp hubPart (.comp Hub.storePart p)

/-- The publisher's watches beside the field. -/
def sitePart : Part (Watches × Field) (Publisher.Site Desk) := .mapSnd hubPart

structure Station (p : Plan) where
  field : Field
  co2 : Timed.Seat (co2Sensor p) p.config.co2 (slotPart Store.co2Part)
  dust : Timed.Seat (dustSensor p) p.config.dust (slotPart Store.dustPart)
  pressure : Timed.Seat (pressureSensor p) p.config.pressure (slotPart Store.pressurePart)
  stack : Timed.Job (Uplink.stack.on hubPart) := .fresh
  link : Timed.Job ((Uplink.link p.config.internet p.config.link).on hubPart) := .fresh
  lease : Timed.Job (Uplink.lease.on hubPart) := .fresh
  session : Timed.Job ((Uplink.session p.config.broker).on hubPart) := .fresh
  watches : Watches := {}
  publisher : Timed.Job ((Publisher.run p.config.publisher broker).on sitePart) := .fresh
  /-- What each entry of the timeline gave back, nothing before its moment. -/
  results : Array Result

namespace Station

variable {p : Plan} {α : Type}

/-- The station at power-on. -/
def fresh (p : Plan) : Station p where
  field := (⟨.ofMaxRetries defaultLinkRetries, .empty, {}⟩, { script := p.answers })
  co2 := { task := { device := p.co2 } }
  dust := { task := { device := p.dust } }
  pressure := { task := { device := { bus := p.bus } } }
  results := Array.replicate p.timeline.length .nothing

/-- Acts on the field. -/
def onField (a : Act Field α) : Act (Station p) α :=
  a.on ⟨Station.field, fun f s => { s with field := f }⟩

def onHub (a : Act (Hub Desk) α) : Act (Station p) α := onField (a.on hubPart)

def onNetwork (f : Network → Network) : Act (Station p) Unit :=
  onField (modify fun x => (x.1, f x.2))

/-! ### What happens outside -/

/-- Does the same thing so many times and gives the last result. -/
def times (a : Act (Station p) α) : Nat → Act (Station p) (Option α)
  | 0 => pure none
  | 1 => do pure (some (← a))
  | n + 1 => do
    let _ ← a
    times a n

def storeReading : Reading → Act Store Unit
  | .co2 r => (Slot.release (Slot.storing r)).on Store.co2Part
  | .dust r => (Slot.release (Slot.storing r)).on Store.dustPart
  | .pressure r => (Slot.release (Slot.storing r)).on Store.pressurePart

def undergo : Happening → Act (Station p) Result
  | .disconnected reason n => do
    let r ← times (onHub (radioDisconnected reason)) n
    pure ((r.map .heard).getD .nothing)
  | .lease state => do
    onNetwork fun n => { n with lease := state }
    pure .nothing
  | .event e => do pure (.event (← onHub e.apply))
  | .publish topic payload n => do
    let r ← times (onHub (publish topic payload)) n
    pure ((r.map .published).getD .nothing)
  | .start n => do
    let _ ← times (onHub start) n
    pure .nothing
  | .stop => do
    onHub Desk.requestStop
    pure .nothing
  | .answers more => do
    onNetwork (·.extend more)
    pure .nothing
  | .port q more => do
    modify fun s =>
      match q with
      | .dust => { s with dust.task.device := s.dust.task.device.extend more }
      | _ => { s with co2.task.device := s.co2.task.device.extend more }
    pure .nothing
  | .bus change => do
    modify fun s =>
      { s with pressure.task.device.bus := change s.pressure.task.device.bus }
    pure .nothing
  | .store r => do
    onHub ((storeReading r).on Hub.storePart)
    pure .nothing

/-- Undergoes what the timeline holds for a moment, in its order. -/
def undergoAll (now : Millis) : List ((Millis × Happening) × Nat) → Act (Station p) Unit
  | [] => pure ()
  | ((moment, h), index) :: rest => do
    if moment = now then
      let r ← undergo h
      modify fun s => { s with results := s.results.setIfInBounds index r }
    undergoAll now rest

/-! ### The tasks -/

def pollPublisher (now : Millis) : Act (Station p) Unit := fun s js =>
  let ((publisher, (watches, field)), js) :=
    s.publisher.poll (Timed.publisher (.comp .snd hubPart)) now (s.watches, s.field) js
  (((), { s with publisher, watches, field }), js)

def poll (now : Millis) : Chore → Act (Station p) Unit
  | .acquire .co2 => do
    let co2 ← onField ((← get).co2.poll true now)
    modify fun s => { s with co2 }
  | .acquire .dust => do
    let dust ← onField ((← get).dust.poll true now)
    modify fun s => { s with dust }
  | .acquire .pressure => do
    let pressure ← onField ((← get).pressure.poll true now)
    modify fun s => { s with pressure }
  | .stack => do
    let stack ← onField ((← get).stack.poll Network.attendStack now)
    modify fun s => { s with stack }
  | .link => do
    let link ← onField ((← get).link.poll Network.attendLink now)
    modify fun s => { s with link }
  | .lease => do
    let lease ← onField ((← get).lease.poll Network.attendLease now)
    modify fun s => { s with lease }
  | .session => do
    let session ← onField ((← get).session.poll Network.attendSession now)
    modify fun s => { s with session }
  | .publisher => pollPublisher now

def pollAll (now : Millis) : List Chore → Act (Station p) Unit
  | [] => pure ()
  | c :: rest => do
    poll now c
    pollAll now rest

def tick (now : Millis) : Act (Station p) Unit := do
  undergoAll now p.timeline.zipIdx
  pollAll now p.chores

/-- The station from power-on up to and including the last moment. -/
def run (p : Plan) (last : Millis) : Station p × Timed.Journal :=
  Timed.moments tick (last + 1) 0 (fresh p) #[]

/-- When a task ended. Only those end that lose their slot or cannot set the radio up. -/
def ended (s : Station p) : Chore → Option Millis
  | .acquire .co2 => s.co2.stopped.map (·.1)
  | .acquire .dust => s.dust.stopped.map (·.1)
  | .acquire .pressure => s.pressure.stopped.map (·.1)
  | .link => s.link.result?.map (·.1)
  | _ => none

end Station

/-- The calls that set the serial ports up before the tasks begin, in their order. -/
def Plan.setup (p : Plan) : List SetupCall :=
  p.chores.flatMap fun
    | .acquire .pressure => []
    | .acquire q => (setUp q none).1
    | _ => []

end AirStation.Board
