import AirStation.Sensor.Uart
import AirStation.Simulation.Bmp280
import AirStation.Simulation.Network
import AirStation.Timed.Attend

/-! The simulated station: three acquisition tasks on simulated sensors, the link, the
broker session and the publisher, polled in this order once a millisecond. -/

namespace AirStation.Simulation

/-- A time during which an outside holder wants a slot's lock. -/
structure Hold where
  quantity : Quantity
  first : Millis
  last : Millis
  deriving DecidableEq

structure Plan where
  config : Config := {}
  bmp : Bmp280.Setup := {}
  maxRetries : UInt8 := defaultLinkRetries
  co2Faults : Faults := {}
  dustFaults : Faults := {}
  nackEvery : UInt32 := 0
  /-- How long the link stays up. -/
  outageEvery : Millis := 120000
  /-- Whether the end of an acquisition task is logged. -/
  reportStops : Bool := false
  holds : List Hold := []

def co2Sensor (p : Plan) : Sensor (Uart co2Model) (Frame 9) CarbonDioxide :=
  AirStation.Uart.sensor (Uart co2Model) Co2Frame.codec p.config.serial

def dustSensor (p : Plan) : Sensor (Uart dustModel) (Frame 32) Particulates :=
  AirStation.Uart.sensor (Uart dustModel) DustFrame.codec p.config.serial

def pressureSensor (p : Plan) : Sensor (Bmp280.Device Bmp) (Vector UInt8 6) Atmosphere :=
  Bmp280.sensor Bmp p.bmp

def publishing (p : Plan) : Activity Publisher.Demand.Reply (Publisher.Site SessionDesk) Empty :=
  Publisher.run p.config.publisher loggingBroker

structure Station (p : Plan) where
  hub : Site
  co2 : Timed.Seat (co2Sensor p) p.config.co2 (.comp Hub.storePart Store.co2Part : Part Site _)
  dust : Timed.Seat (dustSensor p) p.config.dust (.comp Hub.storePart Store.dustPart : Part Site _)
  pressure : Timed.Seat (pressureSensor p) p.config.pressure
    (.comp Hub.storePart Store.pressurePart : Part Site _)
  link : Timed.Job (link p.outageEvery) := .fresh
  session : Timed.Job session := .fresh
  watches : Watches := {}
  publisher : Timed.Job (publishing p) := .fresh

namespace Station

variable {p : Plan}

def fresh (p : Plan) : Station p where
  hub := ⟨.ofMaxRetries p.maxRetries, .empty, {}⟩
  co2 := { task := { device := { faults := p.co2Faults } } }
  dust := { task := { device := { faults := p.dustFaults } } }
  pressure := { task := { device := { bus := .ofNackEvery p.nackEvery } } }

/-- Acts on what the tasks share. -/
def onHub {α : Type} (a : Act Site α) : Act (Station p) α :=
  a.on ⟨Station.hub, fun h s => { s with hub := h }⟩

/-- At the end of a hold the slot's lock is given back, whichever hold took it; at the
beginning of one it is taken, unless it is held already. -/
def applyHold (now : Millis) (h : Hold) (s : Store) : Store :=
  let s := if h.last = now then s.setHeld false h.quantity else s
  if h.first = now then s.setHeld true h.quantity else s

/-- Applies the holds one after the other, in their order. -/
def applyHolds (now : Millis) : Act (Station p) Unit :=
  modify fun s => { s with hub.store := p.holds.foldl (fun st h => applyHold now h st) s.hub.store }

def pollAcquisition (now : Millis) : Act (Station p) Unit := do
  let co2 ← onHub ((← get).co2.poll p.reportStops now)
  modify fun s => { s with co2 }
  let dust ← onHub ((← get).dust.poll p.reportStops now)
  modify fun s => { s with dust }
  let pressure ← onHub ((← get).pressure.poll p.reportStops now)
  modify fun s => { s with pressure }

def pollNetwork (now : Millis) : Act (Station p) Unit := do
  let link ← onHub ((← get).link.poll attendLink now)
  let session ← onHub ((← get).session.poll attendSession now)
  modify fun s => { s with link, session }

def pollPublisher (now : Millis) : Act (Station p) Unit := fun s js =>
  let ((publisher, (watches, hub)), js) :=
    s.publisher.poll (Timed.publisher .snd) now (s.watches, s.hub) js
  (((), { s with publisher, watches, hub }), js)

def tick (now : Millis) : Act (Station p) Unit := do
  applyHolds now
  pollAcquisition now
  pollNetwork now
  pollPublisher now

/-- The station from time zero up to and including the last moment. -/
def run (p : Plan) (last : Millis) : Station p × Timed.Journal :=
  Timed.moments tick (last + 1) 0 (fresh p) #[]

end Station

/-- The station as the simulator runs it: with faults in every device. -/
def simulator : Plan where
  co2Faults := { corruptEvery := 7, silentEvery := 19 }
  dustFaults := { corruptEvery := 11 }
  nackEvery := 13
  reportStops := true

/-- What the simulator logs before its tasks begin. -/
def opening : Notice :=
  let topics := simulator.config.publisher.topics
  .simulatorStarted topics.path topics.deviceId

/-- What the simulator logs up to and including the last moment. -/
def simulate (last : Millis) : Timed.Journal :=
  (Timed.moments Station.tick (last + 1) 0 (Station.fresh simulator) #[(0, opening)]).2

end AirStation.Simulation
