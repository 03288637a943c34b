import AirStation.Frame.Co2
import AirStation.Frame.Dust
import AirStation.Rig.Broker
import AirStation.Rig.Drive
import AirStation.Rig.Port
import AirStation.Sensor.Bmp280
import AirStation.Sensor.Uart

/-! The whole pipeline on the rig: three acquisition tasks on scripted devices and a
publisher with a scripted broker, around one shared state and under one scripted
clock. -/

namespace AirStation.Rig

open Acquisition (Task)

abbrev Co2Task := Task Port (Frame 9) CarbonDioxide
abbrev DustTask := Task Port (Frame 32) Particulates
abbrev PressureTask (B : Type) := Task (Bmp280.Device B) (Vector UInt8 6) Atmosphere

/-- The barometer is on a bus of type `B`. -/
structure World (B : Type) where
  hub : Hub BrokerScript
  clock : Clock Event := {}
  co2 : Co2Task
  dust : DustTask
  pressure : PressureTask B
  watches : Watches := {}
  /-- The tasks used up by a run; their devices stay. -/
  used : List Quantity := []
  publisherUsed : Bool := false

structure Setup where
  maxRetries : UInt8 := defaultLinkRetries
  config : Config := {}
  bmp : Bmp280.Setup := {}

namespace World

variable {B : Type}

def hubPart : Part (World B) (Hub BrokerScript) := ⟨World.hub, fun h w => { w with hub := h }⟩
def clockPart : Part (World B) (Clock Event) := ⟨World.clock, fun c w => { w with clock := c }⟩
def storePart : Part (World B) Store := .comp hubPart Hub.storePart
def netPart : Part (World B) Connectivity := .comp hubPart Hub.netPart

def happen (e : Event) : Act (World B) Unit := e.happen.on hubPart

/-! ### Tasks -/

/-- What is the rig's own about one quantity: its sensor, its pace, its task and its
slot. -/
structure Line (B δ F ρ : Type) where
  sensor : Sensor δ F ρ
  pace : Pace
  task : Part (World B) (Task δ F ρ)
  slot : Part (World B) (Slot ρ)

def co2Line (s : Setup) : Line B Port (Frame 9) CarbonDioxide where
  sensor := Uart.sensor Port Co2Frame.codec s.config.serial
  pace := s.config.co2
  task := ⟨World.co2, fun t w => { w with co2 := t }⟩
  slot := .comp storePart Store.co2Part

def dustLine (s : Setup) : Line B Port (Frame 32) Particulates where
  sensor := Uart.sensor Port DustFrame.codec s.config.serial
  pace := s.config.dust
  task := ⟨World.dust, fun t w => { w with dust := t }⟩
  slot := .comp storePart Store.dustPart

def pressureLine [I2cBus B] (s : Setup) : Line B (Bmp280.Device B) (Vector UInt8 6) Atmosphere where
  sensor := Bmp280.sensor B s.bmp
  pace := s.config.pressure
  task := ⟨World.pressure, fun t w => { w with pressure := t }⟩
  slot := .comp storePart Store.pressurePart

namespace Line

variable {δ F ρ : Type} (line : Line B δ F ρ)

def serve : (d : Acquisition.Demand) → Act (Task δ F ρ × World B) (Option d.Reply) :=
  serveAcquisition line.sensor (.comp .fst Task.devicePart) (.comp .snd line.slot)
    (.comp .snd clockPart) fun e => (happen e).on .snd

/-- One step of a task. -/
def stepTask [Measured ρ] : Act (Task δ F ρ × World B) Unit := do
  let _ ← ((Acquisition.step line.sensor line.pace).on (Part.mapSnd line.slot)).perform
    line.serve patience

/-- At most `n` steps, and no more once `stop` holds of the phase. The result lists the
phases after the steps. -/
def steps [Measured ρ] (stop : Acquisition.Phase F ρ → Bool) :
    Nat → Act (Task δ F ρ × World B) (List String)
  | 0 => pure []
  | n + 1 => do
    line.stepTask
    let (task, _) ← get
    if stop task.phase then pure [task.phase.name]
    else
      let names ← steps stop n
      pure (task.phase.name :: names)

/-- Acts on the task unless it is used up. -/
def withTask {α : Type} (a : Act (Task δ F ρ × World B) α) : Act (World B) (Option α) :=
  fun w js =>
    if w.used.contains line.sensor.quantity then ((none, w), js)
    else
      let ((x, (t, w)), js) := a (line.task.get w, w) js
      ((some x, line.task.put t w), js)

/-- The phases visited by steps, with the one before them, and the counts so far. -/
def visit [Measured ρ] (stop : Acquisition.Phase F ρ → Bool) (n : Nat) :
    Act (World B) (Option (List String × Acquisition.Stats)) :=
  line.withTask do
    let (before, _) ← get
    let names ← line.steps stop n
    let (after, _) ← get
    pure (before.phase.name :: names, after.stats)

/-- Runs the task until it ends or the clock has granted so many pauses. The task is
used up. -/
def run [Measured ρ] (maxSleeps : Nat) : Act (World B) (Option (Option AcquisitionError)) := do
  modify fun w => { w with clock.sleepsLeft := some maxSleeps }
  let r ← line.withTask
    (((Acquisition.run line.sensor line.pace).on (Part.mapSnd line.slot)).perform
      line.serve patience)
  modify fun w =>
    { w with clock.sleepsLeft := none, used := line.sensor.quantity :: w.used }
  match r with
  | none => pure none
  | some (.paused _) => pure (some none)
  | some (.done e) => pure (some (some e))

/-- Brings the sensor up before its task starts. -/
def bringUp : Act (World B) (Option (Except SensorError Unit)) := do
  let r ← line.withTask
    ((line.sensor.bringUp.on (.comp .fst Task.devicePart)).perform
      (serveSensor line.sensor (.comp .fst Task.devicePart) (.comp .snd clockPart)
        fun e => (happen e).on .snd) patience)
  pure (r.bind Progress.result?)

/-- Takes the slot's lock once and acts on the contents. -/
def withLock {α : Type} (limit : Millis) (f : SlotState ρ → α × SlotState ρ) :
    Act (World B) (Except LockTimeout α) := do
  let r ← ((Slot.withLock limit f).on line.slot).perform
    (fun d => Clock.timeout clockPart happen d.limit (Slot.tryLock.on line.slot)
      (Slot.tryLock.on line.slot)) patience
  match r with
  | .done r => pure r
  | .paused _ => pure (.error {})

/-- Takes the slot's lock with retries and acts on the contents. -/
def withLockRetrying {α : Type} (limit : Millis) (retries : UInt8)
    (f : SlotState ρ → α × SlotState ρ) : Act (World B) (Except LockExhausted α) := do
  let r ← ((Slot.withLockRetrying limit retries f).on line.slot).perform
    (fun d => Clock.timeout clockPart happen d.limit (Slot.tryLock.on line.slot)
      (Slot.tryLock.on line.slot)) patience
  match r with
  | .done r => pure r
  | .paused budget => pure (.error ⟨budget.failures⟩)

/-- Stores a reading and gives the new revision. -/
def storing (r : ρ) (s : SlotState ρ) : UInt32 × SlotState ρ :=
  ((s.store r).revision, s.store r)

end Line

/-! ### The shared state -/

def waitFor (mask : Flags) (limit : Millis) : Act (World B) Flags := do
  let r ← ((Connectivity.waitFor limit mask).on netPart).perform
    (serveFlags netPart clockPart happen) patience
  match r with
  | .done f => pure f
  | .paused _ => do
    let w ← get
    pure w.hub.net.snapshot

def snapshot (limit : Millis) : Act (World B) (Option Snapshot) := do
  let r ← ((Store.snapshot limit).on storePart).perform
    (serveStore storePart clockPart happen) patience
  match r with
  | .done s => pure (some s)
  | .paused _ => pure none

/-! ### The publisher -/

def servePublishing : (d : Publisher.Demand) → Act (Watches × World B) (Option d.Reply) :=
  servePublisher (.comp .snd hubPart) (.comp .snd clockPart) fun e => (happen e).on .snd

/-- Acts on the publisher unless it is used up. -/
def withPublisher {α : Type} (a : Act (Watches × World B) α) : Act (World B) (Option α) :=
  fun w js =>
    if w.publisherUsed then ((none, w), js)
    else
      let ((x, (watches, w)), js) := a (w.watches, w) js
      ((some x, { w with watches }), js)

/-- Forgets the broker's calls and gives them. -/
def takeCalls : Act (World B) (List BrokerCall) := do
  let w ← get
  set { w with hub.desk.calls := #[] }
  pure w.hub.desk.calls.toList

def cycles (s : Setup) : Nat → Act (Watches × World B) (List Publisher.Action)
  | 0 => pure []
  | n + 1 => do
    let r ← ((Publisher.cycle s.config.publisher BrokerScript.broker).on
      (Part.mapSnd hubPart)).perform servePublishing patience
    let rest ← cycles s n
    match r with
    | .done a => pure (a :: rest)
    | .paused _ => pure rest

/-- Publisher cycles, one after the other. -/
def publish (s : Setup) (n : Nat) : Act (World B) (Option (List Publisher.Action)) :=
  withPublisher (cycles s n)

/-- Runs the publisher until the clock has granted so many waits. The publisher is used
up. -/
def runPublisher (s : Setup) (maxTimeouts : Nat) : Act (World B) (Option Unit) := do
  modify fun w => { w with clock.timeoutsLeft := some maxTimeouts }
  let r ← withPublisher
    (((Publisher.run s.config.publisher BrokerScript.broker).on
      (Part.mapSnd hubPart)).perform servePublishing patience)
  modify fun w => { w with clock.timeoutsLeft := none, publisherUsed := true }
  pure (r.map fun _ => ())

/-- The rig before anything happens. -/
def fresh (s : Setup) (bus : B) : World B where
  hub := ⟨.ofMaxRetries s.maxRetries, .empty, {}⟩
  co2 := { device := {} }
  dust := { device := {} }
  pressure := { device := { bus } }

end World

end AirStation.Rig
