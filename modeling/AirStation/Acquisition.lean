import AirStation.Config
import AirStation.Sensor
import AirStation.Telemetry.Slot

/-! The acquisition task of one sensor. It goes in cycles: request, receive,
validate, store, sleep. A failure on the way does not stop it but makes the cycle
store the zero reading; only a slot whose lock is not to be had within its budget
ends the task. The phase carries what belongs to it, so no frame and no reading
outlives its cycle. -/

namespace AirStation.Acquisition

/-- The phase between two steps. -/
inductive Phase (F ρ : Type) where
  | idle
  | requesting
  | awaitingResponse
  | validating (frame : F)
  | storing (reading : ρ)
  | sleeping
  | failed (cause : LockExhausted)

def Phase.name {F ρ : Type} : Phase F ρ → String
  | .idle => "Idle"
  | .requesting => "Requesting"
  | .awaitingResponse => "AwaitingResponse"
  | .validating _ => "Validating"
  | .storing _ => "Storing"
  | .sleeping => "Sleeping"
  | .failed _ => "Failed"

/-- A cycle is over, or the task is. -/
def Phase.isRest {F ρ : Type} : Phase F ρ → Bool
  | .idle | .failed _ => true
  | _ => false

/-- Counts modulo 2^32: finished cycles, cycles that stored the zero reading, and the
latter by cause. -/
structure Stats where
  cycles : UInt32 := 0
  degraded : UInt32 := 0
  checksumFailures : UInt32 := 0
  ioFailures : UInt32 := 0
  deriving DecidableEq

def Stats.countFailure (e : SensorError) (s : Stats) : Stats :=
  if e.isChecksum then
    { s with degraded := s.degraded + 1, checksumFailures := s.checksumFailures + 1 }
  else { s with degraded := s.degraded + 1, ioFailures := s.ioFailures + 1 }

variable {δ F ρ : Type}

structure Task (δ F ρ : Type) where
  device : δ
  phase : Phase F ρ := .idle
  stats : Stats := {}

inductive Demand where
  | sensor (d : SensorDemand)
  | lock (d : LockDemand)
  /-- The pause between two cycles. -/
  | rest (length : Millis)

def Demand.Reply : Demand → Type
  | .sensor d => d.Reply
  | .lock d => d.Reply
  | .rest _ => Unit

/-- The task and its slot. -/
abbrev Site (δ F ρ : Type) := Task δ F ρ × Slot ρ

def Task.devicePart : Part (Task δ F ρ) δ := ⟨Task.device, fun d t => { t with device := d }⟩

def devicePart : Part (Site δ F ρ) δ := Part.comp .fst Task.devicePart

/-! ### Steps -/

/-- What a step waits for. -/
inductive Waiting (S : Sensor δ F ρ) where
  | receiving (p : S.receive.Paused)
  | storing (reading : ρ) (budget : RetryBudget)
  | resting

def Waiting.demand {S : Sensor δ F ρ} (pace : Pace) : Waiting S → Demand
  | .receiving p => .sensor (S.receive.demand p)
  | .storing _ _ => .lock ⟨pace.lockLimit⟩
  | .resting => .rest pace.interval

abbrev StepProgress (S : Sensor δ F ρ) := Progress (Waiting S) Unit

variable {S : Sensor δ F ρ}

/-- Ends a step in the given phase. -/
def enter (phase : Phase F ρ) : Act (Site δ F ρ) (StepProgress S) := do
  modify fun s => ({ s.1 with phase }, s.2)
  pure (.done ())

/-- Makes the cycle store the zero reading. -/
def degrade [Zero ρ] (e : SensorError) : Act (Site δ F ρ) (StepProgress S) := do
  modify fun s => ({ s.1 with stats := s.1.stats.countFailure e }, s.2)
  note (.degraded e)
  enter (.storing 0)

def received [Zero ρ] :
    Progress S.receive.Paused (Except SensorError F) → Act (Site δ F ρ) (StepProgress S)
  | .paused p => pure (.paused (.receiving p))
  | .done (.ok frame) => enter (.validating frame)
  | .done (.error e) => degrade e

def stored (r : ρ) :
    Progress RetryBudget (Except LockExhausted Unit) → Act (Site δ F ρ) (StepProgress S)
  | .paused budget => pure (.paused (.storing r budget))
  | .done (.ok ()) => enter .sleeping
  | .done (.error e) => do
    note (.slotLost S.part e)
    enter (.failed e)

/-- Takes the slot's lock and stores a reading. -/
def storing (pace : Pace) (r : ρ) :
    Activity LockDemand.Reply (Site δ F ρ) (Except LockExhausted Unit) :=
  (Slot.withLockRetrying pace.lockLimit pace.lockRetries (Slot.storing r)).on .snd

/-- One step from the task's phase to the next. -/
def start [Measured ρ] (pace : Pace) : Act (Site δ F ρ) (StepProgress S) := do
  let (task, _) ← get
  match task.phase with
  | .idle => enter .requesting
  | .requesting =>
    match ← S.request.on devicePart with
    | .ok () => enter .awaitingResponse
    | .error e => degrade e
  | .awaitingResponse => do received (← S.receive.start.on devicePart)
  | .validating frame =>
    match S.validate task.device frame with
    | .ok r =>
      note (.measured S.part (Measured.reading r))
      enter (.storing r)
    | .error e => degrade e
  | .storing r => do stored r (← (storing pace r).start)
  | .sleeping => pure (.paused .resting)
  | .failed _ => pure (.done ())

def resume [Measured ρ] (pace : Pace) :
    (w : Waiting S) → (w.demand pace).Reply → Act (Site δ F ρ) (StepProgress S)
  | .receiving p, reply => do received (← (S.receive.resume p reply).on devicePart)
  | .storing r budget, reply => do stored r (← (storing pace r).resume budget reply)
  | .resting, _ => do
    modify fun s => ({ s.1 with stats.cycles := s.1.stats.cycles + 1 }, s.2)
    enter .idle

/-- The step as an activity. -/
def step [Measured ρ] (S : Sensor δ F ρ) (pace : Pace) :
    Activity Demand.Reply (Site δ F ρ) Unit where
  Paused := Waiting S
  demand := Waiting.demand pace
  start := start pace
  resume := resume pace

/-! ### The whole task -/

/-- What the task waits for: in its bring-up, or in a step. -/
inductive Running (S : Sensor δ F ρ) where
  | bringUp (p : S.bringUp.Paused)
  | step (w : Waiting S)

def Running.demand (pace : Pace) : Running S → Demand
  | .bringUp p => .sensor (S.bringUp.demand p)
  | .step w => w.demand pace

abbrev RunProgress (S : Sensor δ F ρ) := Progress (Running S) AcquisitionError

/-- Takes steps until one waits or the task has failed. A sleeping task waits, so there
are never more than six steps on end. -/
def proceed [Measured ρ] (pace : Pace) : Nat → StepProgress S → Act (Site δ F ρ) (RunProgress S)
  | _, .paused w => pure (.paused (.step w))
  | 0, .done () => pure (.paused (.step .resting))
  | n + 1, .done () => do
    let (task, _) ← get
    match task.phase with
    | .failed cause => pure (.done (.lockExhausted cause))
    | _ => do proceed pace n (← start pace)

def stepsPerCycle : Nat := 6

def broughtUp [Measured ρ] (pace : Pace) :
    Progress S.bringUp.Paused (Except SensorError Unit) → Act (Site δ F ρ) (RunProgress S)
  | .paused p => pure (.paused (.bringUp p))
  | .done (.error e) => do
    note (.bringUpFailed S.part e)
    pure (.done (.bringUp e))
  | .done (.ok ()) => do
    note (.acquisitionStarted S.part)
    proceed pace (stepsPerCycle + 1) (.done ())

/-- The task brings its sensor up and cycles until its slot is lost. -/
def run [Measured ρ] (S : Sensor δ F ρ) (pace : Pace) :
    Activity Demand.Reply (Site δ F ρ) AcquisitionError where
  Paused := Running S
  demand := Running.demand pace
  start := do broughtUp pace (← S.bringUp.start.on devicePart)
  resume
    | .bringUp p, reply => do broughtUp pace (← (S.bringUp.resume p reply).on devicePart)
    | .step w, reply => do proceed pace (stepsPerCycle + 1) (← resume pace w reply)

end AirStation.Acquisition
