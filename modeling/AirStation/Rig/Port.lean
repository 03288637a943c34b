import AirStation.Serial.Port

/-! A serial port that plays a script: what each read finds, how much each write
takes, how each flush ends. It records what is written to it. -/

namespace AirStation.Rig

/-- What one read finds. -/
inductive ReadStep where
  | bytes (bs : Bytes)
  | fail (fault : PortFault)
  | silence

inductive WriteStep where
  | all
  | atMost (n : Nat)
  | fail (fault : PortFault)

structure Port where
  steps : List ReadStep := []
  /-- Input that has come already. -/
  buffered : Bytes := []
  writes : List WriteStep := []
  flushes : List (Option PortFault) := []
  /-- What every write fails with once the script of writes is over. -/
  broken : Option PortFault := none
  written : Array Bytes := #[]
  discards : Nat := 0

namespace Port

/-- The port with a further script behind its own. -/
def extend (more : Port) (p : Port) : Port :=
  { p with
    steps := p.steps ++ more.steps
    buffered := p.buffered ++ more.buffered
    writes := p.writes ++ more.writes
    flushes := p.flushes ++ more.flushes }

/-- The next step; what does not fit in the room is left for the next read. -/
def nextStep (room : Nat) : Act Port Arrival := do
  let p ← get
  match p.steps with
  | [] => pure .never
  | step :: steps =>
    set { p with steps }
    match step with
    | .silence => pure .never
    | .fail fault => pure (.now (.error fault))
    | .bytes bs =>
      if room < bs.length then set { p with steps := .bytes (bs.drop room) :: steps }
      pure (.now (.ok (bs.take room)))

def arrive (room : Nat) : Act Port Arrival := do
  let p ← get
  if p.buffered.isEmpty then nextStep room
  else
    set { p with buffered := p.buffered.drop room }
    pure (.now (.ok (p.buffered.take room)))

def record (bs : Bytes) : Act Port (Except PortFault Nat) := do
  modify fun p => { p with written := p.written.push bs }
  pure (.ok bs.length)

def write (bs : Bytes) : Act Port (Except PortFault Nat) := do
  let p ← get
  match p.writes with
  | [] =>
    match p.broken with
    | some fault => pure (.error fault)
    | none => record bs
  | step :: writes =>
    set { p with writes }
    match step with
    | .all => record bs
    | .atMost n => record (bs.take n)
    | .fail fault => pure (.error fault)

def flush : Act Port (Except PortFault Unit) := do
  let p ← get
  match p.flushes with
  | [] => pure (.ok ())
  | step :: flushes =>
    set { p with flushes }
    match step with
    | none => pure (.ok ())
    | some fault => pure (.error fault)

instance : SerialPort Port where
  discard := modify fun p => { p with buffered := [], discards := p.discards + 1 }
  write := write
  flush := flush
  arrive := arrive
  deliver _ := pure []

/-- Forgets what has been written. -/
def drained (p : Port) : Port := { p with written := #[] }

end Port

end AirStation.Rig
