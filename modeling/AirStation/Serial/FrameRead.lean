import AirStation.Config
import AirStation.Retry
import AirStation.Sensor
import AirStation.Serial.Frame

/-! The reading of one frame: reads of limited time add what they bring, and every
read that brings nothing counts against a budget of its own. It ends when the frame
is full, or short of that when the budget has run out. -/

namespace AirStation

structure FrameRead (n : Nat) where
  frame : Frame n
  budget : RetryBudget

namespace FrameRead

variable {n : Nat} {σ : Type}

abbrev Result (n : Nat) := Frame n × Except TransportError Unit

/-- Goes on with what is still missing, or ends. -/
def proceed (r : FrameRead n) : Progress (FrameRead n) (Result n) :=
  if r.frame.isComplete then .done (r.frame, .ok ()) else .paused r

/-- Counts a read that brought nothing. -/
def fail (r : FrameRead n) : Progress (FrameRead n) (Result n) :=
  match r.budget.recordFailure with
  | (.ok (), budget) => proceed { r with budget }
  | (.error _, _) => .done (r.frame, .error (.exhausted r.frame.filled n))

def resume (r : FrameRead n) :
    Timed (Except PortFault Bytes) → Act σ (Progress (FrameRead n) (Result n))
  | .ready (.ok []) => do
    note .nothingRead
    pure r.fail
  | .ready (.ok bs) => do
    let frame := r.frame.append bs
    note (.bytesRead (frame.filled - r.frame.filled) frame.filled n)
    pure (proceed { r with frame })
  | .ready (.error fault) => do
    note (.readFault fault)
    pure r.fail
  | .expired => do
    note .readExpired
    pure r.fail

/-- The reading into a frame, which is cleared first, under a policy. -/
def into (frame : Frame n) (policy : ReadPolicy) :
    Activity SensorDemand.Reply σ (Result n) where
  Paused := FrameRead n
  demand r := .read policy.limit r.frame.room
  start := pure (proceed ⟨frame.clear, .ofMax policy.retries⟩)
  resume r reply := r.resume reply

/-- The reading of a new frame of `n` bytes. -/
def activity (n : Nat) (policy : ReadPolicy) : Activity SensorDemand.Reply σ (Result n) :=
  into .empty policy

end FrameRead

/-- The same reading as a loop on the bytes of the buffer, given what its reads find one after
another. Nothing comes of it where they are too few. -/
def ReceiveBuffer.fill {n : Nat} (os : List (Timed (Except PortFault Bytes)))
    (budget : RetryBudget) (b : ReceiveBuffer n) :
    Option (ReceiveBuffer n × Except TransportError Unit) :=
  if b.isComplete then some (b, .ok ())
  else
    match os with
    | [] => none
    | .ready (.ok (x :: bs)) :: os => fill os budget (b.accept (x :: bs))
    | _ :: os =>
      match budget.recordFailure with
      | (.ok (), budget) => fill os budget b
      | (.error _, _) => some (b, .error (.exhausted b.filled n))

end AirStation
