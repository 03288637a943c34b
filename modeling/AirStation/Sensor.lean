import AirStation.Serial.Port

/-! What an acquisition task asks of a sensor. One cycle requests a measurement,
receives the answer and validates it. Any of these may fail and cost the cycle its
reading; only the bring-up before the first cycle may stop the task. What sets one
request/response sensor on a serial line apart from another is its codec. -/

namespace AirStation

/-- What a sensor waits for: a time, or input for a limited time into a buffer with
so much room. -/
inductive SensorDemand where
  | pause (length : Millis)
  | read (limit : Millis) (room : Nat)

def SensorDemand.Reply : SensorDemand → Type
  | .pause _ => Unit
  | .read _ _ => Timed (Except PortFault Bytes)

/-- A sensor that acts on a device of type `δ`, which includes what it has learned
about it, gets frames of type `F` and makes readings of type `ρ`. -/
structure Sensor (δ F ρ : Type) where
  quantity : Quantity
  part : String
  bringUp : Activity SensorDemand.Reply δ (Except SensorError Unit)
  request : Act δ (Except SensorError Unit)
  receive : Activity SensorDemand.Reply δ (Except SensorError F)
  validate : δ → F → Except SensorError ρ
  /-- What a read finds when it first asks. -/
  arrive : Nat → Act δ Arrival
  /-- What an announced arrival brings. -/
  deliver : Nat → Act δ Bytes

/-- The commands of a sensor on a serial line, the length of its answer, and how an answer is
checked and decoded. -/
structure Codec (ρ : Type) where
  part : String
  quantity : Quantity
  /-- Sent once before the first request. -/
  startup : Option Bytes
  request : Bytes
  size : Nat
  decode : Vector UInt8 size → Except ChecksumMismatch ρ

end AirStation
