import AirStation.Rig.Drive
import AirStation.Rig.Port
import AirStation.Serial.FrameRead

/-! One device alone under a scripted clock without stages: a wait that is not over
when first tried is out of time. -/

namespace AirStation.Rig

structure Trial (δ : Type) where
  device : δ
  clock : Clock Empty := {}

namespace Trial

variable {δ F ρ α : Type}

def devicePart : Part (Trial δ) δ := ⟨Trial.device, fun d t => { t with device := d }⟩
def clockPart : Part (Trial δ) (Clock Empty) := ⟨Trial.clock, fun c t => { t with clock := c }⟩

/-- Acts on the device at once. -/
def act (a : Act δ α) : Act (Trial δ) α := a.on devicePart

/-- Runs an activity on the device of a sensor. -/
def perform (S : Sensor δ F ρ) (A : Activity SensorDemand.Reply δ α) :
    Act (Trial δ) (Option α) := do
  let r ← (A.on devicePart).perform (serveSensor S devicePart clockPart nofun) patience
  pure r.result?

/-- Reads a frame of `n` bytes from a scripted port. -/
def readFrame (n : Nat) (policy : ReadPolicy) : Act (Trial Port) (Option (FrameRead.Result n)) := do
  let reader (limit room : Nat) :=
    Clock.timeout clockPart (nofun : Empty → Act (Trial Port) Unit) limit
      (do pure (arrived (← (Port.arrive room).on devicePart))) (pure none)
  let r ← ((FrameRead.activity n policy).on devicePart).perform
    (fun
      | .pause length => Clock.sleep clockPart length
      | .read limit room => reader limit room) patience
  pure r.result?

end Trial

end AirStation.Rig
