import AirStation.Sensor
import AirStation.Serial.FrameRead

/-! A sensor that answers a command on a serial line with one frame. A frame that
did not come in full is kept to be told apart from a bad one, and is refused
whatever its bytes are. -/

namespace AirStation.Uart

variable {ρ P : Type} [SerialPort P]

def bringUp (c : Codec ρ) : Act P (Except SensorError Unit) := do
  match c.startup with
  | none => pure (.ok ())
  | some command =>
    match ← Serial.send command with
    | .ok () =>
      note (.startupSent c.part)
      pure (.ok ())
    | .error e =>
      note (.exchangeFailed c.part e)
      pure (.error (.bringUpFailed c.part "failed to write startup command"))

def request (c : Codec ρ) : Act P (Except SensorError Unit) := do
  match ← Serial.send c.request with
  | .ok () => pure (.ok ())
  | .error e =>
    note (.exchangeFailed c.part e)
    pure (.error (.readFailed c.part "write command" "UART write error"))

/-- The frame as it came, complete or not. -/
def received (c : Codec ρ) : FrameRead.Result c.size → Act P (Except SensorError (Frame c.size))
  | (frame, .ok ()) => do
    note (.frameReceived c.part frame.received)
    pure (.ok frame)
  | (frame, .error (.exhausted got expected)) => do
    note (.frameShort c.part got expected)
    pure (.ok frame)
  | (frame, .error (.write fault)) => do
    note (.exchangeFailed c.part (.write fault))
    pure (.ok frame)

def validate (c : Codec ρ) (frame : Frame c.size) : Except SensorError ρ :=
  match frame.full? with
  | none => .error (.incomplete c.part frame.filled c.size)
  | some raw =>
    match c.decode raw with
    | .ok r => .ok r
    | .error mismatch => .error (.checksum c.part mismatch)

def sensor (P : Type) [SerialPort P] (c : Codec ρ) (policy : ReadPolicy) :
    Sensor P (Frame c.size) ρ where
  quantity := c.quantity
  part := c.part
  bringUp :=
    { Paused := Empty
      demand := nofun
      start := do pure (.done (← bringUp c))
      resume := nofun }
  request := request c
  receive := (FrameRead.activity c.size policy).andThen (received c)
  validate _ := validate c
  arrive := SerialPort.arrive
  deliver := SerialPort.deliver

end AirStation.Uart
