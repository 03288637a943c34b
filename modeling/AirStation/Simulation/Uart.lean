import AirStation.Frame.Co2
import AirStation.Frame.Dust
import AirStation.Serial.Port

/-! Simulated sensors on a serial line. They answer their read command with a frame of
slowly drifting values, and on a fixed schedule spoil an answer or give none. -/

namespace AirStation.Simulation

/-- How often answers go wrong; zero for never. -/
structure Faults where
  /-- Every so many answers one has a broken checksum. -/
  corruptEvery : UInt32 := 0
  /-- Every so many requests one is not answered. -/
  silentEvery : UInt32 := 0

def falls (every count : UInt32) : Bool :=
  0 < every && count % every == 0

/-- A model of sensor: its name, its codec, what it measures at its `k`-th request and
how it writes that down. -/
structure Model (ρ : Type) where
  name : String
  codec : Codec ρ
  measure : UInt32 → ρ
  encode : ρ → Vector UInt8 codec.size

def co2Model : Model CarbonDioxide where
  name := "sim MH-Z19B"
  codec := Co2Frame.codec
  measure k := ⟨(650.0 + 150.0 * (k.toFloat / 40.0).sin).toUInt16⟩
  encode r := Co2Frame.encode r.ppm

def dustModel : Model Particulates where
  name := "sim PMS7003"
  codec := DustFrame.codec
  measure k :=
    let fine := 12.0 + 8.0 * (k.toFloat / 25.0).sin
    let pm25 := (if fine < 0.0 then 0.0 else fine).toUInt16
    ⟨pm25, pm25 + (10.0 + 6.0 * (k.toFloat / 60.0).cos).toUInt16⟩
  encode := DustFrame.encode

/-- The time a chunk takes on the line. -/
def chunkDelay : Millis := 8

def chunkLength : Nat := 8

structure Uart {ρ : Type} (m : Model ρ) where
  faults : Faults := {}
  /-- What has been answered and not yet been read. -/
  rx : Bytes := []
  requests : UInt32 := 0

namespace Uart

variable {ρ : Type} {m : Model ρ}

/-- The last byte, altered. -/
def spoil : Bytes → Bytes
  | [] => []
  | [b] => [b ^^^ 0x5A]
  | b :: bs => b :: spoil bs

def answer : Act (Uart m) Unit := do
  modify fun u => { u with requests := u.requests + 1 }
  let u ← get
  if falls u.faults.silentEvery u.requests then note (.simulatedSilence m.name u.requests)
  else
    let frame := (m.encode (m.measure u.requests)).toList
    if falls u.faults.corruptEvery u.requests then
      note (.simulatedCorruption m.name u.requests)
      set ({ u with rx := u.rx ++ spoil frame } : Uart m)
    else set ({ u with rx := u.rx ++ frame } : Uart m)

def write (bs : Bytes) : Act (Uart m) (Except PortFault Nat) := do
  if bs = m.codec.request then answer else note (.simulatedCommand m.name bs)
  pure (.ok bs.length)

def arrive (_ : Nat) : Act (Uart m) Arrival := do
  let u ← get
  pure (if u.rx.isEmpty then .never else .later chunkDelay)

def deliver (room : Nat) : Act (Uart m) Bytes := do
  let u ← get
  let count := min room chunkLength
  set ({ u with rx := u.rx.drop count } : Uart m)
  pure (u.rx.take count)

/-- A read that is given up after `limit`, and the time it took. -/
def readWithin (limit : Millis) (room : Nat) : Act (Uart m) (Option Bytes × Millis) := do
  match ← arrive room with
  | .later delay =>
    if delay ≤ limit then
      let bs ← deliver room
      pure (some bs, delay)
    else pure (none, limit)
  | _ => pure (none, limit)

instance : SerialPort (Uart m) where
  discard := modify fun u => { u with rx := [] }
  write := write
  flush := pure (.ok ())
  arrive := arrive
  deliver := deliver

end Uart

end AirStation.Simulation
