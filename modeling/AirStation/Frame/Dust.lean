import AirStation.Sensor

/-! Answers of the PMS7003 particle sensor in passive mode: thirty-two bytes, of
which the last two are the big-endian sum of those before them. -/

namespace AirStation.DustFrame

abbrev Raw := Vector UInt8 32

/-- Switches the sensor to answering only when asked. -/
def passiveCommand : Bytes := [0x42, 0x4D, 0xE1, 0x00, 0x00, 0x01, 0x70]

def readCommand : Bytes := [0x42, 0x4D, 0xE2, 0x00, 0x00, 0x01, 0x71]

/-- The bytes the checksum covers. -/
def body (f : Raw) : Bytes := f.toList.take 30

def computed (f : Raw) : UInt16 := (body f).sum16

def carried (f : Raw) : UInt16 := Bytes.bigEndian f[30] f[31]

/-- The atmospheric concentrations stand at bytes 12 to 15. -/
def particulates (f : Raw) : Particulates where
  pm25 := Bytes.bigEndian f[12] f[13]
  pm100 := Bytes.bigEndian f[14] f[15]

def decode (f : Raw) : Except ChecksumMismatch Particulates :=
  if computed f = carried f then .ok (particulates f)
  else .error ⟨computed f, carried f⟩

/-- The frame with a word written at byte `i`. -/
def writeWord (f : Raw) (i : Nat) (w : UInt16) (h : i + 1 < 32 := by decide) : Raw :=
  let word := Bytes.toBigEndian w
  (f.set i word.1 (by omega)).set (i + 1) word.2 h

/-- The frame with its trailer made to fit. -/
def sealed (f : Raw) : Raw := writeWord f 30 (computed f)

def withParticulates (f : Raw) (p : Particulates) : Raw :=
  writeWord (writeWord f 12 p.pm25) 14 p.pm100

/-- An answer with the usual header: start bytes and the length of what follows. -/
def blank : Raw :=
  (((Vector.replicate 32 0).set 0 0x42).set 1 0x4D).set 3 0x1C

/-- The answer that carries `p`. -/
def encode (p : Particulates) : Raw := sealed (withParticulates blank p)

def codec : Codec Particulates where
  part := "PMS7003"
  quantity := .dust
  startup := some passiveCommand
  request := readCommand
  size := 32
  decode := decode

end AirStation.DustFrame
