import AirStation.Sensor

/-! Answers of the MH-Z19B carbon dioxide sensor: nine bytes, of which byte 8 makes
bytes 1 to 8 sum to zero modulo 256. -/

namespace AirStation.Co2Frame

abbrev Raw := Vector UInt8 9

def readCommand : Bytes := [0xFF, 0x01, 0x86, 0x00, 0x00, 0x00, 0x00, 0x00, 0x79]

/-- The bytes the checksum covers. -/
def body (f : Raw) : Bytes := (f.toList.drop 1).take 7

def checksum (f : Raw) : UInt8 := 0xFF - (body f).sum8 + 1

def ppm (f : Raw) : UInt16 := Bytes.bigEndian f[2] f[3]

def decode (f : Raw) : Except ChecksumMismatch CarbonDioxide :=
  if checksum f = f[8] then .ok ⟨ppm f⟩
  else .error ⟨(checksum f).toUInt16, f[8].toUInt16⟩

/-- The frame with its trailer made to fit. -/
def sealed (f : Raw) : Raw := f.set 8 (checksum f)

/-- The answer that carries `ppm`. -/
def encode (ppm : UInt16) : Raw :=
  let (high, low) := Bytes.toBigEndian ppm
  sealed #v[0xFF, 0x86, high, low, 0x47, 0, 0, 0, 0]

def codec : Codec CarbonDioxide where
  part := "MH-Z19B"
  quantity := .co2
  startup := none
  request := readCommand
  size := 9
  decode := decode

end AirStation.Co2Frame
