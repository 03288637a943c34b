import AirStation.Bytes

/-! Trimming constants of the BMP280, its raw samples, and the compensation that
turns a raw sample into temperature and pressure by the datasheet's floating-point
formulas (section 8.1). -/

namespace AirStation.Barometer

/-- Twelve factory words, all signed but the first of each channel. -/
structure Calibration where
  t1 : UInt16
  t2 : Int16
  t3 : Int16
  p1 : UInt16
  p2 : Int16
  p3 : Int16
  p4 : Int16
  p5 : Int16
  p6 : Int16
  p7 : Int16
  p8 : Int16
  p9 : Int16
  deriving DecidableEq

namespace Calibration

/-- The words in register order, as they stand in memory. -/
def words (c : Calibration) : List UInt16 :=
  [c.t1, c.t2.toUInt16, c.t3.toUInt16, c.p1, c.p2.toUInt16, c.p3.toUInt16, c.p4.toUInt16,
    c.p5.toUInt16, c.p6.toUInt16, c.p7.toUInt16, c.p8.toUInt16, c.p9.toUInt16]

/-- The words as numbers. -/
def toList (c : Calibration) : List Int :=
  [c.t1.toNat, c.t2.toInt, c.t3.toInt, c.p1.toNat, c.p2.toInt, c.p3.toInt, c.p4.toInt,
    c.p5.toInt, c.p6.toInt, c.p7.toInt, c.p8.toInt, c.p9.toInt]

def decode (b : Vector UInt8 24) : Calibration where
  t1 := Bytes.littleEndian b[0] b[1]
  t2 := (Bytes.littleEndian b[2] b[3]).toInt16
  t3 := (Bytes.littleEndian b[4] b[5]).toInt16
  p1 := Bytes.littleEndian b[6] b[7]
  p2 := (Bytes.littleEndian b[8] b[9]).toInt16
  p3 := (Bytes.littleEndian b[10] b[11]).toInt16
  p4 := (Bytes.littleEndian b[12] b[13]).toInt16
  p5 := (Bytes.littleEndian b[14] b[15]).toInt16
  p6 := (Bytes.littleEndian b[16] b[17]).toInt16
  p7 := (Bytes.littleEndian b[18] b[19]).toInt16
  p8 := (Bytes.littleEndian b[20] b[21]).toInt16
  p9 := (Bytes.littleEndian b[22] b[23]).toInt16

def encode (c : Calibration) : Vector UInt8 24 :=
  ⟨(c.words.flatMap Bytes.toLittleEndian).toArray, by simp [words, Bytes.toLittleEndian]⟩

/-- The worked example of the datasheet. -/
def datasheet : Calibration where
  t1 := 27504
  t2 := 26435
  t3 := -1000
  p1 := 36477
  p2 := -10685
  p3 := 3024
  p4 := 2855
  p5 := 140
  p6 := -7
  p7 := 15500
  p8 := -14600
  p9 := 6000

end Calibration

/-- Two converter outputs of twenty bits each. -/
structure RawSample where
  pressure : Int32
  temperature : Int32
  deriving DecidableEq

namespace RawSample

/-- Twenty bits from three bytes; the low half of the last one does not count. -/
def join (msb lsb xlsb : UInt8) : Int32 :=
  (msb.toUInt32 <<< 12 ||| lsb.toUInt32 <<< 4 ||| xlsb.toUInt32 >>> 4).toInt32

/-- The low twenty bits of a word as three bytes. -/
def split (w : UInt32) : Bytes :=
  [(w >>> 12).toUInt8, (w >>> 4).toUInt8, ((w &&& 0x0F) <<< 4).toUInt8]

def decode (b : Vector UInt8 6) : RawSample where
  pressure := join b[0] b[1] b[2]
  temperature := join b[3] b[4] b[5]

/-- What a channel reads when its oversampling is skipped. -/
def skipped : Int32 := 0x80000

def hasSkipped (s : RawSample) : Bool :=
  s.temperature == skipped || s.pressure == skipped

end RawSample

namespace Calibration

def temperatureTerms (c : Calibration) (adc : Float) : Float × Float :=
  let t1 := c.t1.toFloat
  let slope := (adc / 16384.0 - t1 / 1024.0) * c.t2.toFloat
  let delta := adc / 131072.0 - t1 / 8192.0
  (slope, delta * delta * c.t3.toFloat)

/-- The pressure divisor and the pressure offset at a fine temperature. -/
def pressureTerms (c : Calibration) (fine : Float) : Float × Float :=
  let a := fine / 2.0 - 64000.0
  let b := a * a * c.p6.toFloat / 32768.0
  let b := b + a * c.p5.toFloat * 2.0
  let b := b / 4.0 + c.p4.toFloat * 65536.0
  let a := (c.p3.toFloat * a * a / 524288.0 + c.p2.toFloat * a) / 524288.0
  ((1.0 + a / 32768.0) * c.p1.toFloat, b)

def pascals (c : Calibration) (adc divisor offset : Float) : Float :=
  let p := 1048576.0 - adc
  let p := (p - offset / 4096.0) * 6250.0 / divisor
  let a := c.p9.toFloat * p * p / 2147483648.0
  let b := p * c.p8.toFloat / 32768.0
  p + (a + b + c.p7.toFloat) / 16.0

/-- Temperature in °C and pressure in Pa. There is none for a skipped channel, nor on
an unprogrammed part, where the divisor is zero. -/
def compensate (c : Calibration) (raw : RawSample) : Option (Float × Float) :=
  if raw.hasSkipped then none
  else
    let (v1, v2) := c.temperatureTerms raw.temperature.toFloat
    let fine := (v1 + v2).toInt32
    let (divisor, offset) := c.pressureTerms fine.toFloat
    if divisor == 0.0 then none
    else some ((v1 + v2) / 5120.0, c.pascals raw.pressure.toFloat divisor offset)

end Calibration

end AirStation.Barometer
