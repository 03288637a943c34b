/-! Byte strings and the big-endian and little-endian words in them. -/

namespace AirStation

abbrev Bytes := List UInt8

namespace Bytes

/-- The word whose high byte comes first. -/
def bigEndian (high low : UInt8) : UInt16 :=
  high.toUInt16 <<< 8 ||| low.toUInt16

def toBigEndian (w : UInt16) : UInt8 × UInt8 :=
  ((w >>> 8).toUInt8, w.toUInt8)

/-- The word whose low byte comes first. -/
def littleEndian (low high : UInt8) : UInt16 :=
  bigEndian high low

def toLittleEndian (w : UInt16) : Bytes :=
  [w.toUInt8, (w >>> 8).toUInt8]

/-- The sum modulo 256. -/
def sum8 (bs : Bytes) : UInt8 :=
  bs.foldl (· + ·) 0

/-- The sum modulo 65536. -/
def sum16 (bs : Bytes) : UInt16 :=
  bs.foldl (fun acc b => acc + b.toUInt16) 0

end Bytes

end AirStation
