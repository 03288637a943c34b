import AirStation.Text

/-! The quantities the station measures and a reading of each. The zero reading
stands for a cycle that measured nothing. -/

namespace AirStation

inductive Quantity where
  | co2
  | dust
  | pressure
  deriving DecidableEq, Inhabited

namespace Quantity

def all : List Quantity := [.co2, .dust, .pressure]

def name : Quantity → String
  | .co2 => "co2"
  | .dust => "dust"
  | .pressure => "pressure"

instance : Named Quantity := ⟨all, name⟩

/-- The spelling in stored records. -/
def tag : Quantity → String
  | .co2 => "Co2"
  | .dust => "Dust"
  | .pressure => "Pressure"

end Quantity

/-- Carbon dioxide in parts per million. -/
structure CarbonDioxide where
  ppm : UInt16
  deriving DecidableEq

/-- Airborne particles in µg/m³: up to 2.5 µm, and up to 10 µm. -/
structure Particulates where
  pm25 : UInt16
  pm100 : UInt16
  deriving DecidableEq

/-- Corrected temperature in °C and absolute pressure in Pa. -/
structure Atmosphere where
  celsius : Float
  pascals : Float

instance : Zero CarbonDioxide := ⟨⟨0⟩⟩
instance : Zero Particulates := ⟨⟨0, 0⟩⟩
instance : Zero Atmosphere := ⟨⟨0.0, 0.0⟩⟩

/-- A reading of any quantity. -/
inductive Reading where
  | co2 (value : CarbonDioxide)
  | dust (value : Particulates)
  | pressure (value : Atmosphere)

namespace Reading

def quantity : Reading → Quantity
  | .co2 _ => .co2
  | .dust _ => .dust
  | .pressure _ => .pressure

/-- The reading as it stands in log lines. -/
def describe : Reading → String
  | .co2 r => s!"Co2Reading \x7b ppm: {r.ppm} \x7d"
  | .dust r => s!"DustReading \x7b pm25: {r.pm25}, pm100: {r.pm100} \x7d"
  | .pressure r =>
    s!"PressureReading \x7b temperature_c: {Fixed.text 2 r.celsius}, " ++
      s!"pressure_pa: {Fixed.text 2 r.pascals} \x7d"

end Reading

/-- Readings that belong to one quantity. -/
class Measured (ρ : Type) extends Zero ρ where
  reading : ρ → Reading

instance : Measured CarbonDioxide where reading := .co2
instance : Measured Particulates where reading := .dust
instance : Measured Atmosphere where reading := .pressure

end AirStation
