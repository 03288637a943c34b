import AirStation.Quantity

/-! The published metrics: which reading each is taken from and where it goes. -/

namespace AirStation

inductive Metric where
  | pm25
  | pm100
  | co2
  | pressure
  | temperature
  deriving DecidableEq

namespace Metric

/-- In the order they are published. -/
def all : List Metric := [.pm25, .pm100, .co2, .pressure, .temperature]

def name : Metric → String
  | .pm25 => "Pm25"
  | .pm100 => "Pm100"
  | .co2 => "Co2"
  | .pressure => "Pressure"
  | .temperature => "Temperature"

def suffix : Metric → String
  | .pm25 => "/pm25"
  | .pm100 => "/pm100"
  | .co2 => "/co2"
  | .pressure => "/pressure"
  | .temperature => "/temperature"

def source : Metric → Quantity
  | .pm25 | .pm100 => .dust
  | .co2 => .co2
  | .pressure | .temperature => .pressure

end Metric

end AirStation
