import AirStation.Bytes
import AirStation.Text

/-! Register map of the BMP280 and the measurement setup kept in two of its
registers. -/

namespace AirStation.Barometer

/-- The bus address with SDO tied low. -/
def busAddress : UInt8 := 0x76

namespace Register

def calibration : UInt8 := 0x88
def chipId : UInt8 := 0xD0
def reset : UInt8 := 0xE0
def status : UInt8 := 0xF3
def ctrlMeas : UInt8 := 0xF4
def config : UInt8 := 0xF5
/-- The first of six data registers: three of pressure, then three of temperature. -/
def data : UInt8 := 0xF7

end Register

def chipId : UInt8 := 0x58
def resetCommand : UInt8 := 0xB6
/-- The status bit that is set while a conversion runs. -/
def measuring : UInt8 := (1 : UInt8) <<< 3

inductive Oversampling where
  | skipped | x1 | x2 | x4 | x8 | x16
  deriving DecidableEq

inductive Filter where
  | off | x2 | x4 | x8 | x16
  deriving DecidableEq

/-- The pause between two conversions in normal mode, in milliseconds. -/
inductive Standby where
  | ms0_5 | ms62_5 | ms125 | ms250 | ms500 | ms1000 | ms2000 | ms4000
  deriving DecidableEq

inductive Mode where
  | sleep | forced | normal
  deriving DecidableEq

instance : Named Oversampling where
  all := [.skipped, .x1, .x2, .x4, .x8, .x16]
  name
    | .skipped => "Skipped" | .x1 => "X1" | .x2 => "X2" | .x4 => "X4" | .x8 => "X8" | .x16 => "X16"

instance : Named Filter where
  all := [.off, .x2, .x4, .x8, .x16]
  name
    | .off => "Off" | .x2 => "X2" | .x4 => "X4" | .x8 => "X8" | .x16 => "X16"

instance : Named Standby where
  all := [.ms0_5, .ms62_5, .ms125, .ms250, .ms500, .ms1000, .ms2000, .ms4000]
  name
    | .ms0_5 => "Ms0_5" | .ms62_5 => "Ms62_5" | .ms125 => "Ms125" | .ms250 => "Ms250"
    | .ms500 => "Ms500" | .ms1000 => "Ms1000" | .ms2000 => "Ms2000" | .ms4000 => "Ms4000"

instance : Named Mode where
  all := [.sleep, .forced, .normal]
  name
    | .sleep => "Sleep" | .forced => "Forced" | .normal => "Normal"

def Oversampling.code : Oversampling → UInt8
  | .skipped => 0 | .x1 => 1 | .x2 => 2 | .x4 => 3 | .x8 => 4 | .x16 => 5

def Filter.code : Filter → UInt8
  | .off => 0 | .x2 => 1 | .x4 => 2 | .x8 => 3 | .x16 => 4

def Standby.code : Standby → UInt8
  | .ms0_5 => 0 | .ms62_5 => 1 | .ms125 => 2 | .ms250 => 3
  | .ms500 => 4 | .ms1000 => 5 | .ms2000 => 6 | .ms4000 => 7

def Mode.code : Mode → UInt8
  | .sleep => 0 | .forced => 1 | .normal => 3

/-- The setup written when the sensor is brought up. Its defaults suit a room: heavy
filtering and one sample a second. -/
structure Measurement where
  temperature : Oversampling := .x4
  pressure : Oversampling := .x16
  filter : Filter := .x16
  standby : Standby := .ms1000
  mode : Mode := .normal
  deriving DecidableEq

namespace Measurement

def ctrlMeas (m : Measurement) : UInt8 :=
  m.temperature.code <<< 5 ||| m.pressure.code <<< 2 ||| m.mode.code

def config (m : Measurement) : UInt8 :=
  m.standby.code <<< 5 ||| m.filter.code <<< 2

end Measurement

end AirStation.Barometer
