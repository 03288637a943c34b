import AirStation.Fault
import AirStation.Quantity

/-! Which peripheral each sensor has and which pins it is wired to. A peripheral is
configured first, and gets its pins only if it takes the configuration. -/

namespace AirStation.Board

/-- The rate of both serial lines, in baud. -/
def serialRate : Nat := 9600

/-- The clock of the bus, in kHz. -/
def busClock : Nat := 100

inductive SetupCall where
  | serial (peripheral : String) (baud : Nat)
  | serialTx (pin : String)
  | serialRx (pin : String)
  | bus (peripheral : String) (kilohertz : Nat)
  | busData (pin : String)
  | busClock (pin : String)
  deriving DecidableEq

/-- A peripheral that did not take its configuration. -/
inductive SetupError where
  | serial (cause : ApiFault)
  | bus (cause : ApiFault)
  deriving DecidableEq

def SetupError.message : SetupError → String
  | .serial cause => s!"UART configuration rejected: {cause.name}"
  | .bus cause => s!"I2C configuration rejected: {cause.name}"

def configure : Quantity → SetupCall
  | .co2 => .serial "UART1" serialRate
  | .dust => .serial "UART2" serialRate
  | .pressure => .bus "I2C0" busClock

def attach : Quantity → List SetupCall
  | .co2 => [.serialTx "GPIO17", .serialRx "GPIO18"]
  | .dust => [.serialTx "GPIO15", .serialRx "GPIO16"]
  | .pressure => [.busData "GPIO8", .busClock "GPIO9"]

def refuse (cause : ApiFault) : Quantity → SetupError
  | .co2 | .dust => .serial cause
  | .pressure => .bus cause

/-- The calls that set a sensor's peripheral up, and how that ends when the
configuration is refused for the given cause or for none. -/
def setUp (q : Quantity) : Option ApiFault → List SetupCall × Except SetupError Unit
  | none => (configure q :: attach q, .ok ())
  | some cause => ([configure q], .error (refuse cause q))

end AirStation.Board
