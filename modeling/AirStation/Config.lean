import AirStation.Act
import AirStation.Text

/-! The station's configuration and the values it has when nothing is set. -/

namespace AirStation

/-- Failed reads or lock attempts that one operation tolerates. -/
def defaultRetries : UInt8 := 20

/-- Reconnects before the link is declared failed. -/
def defaultLinkRetries : UInt8 := 100

structure Internet where
  ssid : String := ""
  password : String := ""

/-- Where the broker is and how a session with it is opened. -/
structure BrokerAccess where
  host : String := ""
  port : UInt16 := 1883
  clientId : String := "airwatch"
  username : Option String := none
  password : Option String := none
  keepAliveSecs : UInt16 := 60

/-- The timing of one acquisition task: the pause between two cycles, the time one
attempt at the slot's lock may take, and how many attempts may fail. -/
structure Pace where
  interval : Millis := 10000
  lockLimit : Millis := 1000
  lockRetries : UInt8 := defaultRetries
  deriving DecidableEq

/-- The carbon dioxide sensor may itself spend long on an answer, so it pauses less. -/
def Pace.co2 : Pace := { interval := 5000 }

/-- The bounds of the serial read loop: the time of one read and how many may bring
nothing. -/
structure ReadPolicy where
  limit : Millis := 200
  retries : UInt8 := defaultRetries
  deriving DecidableEq

structure LinkPolicy where
  maxRetries : UInt8 := defaultLinkRetries
  /-- The wait after a failed link before a fresh sequence of reconnects. -/
  cooldown : Millis := 60000
  deriving DecidableEq

/-- A topic is the prefix, the device and the metric's suffix. -/
structure TopicLayout where
  path : String := "sensors/"
  deviceId : String := "dust"
  deriving DecidableEq

inductive PressureUnit where
  | hectopascal
  | millimetersOfMercury
  deriving DecidableEq

namespace PressureUnit

def name : PressureUnit → String
  | .hectopascal => "Hectopascal"
  | .millimetersOfMercury => "MillimetersOfMercury"

instance : Named PressureUnit := ⟨[.hectopascal, .millimetersOfMercury], name⟩

def ofPascals : PressureUnit → Float → Float
  | .hectopascal, p => p / 100.0
  | .millimetersOfMercury, p => p / 133.322368

end PressureUnit

/-- The line that takes a measured temperature to the true one. -/
structure TemperatureCorrection where
  slope : Float := 1.0
  offset : Float := 0.0

def TemperatureCorrection.apply (c : TemperatureCorrection) (measured : Float) : Float :=
  c.slope * measured + c.offset

structure PublisherConfig where
  /-- The longest pause between two cycles. -/
  pollInterval : Millis := 10000
  lockLimit : Millis := 2000
  topics : TopicLayout := {}
  unit : PressureUnit := .hectopascal
  /-- Cycles without a fresh reading before a slot is reported stale; 0 for never. -/
  staleAfter : UInt8 := 6

structure Config where
  internet : Internet := {}
  broker : BrokerAccess := {}
  link : LinkPolicy := {}
  publisher : PublisherConfig := {}
  co2 : Pace := .co2
  dust : Pace := {}
  pressure : Pace := {}
  serial : ReadPolicy := {}
  correction : TemperatureCorrection := {}

/-- The credentials a station is built with. -/
structure Credentials where
  internet : Internet
  brokerHost : String
  brokerPort : Option String
  brokerUsername : Option String
  brokerPassword : Option String
  deviceId : Option String

/-- An empty credential counts as none. -/
def nonEmpty (value : Option String) : Option String :=
  value.filter (· != "")

/-- A decimal number below 65536, with an optional plus sign. -/
def port? (s : String) : Option UInt16 :=
  let digits := match s.toList with
    | '+' :: rest => rest
    | cs => cs
  match Digits.nat? digits with
  | some n => if n < 65536 then some (UInt16.ofNat n) else none
  | none => none

/-- The defaults with a station's credentials in place. -/
def Config.ofCredentials (c : Credentials) : Config :=
  let device := (nonEmpty c.deviceId).getD "airwatch"
  let defaults : BrokerAccess := {}
  { internet := c.internet
    broker :=
      { host := c.brokerHost
        port := ((nonEmpty c.brokerPort).bind port?).getD defaults.port
        clientId := device
        username := nonEmpty c.brokerUsername
        password := nonEmpty c.brokerPassword }
    publisher := { topics := { deviceId := device } } }

end AirStation
