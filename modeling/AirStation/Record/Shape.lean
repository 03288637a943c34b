import AirStation.Config
import AirStation.Quantity
import AirStation.Record.Datum

/-! How readings and settings are stored as data, and how they are recovered. A
structure is a record of its fields, or a list of exactly its fields in order. In a
record unknown fields are passed over, and a missing field is an error unless it is
optional, when it counts as null. A choice without content is its name, or a record
of its name alone with null. -/

namespace AirStation

/-- Values with a stored form. -/
class Stored (α : Type) where
  save : α → Datum
  load : Datum → Option α

namespace Stored

instance : Stored UInt16 where
  save w := .int w.toNat
  load
    | .int n => if 0 ≤ n ∧ n < 65536 then some (UInt16.ofNat n.toNat) else none
    | _ => none

instance : Stored Float where
  save := .real
  load
    | .int n => some (Float.ofInt n)
    | .real x => some x
    | _ => none

instance : Stored String where
  save := .text
  load
    | .text s => some s
    | _ => none

instance {α : Type} [Stored α] : Stored (Option α) where
  save
    | none => .null
    | some x => save x
  load
    | .null => some none
    | d => (load d).map some

/-- A field of a structure: its name and whether it may be missing. -/
structure Field where
  name : String
  optional : Bool := false

/-- The values of a structure's fields in order. -/
def values? (fields : List Field) : Datum → Option (List Datum)
  | .record given => fields.mapM fun f =>
      match Datum.field? given f.name with
      | some d => some d
      | none => if f.optional then some .null else none
  | .list items => if items.length == fields.length then some items else none
  | _ => none

/-- The choice that a datum names. -/
def choice? {α : Type} (choices : List α) (name : α → String) : Datum → Option α
  | .text s => choices.find? (name · == s)
  | .record [(s, .null)] => choices.find? (name · == s)
  | _ => none

instance : Stored CarbonDioxide where
  save r := .record [("ppm", save r.ppm)]
  load d := do
    let [ppm] ← values? [⟨"ppm", false⟩] d | none
    pure ⟨← load ppm⟩

instance : Stored Particulates where
  save r := .record [("pm25", save r.pm25), ("pm100", save r.pm100)]
  load d := do
    let [a, b] ← values? [⟨"pm25", false⟩, ⟨"pm100", false⟩] d | none
    pure ⟨← load a, ← load b⟩

instance : Stored Atmosphere where
  save r := .record [("temperature_c", save r.celsius), ("pressure_pa", save r.pascals)]
  load d := do
    let [a, b] ← values? [⟨"temperature_c", false⟩, ⟨"pressure_pa", false⟩] d | none
    pure ⟨← load a, ← load b⟩

/-- A reading is a record of one field, named after its quantity. -/
instance : Stored Reading where
  save
    | .co2 r => .record [("Co2", save r)]
    | .dust r => .record [("Dust", save r)]
    | .pressure r => .record [("Pressure", save r)]
  load
    | .record [("Co2", d)] => (load d).map .co2
    | .record [("Dust", d)] => (load d).map .dust
    | .record [("Pressure", d)] => (load d).map .pressure
    | _ => none

instance : Stored Quantity where
  save q := .text q.tag
  load := choice? Quantity.all Quantity.tag

instance : Stored PressureUnit where
  save u := .text u.name
  load := choice? [.hectopascal, .millimetersOfMercury] PressureUnit.name

instance : Stored Internet where
  save c := .record [("ssid", save c.ssid), ("password", save c.password)]
  load d := do
    let [a, b] ← values? [⟨"ssid", false⟩, ⟨"password", false⟩] d | none
    pure ⟨← load a, ← load b⟩

instance : Stored BrokerAccess where
  save c := .record
    [("host", save c.host), ("port", save c.port), ("client_id", save c.clientId),
      ("username", save c.username), ("password", save c.password),
      ("keep_alive_secs", save c.keepAliveSecs)]
  load d := do
    let [host, port, client, username, password, keepAlive] ← values?
      [⟨"host", false⟩, ⟨"port", false⟩, ⟨"client_id", false⟩, ⟨"username", true⟩,
        ⟨"password", true⟩, ⟨"keep_alive_secs", false⟩] d | none
    pure ⟨← load host, ← load port, ← load client, ← load username, ← load password,
      ← load keepAlive⟩

instance : Stored TopicLayout where
  save c := .record [("prefix", save c.path), ("device_id", save c.deviceId)]
  load d := do
    let [a, b] ← values? [⟨"prefix", false⟩, ⟨"device_id", false⟩] d | none
    pure ⟨← load a, ← load b⟩

instance : Stored TemperatureCorrection where
  save c := .record [("slope", save c.slope), ("offset", save c.offset)]
  load d := do
    let [a, b] ← values? [⟨"slope", false⟩, ⟨"offset", false⟩] d | none
    pure ⟨← load a, ← load b⟩

/-- What a stored value of a kind is once it has been recovered and stored again. -/
def renewed? (kind : String) (d : Datum) : Option Datum :=
  let go (α : Type) [Stored α] : Option Datum := (load d : Option α).map save
  match kind with
  | "Co2Reading" => go CarbonDioxide
  | "DustReading" => go Particulates
  | "PressureReading" => go Atmosphere
  | "Reading" => go Reading
  | "SensorKind" => go Quantity
  | "InternetConfig" => go Internet
  | "BrokerConfig" => go BrokerAccess
  | "TopicLayout" => go TopicLayout
  | "PressureUnit" => go PressureUnit
  | "TemperatureCorrection" => go TemperatureCorrection
  | _ => none

end Stored

end AirStation
