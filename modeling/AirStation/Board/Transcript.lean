import AirStation.Board.Station
import AirStation.Record.Datum
import AirStation.Text.Utf8

/-! The calls on peripherals, radio, network and message client as a transcript has
them: a name and what the call is about. -/

namespace AirStation.Board

open Uplink

abbrev Entry := String × Datum

def SetupCall.entry : SetupCall → Entry
  | .serial peripheral baud => ("uart_new", .list [.text peripheral, .int baud])
  | .serialTx pin => ("uart_tx", .text pin)
  | .serialRx pin => ("uart_rx", .text pin)
  | .bus peripheral kilohertz => ("i2c_new", .list [.text peripheral, .int kilohertz])
  | .busData pin => ("i2c_sda", .text pin)
  | .busClock pin => ("i2c_scl", .text pin)

def optional : Option String → Datum
  | none => .null
  | some s => .text s

/-- What the message client is made with. -/
def clientOptions (a : BrokerAccess) : Datum :=
  .record [("version", .text "MQTTv5"), ("qos", .text "QoS0"), ("seed", .int identifierSeed),
    ("client_id", .text a.clientId), ("username", optional a.username),
    ("password", optional a.password), ("keep_alive", .int a.keepAliveSecs.toNat),
    ("max_packet_size", .int packetLimit), ("properties", .int propertyLimit),
    ("buffers", .list [.int packetLimit, .int packetLimit])]

/-- A message is of quality 0 and not retained. -/
def subject : Request → Datum
  | .configureRadio access => .list [.text access.ssid, .text access.password]
  | .resolve host => .list [.text host, .text "A"]
  | .connect address port => .list [.text address.text, .int port.toNat, .int socketLimit]
  | .openSession access => clientOptions access
  | .send topic payload =>
    .list [.text topic, .text (Utf8.repaired payload), .text "QoS0", .bool false]
  | .startRadio | .joinNetwork | .runStack | .ping | .closeSession => .null

/-- A connection makes its socket first. -/
def entries (r : Request) : List Entry :=
  let entry := (Named.name (Rig.Service.of r), subject r)
  match r with
  | .connect .. => [("tcp_new", .list [.int socketBuffer, .int socketBuffer]), entry]
  | _ => [entry]

/-- Every call of a station with its moment. -/
def Station.transcript {p : Plan} (s : Station p) : List (Millis × Entry) :=
  p.setup.map (fun c => (0, c.entry)) ++
    s.field.2.requests.toList.flatMap fun (t, r) => (entries r).map (t, ·)

end AirStation.Board
