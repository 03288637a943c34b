import AirStation.Act
import AirStation.Config
import AirStation.Uplink.Ipv4

/-! What the uplink asks of the radio, of the network stack and of the message client,
and what may come back. Any request but one may fail. -/

namespace AirStation.Uplink

/-- The bytes of each buffer of a socket. -/
def socketBuffer : Nat := 1024

/-- How long a socket may stay silent. -/
def socketLimit : Millis := 10000

/-- The bytes of each buffer of the message client, and of the longest packet. -/
def packetLimit : Nat := 256

/-- The properties that fit in one packet. -/
def propertyLimit : Nat := 5

/-- Where the client's packet identifiers begin. -/
def identifierSeed : Nat := 20000

inductive Request where
  | configureRadio (access : Internet)
  | startRadio
  | joinNetwork
  /-- Keeps the network stack going, without end. -/
  | runStack
  /-- The addresses of a host, in the resolver's order. -/
  | resolve (host : String)
  | connect (address : Ipv4) (port : UInt16)
  /-- Opens the session on the connected socket. -/
  | openSession (access : BrokerAccess)
  | send (topic : String) (payload : Bytes)
  | ping
  | closeSession

def Request.Reply : Request → Type
  | .runStack => Empty
  | .resolve _ => Except ApiFault (List Ipv4)
  | _ => Except ApiFault Unit

end AirStation.Uplink
