import AirStation.Text
import AirStation.Text.Hex

/-! What can go wrong between a sensor's wire and its slot, and between the station and
its broker, and the message each failure is reported with. -/

namespace AirStation

/-- How a serial port can fail. -/
inductive PortFault where
  | other | notFound | permissionDenied | connectionRefused | connectionReset
  | connectionAborted | notConnected | addressInUse | addressNotAvailable | brokenPipe
  | alreadyExists | invalidInput | invalidData | timedOut | interrupted | unsupported
  | outOfMemory | writeZero
  deriving DecidableEq

namespace PortFault

def name : PortFault → String
  | .other => "Other"
  | .notFound => "NotFound"
  | .permissionDenied => "PermissionDenied"
  | .connectionRefused => "ConnectionRefused"
  | .connectionReset => "ConnectionReset"
  | .connectionAborted => "ConnectionAborted"
  | .notConnected => "NotConnected"
  | .addressInUse => "AddrInUse"
  | .addressNotAvailable => "AddrNotAvailable"
  | .brokenPipe => "BrokenPipe"
  | .alreadyExists => "AlreadyExists"
  | .invalidInput => "InvalidInput"
  | .invalidData => "InvalidData"
  | .timedOut => "TimedOut"
  | .interrupted => "Interrupted"
  | .unsupported => "Unsupported"
  | .outOfMemory => "OutOfMemory"
  | .writeZero => "WriteZero"

def all : List PortFault :=
  [.other, .notFound, .permissionDenied, .connectionRefused, .connectionReset,
    .connectionAborted, .notConnected, .addressInUse, .addressNotAvailable, .brokenPipe,
    .alreadyExists, .invalidInput, .invalidData, .timedOut, .interrupted, .unsupported,
    .outOfMemory, .writeZero]

instance : Named PortFault := ⟨all, name⟩

end PortFault

/-- What a device left unacknowledged. -/
inductive Unacknowledged where
  | address | data | unknown
  deriving DecidableEq

/-- How a bus transaction can fail. -/
inductive BusFault where
  | bus | arbitrationLoss | unacknowledged (what : Unacknowledged) | overrun | other
  deriving DecidableEq

def Unacknowledged.name : Unacknowledged → String
  | .address => "Address"
  | .data => "Data"
  | .unknown => "Unknown"

def BusFault.name : BusFault → String
  | .bus => "Bus"
  | .arbitrationLoss => "ArbitrationLoss"
  | .unacknowledged what => s!"NoAcknowledge({what.name})"
  | .overrun => "Overrun"
  | .other => "Other"

/-- A frame whose checksum is not the one it carries. -/
structure ChecksumMismatch where
  computed : UInt16
  carried : UInt16
  deriving DecidableEq

/-- How an exchange over a serial port ends without its result. -/
inductive TransportError where
  | write (fault : PortFault)
  | exhausted (received expected : Nat)
  deriving DecidableEq

def TransportError.message : TransportError → String
  | .write fault => s!"serial write failed: {fault.name}"
  | .exhausted received expected =>
    s!"frame incomplete after retry budget: {received} of {expected} bytes"

/-- Why a cycle of the named part brought no reading, or why it did not start. -/
inductive SensorError where
  | incomplete (part : String) (received expected : Nat)
  | checksum (part : String) (mismatch : ChecksumMismatch)
  | readFailed (part operation details : String)
  | bringUpFailed (part details : String)
  deriving DecidableEq

namespace SensorError

def message : SensorError → String
  | .incomplete part received expected =>
    s!"{part}: no complete frame within retry budget ({received}/{expected} bytes)"
  | .checksum part m =>
    s!"{part}: checksum mismatch (computed {Hex.marked 4 m.computed.toNat}, " ++
      s!"frame carries {Hex.marked 4 m.carried.toNat})"
  | .readFailed part operation details => s!"{part}: {operation} failed: {details}"
  | .bringUpFailed part details => s!"{part}: initialization failed: {details}"

def isChecksum : SensorError → Bool
  | .checksum .. => true
  | _ => false

end SensorError

/-- One attempt at a slot's lock ran out of time. -/
structure LockTimeout where
  deriving DecidableEq

def LockTimeout.message (_ : LockTimeout) : String :=
  "slot lock not acquired within timeout"

/-- Every attempt at a slot's lock ran out of time. -/
structure LockExhausted where
  attempts : UInt8
  deriving DecidableEq

def LockExhausted.message (e : LockExhausted) : String :=
  s!"slot lock not acquired after {e.attempts} attempts"

/-- Why an acquisition task stopped for good. -/
inductive AcquisitionError where
  | bringUp (cause : SensorError)
  | lockExhausted (cause : LockExhausted)
  deriving DecidableEq

def AcquisitionError.message : AcquisitionError → String
  | .bringUp cause => s!"sensor initialization failed: {cause.message}"
  | .lockExhausted cause => s!"telemetry slot unavailable: {cause.message}"

/-- Why a broker did not take a message. -/
inductive BrokerError where
  | notConnected
  | queueFull
  | transport
  deriving DecidableEq

namespace BrokerError

def message : BrokerError → String
  | .notConnected => "broker session not established"
  | .queueFull => "broker command queue full"
  | .transport => "broker transport failure"

def name : BrokerError → String
  | .notConnected => "NotConnected"
  | .queueFull => "QueueFull"
  | .transport => "Transport"

instance : Named BrokerError := ⟨[.notConnected, .queueFull, .transport], name⟩

end BrokerError

/-- A failure as a network or radio interface names it. -/
structure ApiFault where
  name : String
  deriving DecidableEq

/-- What ended a broker session before its stop. -/
inductive SessionError where
  | resolve (cause : ApiFault)
  | connect (cause : ApiFault)
  | mqtt (cause : ApiFault)
  deriving DecidableEq

def SessionError.message : SessionError → String
  | .resolve cause => s!"cannot resolve broker host: {cause.name}"
  | .connect cause => s!"TCP connect failed: {cause.name}"
  | .mqtt cause => s!"MQTT error: {cause.name}"

end AirStation
