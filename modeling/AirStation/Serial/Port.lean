import AirStation.Act

/-! Serial ports and the sending of a command through one. -/

namespace AirStation

/-- What a read finds when it first asks a port. -/
inductive Arrival where
  | now (result : Except PortFault Bytes)
  /-- Bytes will have come after this time. -/
  | later (delay : Millis)
  | never

class SerialPort (P : Type) where
  /-- Drops the input that has come already. -/
  discard : Act P Unit
  /-- Offers bytes and tells how many were taken, which is at least one. -/
  write : Bytes → Act P (Except PortFault Nat)
  flush : Act P (Except PortFault Unit)
  /-- Asks for at most so many bytes. -/
  arrive : Nat → Act P Arrival
  /-- Takes at most so many bytes once an announced delay is over. -/
  deliver : Nat → Act P Bytes

namespace Serial

variable {P : Type} [SerialPort P]

/-- Offers what has not been taken until all is or the port fails. -/
def writeAll : Bytes → Act P (Except PortFault Unit)
  | [] => pure (.ok ())
  | b :: rest => do
    match ← SerialPort.write (b :: rest) with
    | .error fault => pure (.error fault)
    | .ok taken => writeAll (rest.drop (taken - 1))
termination_by bs => bs.length
decreasing_by simp only [List.length_drop, List.length_cons]; omega

/-- Drops stale input, writes the whole command and flushes it. -/
def send (command : Bytes) : Act P (Except TransportError Unit) := do
  SerialPort.discard
  match ← writeAll command with
  | .error fault => pure (.error (.write fault))
  | .ok () =>
    match ← (SerialPort.flush : Act P (Except PortFault Unit)) with
    | .error fault => pure (.error (.write fault))
    | .ok () => pure (.ok ())

end Serial

end AirStation
