import AirStation.Hub
import AirStation.Publisher.Cycle

/-! A broker that plays a script: the events that its calls bring about, and how
each publish ends. It records its calls. -/

namespace AirStation.Rig

inductive BrokerCall where
  | start
  | stop
  | publish (topic : String) (payload : Bytes)
  deriving DecidableEq

structure Outcome where
  refusal : Option BrokerError
  events : List Event

structure BrokerScript where
  onStart : List Event := []
  onStop : List Event := []
  outcomes : List Outcome := []
  /-- How every publish ends once the outcomes are used up. -/
  refusal : Option BrokerError := none
  calls : Array BrokerCall := #[]
  accepted : Array (String × Bytes) := #[]

namespace BrokerScript

def record (c : BrokerCall) : Act (Hub BrokerScript) Unit :=
  modify fun h => { h with desk.calls := h.desk.calls.push c }

/-- How many sessions were asked for. -/
def starts (b : BrokerScript) : Nat := b.calls.count .start

/-- How many sessions were asked to end. -/
def stops (b : BrokerScript) : Nat := b.calls.count .stop

/-- How many messages were handed over, accepted or not. -/
def attempts (b : BrokerScript) : Nat := b.calls.size - b.starts - b.stops

def conclude (topic : String) (payload : Bytes) :
    Option BrokerError → Act (Hub BrokerScript) (Except BrokerError Unit)
  | some e => pure (.error e)
  | none => do
    modify fun h => { h with desk.accepted := h.desk.accepted.push (topic, payload) }
    pure (.ok ())

def publish (topic : String) (payload : Bytes) :
    Act (Hub BrokerScript) (Except BrokerError Unit) := do
  record (.publish topic payload)
  let h ← get
  match h.desk.outcomes with
  | [] => conclude topic payload h.desk.refusal
  | outcome :: outcomes =>
    set { h with desk.outcomes := outcomes }
    outcome.events.forM Event.happen
    conclude topic payload outcome.refusal

def broker : Broker BrokerScript where
  start := do
    record .start
    (← get).desk.onStart.forM Event.happen
  stop := do
    record .stop
    (← get).desk.onStop.forM Event.happen
  publish := publish

end BrokerScript

end AirStation.Rig
