import AirStation.Publisher.Cycle
import AirStation.Text.Utf8
import AirStation.Timed.Job

/-! A simulated access point that goes away from time to time, and a broker that logs
what is published instead of sending it. -/

namespace AirStation.Simulation

/-- Association and address assignment together. -/
def associateDelay : Millis := 1500

def handshakeDelay : Millis := 300

/-- What the broker and its session share: the session state last asked for, if it has
not been taken up yet, and the count of publishes modulo 65536. -/
structure SessionDesk where
  request : Option Bool := none
  sent : UInt16 := 0

abbrev Site := Hub SessionDesk

def ask (up : Bool) : Act Site Unit :=
  modify fun h => { h with desk.request := some up }

def publish (topic : String) (payload : Bytes) : Act Site (Except BrokerError Unit) := do
  if (← get).net.snapshot.contains .brokerUp then
    modify fun h => { h with desk.sent := h.desk.sent + 1 }
    note (.simulatedPublish topic (Utf8.repaired payload))
    (Connectivity.onBroker (.published (← get).desk.sent)).on Hub.netPart
    pure (.ok ())
  else pure (.error .notConnected)

/-- A broker that logs what it is given while its session stands. -/
def loggingBroker : Broker SessionDesk where
  start := ask true
  stop := ask false
  publish := publish

/-! ### The link -/

inductive LinkPhase where
  | associating
  | up

def LinkPhase.length (outageEvery : Millis) : LinkPhase → Millis
  | .associating => associateDelay
  | .up => outageEvery

/-- After an event: associate again if that is what is to be done. -/
def LinkPhase.after : LinkAction → LinkPhase
  | .connect => .associating
  | .none => .up

def TimerReply (_ : Millis) : Type := Unit

/-- Brings the link up and drops it after each period. -/
def link (outageEvery : Millis) : Activity TimerReply Site Empty where
  Paused := LinkPhase
  demand := LinkPhase.length outageEvery
  start := do
    let action ← (Connectivity.onLink .starting).on Hub.netPart
    pure (.paused (.after action))
  resume
    | .associating, _ => do
      let _ ← (Connectivity.onLink .gotAddress).on Hub.netPart
      pure (.paused .up)
    | .up, _ => do
      note .simulatedOutage
      let _ ← (Connectivity.onLink .lostAddress).on Hub.netPart
      let action ← (Connectivity.onLink .disconnected).on Hub.netPart
      pure (.paused (.after action))

def attendLink : Timed.Attend TimerReply Site
  | now, w, length => pure (Timed.timer now w length)

/-! ### The session -/

inductive SessionPhase where
  | idle
  | shaking (up : Bool)

inductive SessionDemand where
  | request
  | pause (length : Millis)

def SessionDemand.Reply : SessionDemand → Type
  | .request => Bool
  | .pause _ => Unit

def SessionPhase.demand : SessionPhase → SessionDemand
  | .idle => .request
  | .shaking _ => .pause handshakeDelay

/-- Takes up what was asked for last, and reports it done after a handshake. -/
def session : Activity SessionDemand.Reply Site Empty where
  Paused := SessionPhase
  demand := SessionPhase.demand
  start := pure (.paused .idle)
  resume
    | .idle, up => pure (.paused (.shaking up))
    | .shaking up, _ => do
      (Connectivity.onBroker (if up then .connected else .disconnected)).on Hub.netPart
      pure (.paused .idle)

def takeRequest : Act Site (Option Bool) := do
  let h ← get
  set { h with desk.request := none }
  pure h.desk.request

def attendSession : Timed.Attend SessionDemand.Reply Site
  | _, w, .request => Timed.await w takeRequest
  | now, w, .pause length => pure (Timed.timer now w length)

/-! ### The session alone -/

/-- The broker and its session with nobody else at their hub. -/
structure Desk where
  hub : Site
  job : Timed.Job session := .fresh
  now : Millis := 0

namespace Desk

def hubPart : Part Desk Site := ⟨Desk.hub, fun h d => { d with hub := h }⟩

def poll : Act Desk Unit := fun d js =>
  let ((job, hub), js) := d.job.poll attendSession d.now d.hub js
  (((), { d with job, hub }), js)

/-- Polls the session at the present moment and at each of the next ones. -/
def advance : Nat → Act Desk Unit
  | 0 => poll
  | n + 1 => do
    poll
    modify fun d => { d with now := d.now + 1 }
    advance n

end Desk

end AirStation.Simulation
