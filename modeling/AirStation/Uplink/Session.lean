import AirStation.Uplink.Command
import AirStation.Uplink.Request

/-! The session task. It waits for a command to start, opens a session and serves it
until it is stopped or fails; then it reports the end and empties the queue, since
what was queued for one session is not for the next. A command to publish without a
session is dropped. -/

namespace AirStation.Uplink

namespace Session

/-- What ends the wait of a standing session. -/
inductive Turn where
  | stop
  | command (c : Command)
  | pingDue

inductive Demand where
  /-- The next command. -/
  | command
  | call (r : Request)
  /-- The request to stop, else the next command, else the end of the given time. -/
  | turn (limit : Millis)

def Demand.Reply : Demand → Type
  | .command => Command
  | .call r => r.Reply
  | .turn _ => Turn

/-- What the task waits for. A standing session carries the number of messages sent,
modulo 65536. -/
inductive Phase where
  | idle
  | resolving
  | connecting (address : Ipv4)
  | opening
  | serving (sent : UInt16)
  | sending (sent : UInt16) (topic : String) (payload : Bytes)
  | pinging (sent : UInt16)
  | closing
  deriving DecidableEq

/-- The longest silence on a standing session: half its keep-alive time, and one second
at least. -/
def pingPause (access : BrokerAccess) : Millis :=
  1000 * max (access.keepAliveSecs / 2).toNat 1

def Phase.demand (access : BrokerAccess) : Phase → Demand
  | .idle => .command
  | .resolving => .call (.resolve access.host)
  | .connecting address => .call (.connect address access.port)
  | .opening => .call (.openSession access)
  | .serving _ => .turn (pingPause access)
  | .sending _ topic payload => .call (.send topic payload)
  | .pinging _ => .call .ping
  | .closing => .call .closeSession

/-- Reports to the connectivity. -/
def report (e : BrokerEvent) : Act (Hub Desk) Unit :=
  (Connectivity.onBroker e).on Hub.netPart

abbrev Step := Progress Phase Empty

/-- Waits in the given phase. -/
def wait (p : Phase) : Act (Hub Desk) Step := pure (.paused p)

/-- The end of a session, by an error or by a stop; either way it is reported. -/
def finish (cause : Option SessionError) : Act (Hub Desk) Step := do
  match cause with
  | none => pure ()
  | some e =>
    note (.sessionEnded e)
    report .error
  report .disconnected
  Desk.clearQueue
  wait .idle

/-- A host that is an address needs no resolver. -/
def locate (access : BrokerAccess) : Act (Hub Desk) Step :=
  match Ipv4.parse? access.host with
  | some address => wait (.connecting address)
  | none => wait .resolving

/-- How a resolver says that there is no address. -/
def noAddress : ApiFault := ⟨"Failed"⟩

def onCommand (access : BrokerAccess) : Command → Act (Hub Desk) Step
  | .start => do
    -- a stop that found no session to stop has been obeyed
    Desk.forgetStop
    note (.sessionOpening access.host access.port)
    locate access
  | .publish topic _ => do
    note (.sessionMissing topic)
    wait .idle

def onTurn (sent : UInt16) : Turn → Act (Hub Desk) Step
  | .stop => wait .closing
  | .command (.publish topic payload) => wait (.sending sent topic payload)
  | .command .start => do
    note .sessionStands
    report .connected
    wait (.serving sent)
  | .pingDue => wait (.pinging sent)

def resume (access : BrokerAccess) :
    (p : Phase) → (p.demand access).Reply → Act (Hub Desk) Step
  | .idle, c => onCommand access c
  | .resolving, .error e => finish (some (.resolve e))
  | .resolving, .ok [] => finish (some (.resolve noAddress))
  | .resolving, .ok (address :: _) => wait (.connecting address)
  | .connecting _, .error e => finish (some (.connect e))
  | .connecting _, .ok () => wait .opening
  | .opening, .error e => finish (some (.mqtt e))
  | .opening, .ok () => do
    report .connected
    wait (.serving 0)
  | .serving sent, turn => onTurn sent turn
  | .sending .., .error e => finish (some (.mqtt e))
  | .sending sent _ _, .ok () => do
    report (.published (sent + 1))
    wait (.serving (sent + 1))
  | .pinging _, .error e => finish (some (.mqtt e))
  | .pinging sent, .ok () => wait (.serving sent)
  | .closing, r => do
    match r with
    | .error e => note (.disconnectFault e)
    | .ok () => pure ()
    finish none

/-- One look for the end of a standing session's wait, its time aside. -/
def takeTurn : Act (Hub Desk) (Option Turn) := do
  match ← Desk.takeStop with
  | some () => pure (some .stop)
  | none =>
    match ← Desk.takeCommand with
    | some c => pure (some (.command c))
    | none => pure none

end Session

/-- Session after session, one for each command to start. -/
def session (access : BrokerAccess) : Activity Session.Demand.Reply (Hub Desk) Empty where
  Paused := Session.Phase
  demand := Session.Phase.demand access
  start := Session.wait .idle
  resume := Session.resume access

end AirStation.Uplink
