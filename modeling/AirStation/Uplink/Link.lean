import AirStation.Uplink.Command
import AirStation.Uplink.Request

/-! The radio link. The radio's events act on the connectivity at once, wherever the
link task is at that moment, and ask it to join the access point where that is due.
The task alone drives the radio. -/

namespace AirStation.Uplink

/-- Handles a link event, and asks the link task to join if that is due. -/
def dispatch (e : LinkEvent) : Act (Hub Desk) Unit := do
  match ← (Connectivity.onLink e).on Hub.netPart with
  | .connect => Desk.requestJoin
  | .none => pure ()

/-- Whether anybody listens to the radio; if so, the action is carried out. -/
def heard (a : Act (Hub Desk) Unit) : Act (Hub Desk) Bool := do
  if (← get).desk.listening then
    a
    pure true
  else pure false

/-- The radio has started. -/
def radioStarted : Act (Hub Desk) Bool := heard (dispatch .starting)

/-- The radio lost the access point, or an attempt to join it failed. -/
def radioDisconnected (reason : Nat) : Act (Hub Desk) Bool :=
  heard do
    note (.radioLost reason)
    dispatch .disconnected

/-! ### The link task -/

namespace Link

inductive Demand where
  | call (r : Request)
  /-- The request to join, for a limited time. -/
  | join (limit : Millis)

def Demand.Reply : Demand → Type
  | .call r => r.Reply
  | .join _ => Timed Unit

inductive Phase where
  | configuring
  | starting
  | parked
  | joining
  deriving DecidableEq

def Phase.demand (access : Internet) (policy : LinkPolicy) : Phase → Demand
  | .configuring => .call (.configureRadio access)
  | .starting => .call .startRadio
  | .parked => .join policy.cooldown
  | .joining => .call .joinNetwork

abbrev Step := Progress Phase Unit

/-- Begins anew once the wait was long enough, if the link has failed. -/
def cooledDown : Act (Hub Desk) Unit := do
  if (← get).net.snapshot.contains .linkFailed then
    note .cooldownOver
    Connectivity.rearm.on Hub.netPart
    dispatch .starting

/-- A failed attempt to join is told here and counted by the radio's own event. -/
def resume (access : Internet) (policy : LinkPolicy) :
    (p : Phase) → (p.demand access policy).Reply → Act (Hub Desk) Step
  | .configuring, .error e => do
    note (.radioUnconfigured e)
    pure (.done ())
  | .configuring, .ok () => do
    modify fun h => { h with desk.listening := true }
    pure (.paused .starting)
  | .starting, .error e => do
    note (.radioUnstarted e)
    pure (.done ())
  | .starting, .ok () => do
    note (.radioStarted access.ssid)
    pure (.paused .parked)
  | .parked, .ready () => pure (.paused .joining)
  | .parked, .expired => do
    cooledDown
    pure (.paused .parked)
  | .joining, r => do
    match r with
    | .error e => note (.connectFault e)
    | .ok () => pure ()
    pure (.paused .parked)

end Link

/-- Sets the radio up and joins the access point whenever that is asked for. It ends
only if the radio cannot be set up. -/
def link (access : Internet) (policy : LinkPolicy) :
    Activity Link.Demand.Reply (Hub Desk) Unit where
  Paused := Link.Phase
  demand := Link.Phase.demand access policy
  start := pure (.paused .configuring)
  resume := Link.resume access policy

/-! ### The address -/

namespace Lease

/-- What the task waits for: an address assignment, or its end. -/
inductive Phase where
  | down
  | up
  deriving DecidableEq

/-- An assignment may come without an address of version 4. -/
def Reply : Phase → Type
  | .down => Option Ipv4.Net
  | .up => Unit

def resume : (p : Phase) → Reply p → Act (Hub Desk) (Progress Phase Empty)
  | .down, address => do
    match address with
    | some x => note (.addressAssigned x.text)
    | none => pure ()
    dispatch .gotAddress
    pure (.paused .up)
  | .up, _ => do
    dispatch .lostAddress
    pure (.paused .down)

end Lease

/-- Reports each address assignment and its end. -/
def lease : Activity Lease.Reply (Hub Desk) Empty where
  Paused := Lease.Phase
  demand := id
  start := pure (.paused .down)
  resume := Lease.resume

/-! ### The network stack -/

/-- Keeps the network stack going. -/
def stack : Activity Request.Reply (Hub Desk) Empty where
  Paused := Unit
  demand _ := .runStack
  start := pure (.paused ())
  resume _ reply := nomatch reply

end AirStation.Uplink
