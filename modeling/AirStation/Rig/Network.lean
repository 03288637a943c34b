import AirStation.Timed.Job
import AirStation.Uplink.Link
import AirStation.Uplink.Session

/-! A radio and a network that play a script: how each request of the uplink ends, and
after what time. They record every request with its moment. -/

namespace AirStation.Rig

open Uplink

/-- The kinds of request. Each has its answers in a queue of its own, and a name in
scripts and transcripts. -/
inductive Service where
  | configureRadio | startRadio | joinNetwork | runStack | resolve | connect | openSession
  | send | ping | closeSession
  deriving DecidableEq

instance : Named Service where
  all := [.configureRadio, .startRadio, .joinNetwork, .runStack, .resolve, .connect, .openSession,
    .send, .ping, .closeSession]
  name
    | .configureRadio => "wifi_set_config"
    | .startRadio => "wifi_start"
    | .joinNetwork => "wifi_connect"
    | .runStack => "net_run"
    | .resolve => "dns_query"
    | .connect => "tcp_connect"
    | .openSession => "mqtt_connect"
    | .send => "mqtt_send"
    | .ping => "mqtt_ping"
    | .closeSession => "mqtt_disconnect"

def Service.of : Request → Service
  | .configureRadio _ => .configureRadio
  | .startRadio => .startRadio
  | .joinNetwork => .joinNetwork
  | .runStack => .runStack
  | .resolve _ => .resolve
  | .connect .. => .connect
  | .openSession _ => .openSession
  | .send .. => .send
  | .ping => .ping
  | .closeSession => .closeSession

/-- The address of every host that the script says nothing about. -/
def knownHost : Ipv4 := ⟨10, 0, 0, 1⟩

structure Answer where
  fault : Option ApiFault := none
  addresses : List Ipv4 := [knownHost]
  delay : Millis := 0

/-- The reply of an answer. A stack that runs never replies. -/
def Answer.reply? (a : Answer) : (r : Request) → Option r.Reply
  | .runStack => none
  | .resolve _ => some (match a.fault with | none => .ok a.addresses | some e => .error e)
  | .configureRadio _ | .startRadio | .joinNetwork | .connect .. | .openSession _ | .send ..
  | .ping | .closeSession => some (match a.fault with | none => .ok () | some e => .error e)

structure Network where
  script : List (Service × Answer) := []
  /-- None while the stack has no address assignment, which may come without an address. -/
  lease : Option (Option Ipv4.Net) := none
  requests : Array (Millis × Request) := #[]

/-- What the uplink's tasks share, and the world that they act on. -/
abbrev Field := Hub Desk × Network

namespace Network

def extend (more : List (Service × Answer)) (n : Network) : Network :=
  { n with script := n.script ++ more }

/-- The next answer to a kind of request. -/
def next (s : Service) (n : Network) : Answer :=
  ((n.script.find? (·.1 == s)).map (·.2)).getD {}

def drop (s : Service) (n : Network) : Network :=
  { n with script := n.script.eraseP (·.1 == s) }

/-- How long a request takes. The configuration of the radio is settled at once. -/
def delay (r : Request) (n : Network) : Millis :=
  match r with
  | .configureRadio _ => 0
  | _ => (n.next (Service.of r)).delay

def record (now : Millis) (r : Request) : Act Field Unit :=
  modify fun s => (s.1, { s.2 with requests := s.2.requests.push (now, r) })

/-- What an answer brings about by itself: a radio that has started tells so. -/
def react (a : Answer) : Request → Act Field Unit
  | .startRadio => do
    if a.fault.isNone then let _ ← Uplink.radioStarted.on .fst
  | _ => pure ()

def settle (w : Timed.Wait) (r : Request) : Act Field (Timed.Look r.Reply) := do
  let a := (← get).2.next (Service.of r)
  modify fun s => (s.1, s.2.drop (Service.of r))
  react a r
  match a.reply? r with
  | some reply => pure (.over reply)
  | none => pure (.still { w with fetch := .never })

/-- A request is recorded when it is first looked at and answered when its time is over. -/
def call (now : Millis) (w : Timed.Wait) (r : Request) : Act Field (Timed.Look r.Reply) := do
  match w.fetch with
  | .unasked =>
    record now r
    let delay := (← get).2.delay r
    if delay = 0 then settle w r else pure (.still { w with fetch := .due (now + delay) })
  | .due moment => if moment ≤ now then settle w r else pure (.still w)
  | .never => pure (.still w)

/-! ### Meeting the demands of the uplink's tasks -/

def attendSession : Timed.Attend Session.Demand.Reply Field
  | _, w, .command => Timed.await w (Desk.takeCommand.on .fst)
  | now, w, .call r => call now w r
  | now, w, .turn limit => do
    match ← Session.takeTurn.on .fst with
    | some turn => pure (.over turn)
    | none => pure (if w.isOver now limit then .over .pingDue else .still w)

def attendLink : Timed.Attend Link.Demand.Reply Field
  | now, w, .call r => call now w r
  | now, w, .join limit => Timed.within now w limit (Desk.takeJoin.on .fst)

def attendLease : Timed.Attend Lease.Reply Field
  | _, w, .down => do pure (match (← get).2.lease with | some x => .over x | none => .still w)
  | _, w, .up => do pure (match (← get).2.lease with | some _ => .still w | none => .over ())

def attendStack : Timed.Attend Request.Reply Field
  | now, w, r => call now w r

end Network

end AirStation.Rig
