import AirStation.Proofs.Uplink.System

/-! The publisher and the session task with a chronicle of what each of them does that
concerns the other, in the order it is done. The publisher's calls are entered by the broker
that it calls; of the session task, what it takes up, what it calls and what comes back, and
what it reports, which is read off the notices it leaves. -/

namespace AirStation

/-- The report of the broker session that a notice tells of. -/
def Notice.report? : Notice → Option BrokerEvent
  | .brokerConnected => some .connected
  | .brokerDisconnected => some .disconnected
  | .brokerFailed => some .error
  | .brokerPublished id => some (.published id)
  | _ => none

namespace Uplink

open Session

/-- What is entered. -/
inductive Deed where
  /-- The publisher asks for a session. -/
  | start
  /-- The publisher asks for the session to be stopped. -/
  | stop
  /-- The publisher has queued a message. -/
  | queued (topic : String) (payload : Bytes)
  /-- The session task takes up a request for a session. -/
  | begun
  | called (r : Request)
  | answered (r : Request) (ok : Bool)
  | reported (e : BrokerEvent)

/-- The uplink's own state with the chronicle beside it. -/
structure Chronicle where
  desk : Desk
  deeds : List Deed

namespace Chronicle

/-- The hub without the chronicle. -/
def hubPart : Part (Hub Chronicle) (Hub Desk) where
  get h := ⟨h.net, h.store, h.desk.desk⟩
  put g h := ⟨g.net, g.store, { h.desk with desk := g.desk }⟩

def enter (ds : List Deed) : Act (Hub Chronicle) Unit :=
  modify fun h => { h with desk.deeds := h.desk.deeds ++ ds }

/-- The broker of the uplink, with each call entered. -/
def broker : Broker Chronicle where
  start := do
    enter [.start]
    Uplink.broker.start.on hubPart
  stop := do
    enter [.stop]
    Uplink.broker.stop.on hubPart
  publish topic payload := do
    let result ← (Uplink.broker.publish topic payload).on hubPart
    if result.isOk then enter [.queued topic payload]
    pure result

end Chronicle

namespace Session

/-- What a reply shows of the session task. -/
def Demand.taken : (d : Demand) → d.Reply → List Deed
  | .command, .start => [.begun]
  | .command, .publish .. => []
  | .call r, x => [.answered r (r.succeeds x)]
  | .turn _, _ => []

/-- The call that the session task waits for. -/
def Demand.call? : Demand → Option Request
  | .call r => some r
  | _ => none

/-- What the session task has done once it waits in another phase. -/
def deeds (access : BrokerAccess) (p : Phase) (r : (p.demand access).Reply)
    (told : Array Notice) (q : Phase) : List Deed :=
  (p.demand access).taken r ++ (told.toList.filterMap Notice.report?).map .reported ++
    (q.demand access).call?.toList.map .called

end Session

/-- The publisher and the session task with their chronicle. -/
structure Recorded where
  site : Publisher.Site Chronicle
  /-- What the publisher waits for, once it has begun. -/
  publisher : Option Publisher.Waiting
  session : Session.Phase

namespace Recorded

def hub (s : Recorded) : Hub Desk := Chronicle.hubPart.get s.site.2

def deeds (s : Recorded) : List Deed := s.site.2.desk.deeds

def withHub (h : Hub Desk) (s : Recorded) : Recorded :=
  { s with site := (s.site.1, Chronicle.hubPart.put h s.site.2) }

def enter (ds : List Deed) (s : Recorded) : Recorded :=
  { s with site.2.desk.deeds := s.deeds ++ ds }

/-- Before any task has begun. -/
def powerOn (maxRetries : UInt8) : Recorded where
  site := ({}, ⟨.ofMaxRetries maxRetries, .empty, ⟨{}, []⟩⟩)
  publisher := none
  session := .idle

variable (cfg : PublisherConfig) (access : BrokerAccess)

/-- One task goes on, or something happens outside. -/
inductive Move : Recorded → Recorded → Prop where
  | publisherBegins {s : Recorded} {w : Publisher.Waiting} {site : Publisher.Site Chronicle}
      (js : Array Notice) : s.publisher = none →
      ((Publisher.run cfg Chronicle.broker).start s.site js).1 = (.paused w, site) →
      Move s { s with site := site, publisher := some w }
  | publisherGoesOn {s : Recorded} {v w : Publisher.Waiting} {site : Publisher.Site Chronicle}
      (r : (v.demand cfg).Reply) (js : Array Notice) : s.publisher = some v →
      ((Publisher.run cfg Chronicle.broker).resume v r s.site js).1 = (.paused w, site) →
      Move s { s with site := site, publisher := some w }
  | sessionGoesOn {s : Recorded} {q : Phase} {h h' : Hub Desk} {told : Array Notice}
      (r : (s.session.demand access).Reply) :
      (s.session.demand access).Meets r s.hub h →
      (Uplink.session access).resume s.session r h #[] = ((.paused q, h'), told) →
      Move s { (s.withHub h').enter (Session.deeds access s.session r told q) with session := q }
  | linkReports {s : Recorded} (e : LinkEvent) (js : Array Notice) :
      Move s (s.withHub (dispatch e s.hub js).1.2)
  | linkCooledDown {s : Recorded} (js : Array Notice) :
      Move s (s.withHub (Link.cooledDown s.hub js).1.2)
  /-- The readings, the latch of newly set flags and what else is no flag and no command. -/
  | aside {s : Recorded} (store : Store) (changed join listening : Bool) :
      Move s (s.withHub { s.hub with
        store := store
        net.changed := changed
        desk.joinRequested := join
        desk.listening := listening })

inductive Reachable : Recorded → Prop where
  | powerOn (maxRetries : UInt8) : Reachable (powerOn maxRetries)
  | move {s t : Recorded} : Reachable s → Move cfg access s t → Reachable t

/-! ### A session comes up -/

variable {cfg : PublisherConfig} {access : BrokerAccess} {s : Recorded}

/-- The session task goes on, and everything that comes of it is computed. -/
theorem Reachable.sessionGoesOn {q : Phase} {h : Hub Desk} (hs : Reachable cfg access s)
    (r : (s.session.demand access).Reply) (hm : (s.session.demand access).Meets r s.hub h)
    (hq : ((Uplink.session access).resume s.session r h #[]).1.1 = .paused q) :
    Reachable cfg access
      { (s.withHub ((Uplink.session access).resume s.session r h #[]).1.2).enter
          (Session.deeds access s.session r ((Uplink.session access).resume s.session r h #[]).2 q)
        with session := q } :=
  .move hs (.sessionGoesOn r hm (Prod.ext (Prod.ext hq rfl) rfl))

/-- An address is there and the publisher has begun. -/
def linked (flags : Flags) (p : Phase) (queue : CommandQueue) (ds : List Deed) : Recorded where
  site := ({}, ⟨⟨flags, true, .ofMax 3⟩, .empty, ⟨{ queue := queue }, ds⟩⟩)
  publisher := some .flags
  session := p

theorem reachable_asked :
    Reachable {} {} (linked .linkUp .idle ⟨[.start], by decide⟩ [.start]) := by
  have hlink : Reachable {} {}
      ((powerOn 3).withHub (dispatch .gotAddress (powerOn 3).hub #[]).1.2) :=
    .move (.powerOn 3) (.linkReports .gotAddress #[])
  have hbegun := Reachable.move hlink (.publisherBegins (w := .flags) #[] rfl rfl)
  exact .move hbegun (.publisherGoesOn (v := .flags) (.expired : Timed Unit) #[] rfl rfl)

/-- Where the broker is in the runs below. -/
def broker : Ipv4 := ⟨10, 0, 0, 1⟩

/-- What it takes for the first session to be connected. -/
def opened : List Deed :=
  [.start, .begun, .called (.resolve ""), .answered (.resolve "") true,
    .called (.connect broker 1883), .answered (.connect broker 1883) true,
    .called (.openSession {}), .answered (.openSession {}) true, .reported .connected]

/-- The first session, connected. -/
def connected : Recorded :=
  linked (.union .linkUp .brokerUp) (.serving 0) .empty opened

theorem reachable_connected : Reachable {} {} connected := by
  have hresolving := reachable_asked.sessionGoesOn (q := .resolving) Command.start ⟨#[], rfl⟩ rfl
  have hconnecting := hresolving.sessionGoesOn (q := .connecting broker)
    (.ok [broker] : Except ApiFault (List Ipv4)) rfl rfl
  have hopening := hconnecting.sessionGoesOn (q := .opening)
    (.ok () : Except ApiFault Unit) rfl rfl
  exact hopening.sessionGoesOn (q := .serving 0) (.ok () : Except ApiFault Unit) rfl rfl

end Recorded

end Uplink

end AirStation
