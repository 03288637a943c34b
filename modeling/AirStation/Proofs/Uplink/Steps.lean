import AirStation.Proofs.Uplink.Chronicle

/-! What a step of the publisher or of the session task may do to the parts that matter
between them. It is said once, step by step, with the guards under which each is taken, and
every move of the system comes down to such steps. So what is to hold of every chronicle need
only be kept by them. -/

namespace AirStation.Uplink

open Session

/-- What matters between the publisher and the session task. -/
structure View where
  phase : Phase
  publishing : Bool
  queue : List Command
  stop : Bool
  up : Bool
  deeds : List Deed

/-- The steps of the publisher, then those of the session task. -/
inductive Step (access : BrokerAccess) : View → View → Prop where
  | begins {v : View} : v.up = true → Step access v { v with publishing := true }
  | queues {v : View} (topic : String) (payload : Bytes) : v.publishing = true →
      Step access v { v with
        queue := v.queue ++ [.publish topic payload]
        deeds := v.deeds ++ [.queued topic payload] }
  | ends (v : View) : Step access v { v with publishing := false }
  | starts {v : View} {queue : List Command} : v.publishing = false → v.up = false →
      queue = v.queue ∨ queue = v.queue ++ [.start] →
      Step access v { v with queue := queue, deeds := v.deeds ++ [.start] }
  | stops {v : View} : v.publishing = false → v.up = true →
      Step access v { v with stop := true, up := false, deeds := v.deeds ++ [.stop] }
  | begun {v : View} {rest : List Command} {q : Phase} {r : Request} : v.phase = .idle →
      v.queue = .start :: rest → q.Opens → (q.demand access).call? = some r →
      Step access v { v with
        phase := q, queue := rest, stop := false, deeds := v.deeds ++ [.begun, .called r] }
  | drops {v : View} {topic : String} {payload : Bytes} {rest : List Command} :
      v.phase = .idle → v.queue = .publish topic payload :: rest →
      Step access v { v with queue := rest }
  | opens {v : View} {q : Phase} {r r' : Request} : v.phase.Opens → q.Opens →
      (v.phase.demand access).call? = some r → (q.demand access).call? = some r' →
      Step access v { v with phase := q, deeds := v.deeds ++ [.answered r true, .called r'] }
  | connects {v : View} : v.phase = .opening →
      Step access v { v with
        phase := .serving 0, up := true
        deeds := v.deeds ++ [.answered (.openSession access) true, .reported .connected] }
  /-- A resolver that knows no address has answered without one. -/
  | fails {v : View} {r : Request} {ok : Bool} : v.phase ≠ .closing →
      (v.phase.demand access).call? = some r → (ok = true → v.phase = .resolving) →
      Step access v { v with
        phase := .idle, up := false, queue := []
        deeds := v.deeds ++ [.answered r ok, .reported .error, .reported .disconnected] }
  | obeys {v : View} {sent : UInt16} : v.phase = .serving sent → v.stop = true →
      Step access v { v with
        phase := .closing, stop := false, deeds := v.deeds ++ [.called .closeSession] }
  | sends {v : View} {sent : UInt16} {topic : String} {payload : Bytes} {rest : List Command} :
      v.phase = .serving sent → v.stop = false → v.queue = .publish topic payload :: rest →
      Step access v { v with
        phase := .sending sent topic payload, queue := rest
        deeds := v.deeds ++ [.called (.send topic payload)] }
  | reports {v : View} {sent : UInt16} {rest : List Command} : v.phase = .serving sent →
      v.stop = false → v.queue = .start :: rest →
      Step access v { v with
        queue := rest, up := true, deeds := v.deeds ++ [.reported .connected] }
  | pings {v : View} {sent : UInt16} : v.phase = .serving sent → v.stop = false →
      Step access v { v with phase := .pinging sent, deeds := v.deeds ++ [.called .ping] }
  | sent {v : View} {sent : UInt16} {topic : String} {payload : Bytes} :
      v.phase = .sending sent topic payload →
      Step access v { v with
        phase := .serving (sent + 1)
        deeds := v.deeds ++ [.answered (.send topic payload) true,
          .reported (.published (sent + 1))] }
  | pinged {v : View} {sent : UInt16} : v.phase = .pinging sent →
      Step access v { v with
        phase := .serving sent, deeds := v.deeds ++ [.answered .ping true] }
  | closes {v : View} (ok : Bool) : v.phase = .closing →
      Step access v { v with
        phase := .idle, up := false, queue := []
        deeds := v.deeds ++ [.answered .closeSession ok, .reported .disconnected] }

/-! ### What a step enters -/

/-- Neither a request to stop nor the beginning of a send or of the closing of a session. -/
def Deed.Plain : Deed → Prop
  | .stop | .called (.send ..) | .called .closeSession => False
  | _ => True

/-- Where the other deeds are done. -/
def View.Allows (v : View) : Deed → Prop
  | .stop => v.up = true
  | .called (.send topic payload) =>
    v.phase.Stands ∧ ∃ rest, v.queue = .publish topic payload :: rest
  | .called .closeSession => v.phase.Stands ∧ v.stop = true
  | _ => True

theorem plain_of_opens {access : BrokerAccess} {q : Phase} {r : Request} (hq : q.Opens)
    (hr : (q.demand access).call? = some r) : (Deed.called r).Plain := by
  cases q <;> cases hq <;> cases hr <;> trivial

/-- A deed that is not plain is the only one of its step. -/
theorem Step.enters {access : BrokerAccess} {v w : View} (h : Step access v w) :
    ∃ es, w.deeds = v.deeds ++ es ∧
      ((∀ d ∈ es, d.Plain) ∨ ∃ d, es = [d] ∧ v.Allows d) := by
  cases h with
  | begins | ends | drops => exact ⟨[], (List.append_nil _).symm, .inl (by simp)⟩
  | stops _ hup => exact ⟨_, rfl, .inr ⟨_, rfl, hup⟩⟩
  | obeys hphase hstop => exact ⟨_, rfl, .inr ⟨_, rfl, by rw [hphase]; trivial, hstop⟩⟩
  | sends hphase _ hqueue => exact ⟨_, rfl, .inr ⟨_, rfl, by rw [hphase]; trivial, _, hqueue⟩⟩
  | begun _ _ hq hr | opens _ hq _ hr =>
    have hplain := plain_of_opens hq hr
    exact ⟨_, rfl, .inl (List.forall_mem_cons.2 ⟨trivial, List.forall_mem_singleton.2 hplain⟩)⟩
  | queues | starts | connects | fails | reports | pings | sent | pinged | closes =>
    exact ⟨_, rfl, .inl (by simp [Deed.Plain])⟩

/-- Any number of steps. -/
abbrev Steps (access : BrokerAccess) : View → View → Prop :=
  Relation.ReflTransGen (Step access)

/-- The view from a hub, with where the two tasks stand and what was done. -/
def view (p : Phase) (publishing : Bool) (h : Hub Desk) (ds : List Deed) : View where
  phase := p
  publishing := publishing
  queue := h.desk.queue.commands
  stop := h.desk.stopRequested
  up := h.net.has .brokerUp
  deeds := ds

abbrev Chronicle.view (p : Phase) (publishing : Bool) (h : Hub Chronicle) : View :=
  Uplink.view p publishing (hubPart.get h) h.desk.deeds

namespace Chronicle

variable {access : BrokerAccess} {v : View} {p q : Phase} {publishing : Bool} {h : Hub Chronicle}

/-! ### The publisher -/

/-- A message is queued and entered, or nothing happens. -/
theorem broker_publish (topic : String) (payload : Bytes) (h : Hub Chronicle)
    (js : Array Notice) :
    view p true (broker.publish topic payload h js).1.2 = view p true h ∨
      view p true (broker.publish topic payload h js).1.2 =
        { view p true h with
          queue := (view p true h).queue ++ [.publish topic payload]
          deeds := (view p true h).deeds ++ [.queued topic payload] } := by
  by_cases hfits : topicCapacity < topic.utf8ByteSize ∨ payloadCapacity < payload.length
  · left
    simp [broker, Uplink.broker, publish, hfits, hubPart, Except.isOk, Except.toBool]
  · cases hoffer : h.desk.desk.queue.offer (.publish topic payload) with
    | none =>
      left
      simp [broker, Uplink.broker, publish, hfits, hubPart, Desk.offer, hoffer, Except.isOk,
        Except.toBool]
    | some queue =>
      right
      have hqueue := (CommandQueue.offer_eq_some_iff.1 hoffer).2
      simp [broker, Uplink.broker, publish, hfits, hubPart, Desk.offer, hoffer, Except.isOk,
        Except.toBool, enter, Uplink.view, hqueue]

/-- The request for a session is entered, and it is queued where there is a place. -/
theorem broker_start (h : Hub Chronicle) (js : Array Notice) :
    ∃ queue, (queue = h.desk.desk.queue.commands ∨ queue = h.desk.desk.queue.commands ++ [.start]) ∧
      view p false (broker.start h js).1.2 =
        { view p false h with queue := queue, deeds := (view p false h).deeds ++ [.start] } := by
  cases hoffer : h.desk.desk.queue.offer .start with
  | none =>
    refine ⟨_, .inl rfl, ?_⟩
    simp [broker, Uplink.broker, start, hubPart, Desk.offer, hoffer, enter, Uplink.view]
  | some queue =>
    refine ⟨_, .inr rfl, ?_⟩
    have hqueue := (CommandQueue.offer_eq_some_iff.1 hoffer).2
    simp [broker, Uplink.broker, start, hubPart, Desk.offer, hoffer, enter, Uplink.view, hqueue]

theorem view_settled (seen : Flags) (s : Publisher.Site Chronicle) :
    view p publishing (Publisher.settled seen s).2 = view p publishing s.2 := by
  have hup := Publisher.has_brokerUp_settled seen s
  unfold Publisher.settled at hup ⊢
  split
  next h =>
    rw [if_pos h] at hup
    simp only [view, hubPart, Uplink.view, hup]
  next => rfl

theorem view_stopped (s : Publisher.Site Chronicle) (js : Array Notice) :
    view p false (Publisher.stopped broker s js).2 =
      { view p false s.2 with
        stop := true, up := false, deeds := (view p false s.2).deeds ++ [.stop] } := by
  have hdown := Connectivity.has_lower_self Flags.single_brokerUp s.2.net
  simp [Publisher.stopped, broker, Uplink.broker, enter, Desk.requestStop, hubPart, Uplink.view,
    hdown]

/-- Whatever the publisher does is done in steps. -/
theorem publisher_keeps (access : BrokerAccess) (v : View) (p : Phase) :
    Publisher.Keeps broker (fun s => Steps access v (view p false s.2))
      (fun s => Steps access v (view p true s.2)) where
  begins hs hup := hs.tail (.begins hup)
  publishes hs h := by
    cases h with
    | aside watches store => exact hs
    | publish topic payload js =>
      rcases broker_publish (p := p) topic payload _ js with hsame | hmore
      · rw [hsame]
        exact hs
      · rw [hmore]
        exact hs.tail (.queues topic payload rfl)
  ends {s} seen hs := by
    rw [view_settled]
    exact hs.tail (.ends _)
  settles seen hs := by
    rw [view_settled]
    exact hs
  stops js hs hup := by
    rw [view_stopped]
    exact hs.tail (.stops rfl hup)
  starts js hs hdown := by
    obtain ⟨queue, hqueue, hview⟩ := broker_start (p := p) _ js
    rw [hview]
    exact hs.tail (.starts rfl hdown hqueue)

end Chronicle

/-! ### The session task -/

theorem report_told (e : BrokerEvent) (h : Hub Desk) (js : Array Notice) :
    (report e h js).2.toList.filterMap Notice.report? =
      js.toList.filterMap Notice.report? ++ [e] := by
  cases e <;> simp [report, Connectivity.onBroker, Notice.report?]

/-- The end of a session is reported, and the queue is empty after it. -/
theorem finish_apply (cause : Option SessionError) (h : Hub Desk) (js : Array Notice) :
    ∃ net : Connectivity, net.has .brokerUp = false ∧
      (finish cause h js).1 = (.paused .idle, { h with net := net, desk.queue := .empty }) ∧
      (finish cause h js).2.toList.filterMap Notice.report? =
        js.toList.filterMap Notice.report? ++
          (cause.toList.map fun _ => .error) ++ [.disconnected] := by
  cases cause with
  | none =>
    refine ⟨_, Connectivity.has_lower_self Flags.single_brokerUp h.net, rfl, ?_⟩
    exact (report_told .disconnected h js).trans (by simp)
  | some e =>
    refine ⟨_, Connectivity.has_lower_self Flags.single_brokerUp _, rfl, ?_⟩
    have htold := report_told .disconnected (report .error h (js.push (.sessionEnded e))).1.2
      (report .error h (js.push (.sessionEnded e))).2
    rw [report_told .error h, Array.toList_push, List.filterMap_append] at htold
    exact htold.trans (by simp [Notice.report?])

section

variable {access : BrokerAccess} {p q : Phase} {publishing : Bool} {h k h' : Hub Desk}
  {ds : List Deed} {told : Array Notice}

/-- Any call but the last may fail, and then the session is over. -/
theorem finish_step {r : Request} {ok : Bool} (e : SessionError) (hp : p ≠ .closing)
    (hcall : (p.demand access).call? = some r) (hok : ok = true → p = .resolving)
    (hres : finish (some e) h #[] = ((.paused q, h'), told)) :
    Step access (view p publishing h ds)
      (view q publishing h' (ds ++ ([.answered r ok] ++
        (told.toList.filterMap Notice.report?).map .reported ++
          (q.demand access).call?.toList.map .called))) := by
  obtain ⟨net, hdown, hstate, htold⟩ := finish_apply (some e) h #[]
  rw [hres] at hstate htold
  cases hstate
  have hstep := Step.fails (v := view p publishing h ds) hp hcall hok
  simpa [view, hdown, htold, Phase.demand, Demand.call?] using hstep

/-- The last call ends the session, whatever comes of it. -/
theorem closing_step {ok : Bool} (js : Array Notice)
    (hquiet : js.toList.filterMap Notice.report? = [])
    (hres : finish none h js = ((.paused q, h'), told)) :
    Step access (view .closing publishing h ds)
      (view q publishing h' (ds ++ ([.answered .closeSession ok] ++
        (told.toList.filterMap Notice.report?).map .reported ++
          (q.demand access).call?.toList.map .called))) := by
  obtain ⟨net, hdown, hstate, htold⟩ := finish_apply none h js
  rw [hres] at hstate htold
  cases hstate
  have hstep : Step access (view .closing publishing h ds) _ := .closes ok rfl
  simpa [view, hdown, htold, hquiet, Phase.demand, Demand.call?] using hstep

theorem idle_step {c : Command} (hm : Demand.command.Meets c h k)
    (hres : onCommand access c k #[] = ((.paused q, h'), told)) :
    Step access (view .idle publishing h ds)
      (view q publishing h' (ds ++ deeds access .idle c told q)) := by
  obtain ⟨js, hc⟩ := hm
  obtain ⟨queue, hqueue, rfl⟩ := takeCommand_some hc
  cases c with
  | publish topic payload =>
    cases hres
    have hnone : deeds access .idle (Command.publish topic payload) #[.sessionMissing topic] .idle =
        [] := rfl
    change Step access _ (view _ _ _ (_ ++ deeds access .idle _ #[.sessionMissing topic] .idle))
    rw [hnone, List.append_nil]
    exact .drops (v := view .idle publishing h ds) rfl hqueue
  | start =>
    have hbegins {q : Phase} {r : Request} (hq : q.Opens)
        (hr : (q.demand access).call? = some r) :
        Step access (view .idle publishing h ds)
          (view q publishing { h with desk.queue := queue, desk.stopRequested := false }
            (ds ++ deeds access .idle Command.start
              #[.sessionOpening access.host access.port] q)) := by
      have hentered : deeds access .idle Command.start
          #[.sessionOpening access.host access.port] q = [.begun, .called r] := by
        simp only [deeds, hr]
        rfl
      rw [hentered]
      exact .begun (v := view .idle publishing h ds) rfl hqueue hq hr
    simp only [onCommand, Act.bind_apply, locate] at hres
    cases hhost : Ipv4.parse? access.host with
    | some address =>
      rw [hhost] at hres
      cases hres
      exact hbegins (q := .connecting address) trivial rfl
    | none =>
      rw [hhost] at hres
      cases hres
      exact hbegins (q := .resolving) trivial rfl

theorem serving_step {sent : UInt16} {t : Turn}
    (hm : (Demand.turn (pingPause access)).Meets t h k)
    (hres : onTurn sent t k #[] = ((.paused q, h'), told)) :
    Step access (view (.serving sent) publishing h ds)
      (view q publishing h' (ds ++ deeds access (.serving sent) t told q)) := by
  rcases meets_turn_cases hm with
    ⟨hstop, rfl, rfl⟩ | ⟨hstop, ⟨c, queue, rfl, hqueue, rfl⟩ | ⟨rfl, rfl⟩⟩
  · cases hres
    exact .obeys (v := view (.serving sent) publishing h ds) rfl hstop
  · cases c with
    | publish topic payload =>
      cases hres
      exact .sends (v := view (.serving sent) publishing h ds) rfl hstop hqueue
    | start =>
      cases hres
      have hup := Connectivity.has_raise_self Flags.single_brokerUp h.net
      have hstep : Step access (view (.serving sent) publishing h ds) _ :=
        .reports rfl hstop hqueue
      rw [← hup] at hstep
      exact hstep
  · cases hres
    exact .pings (v := view (.serving sent) publishing k ds) rfl hstop

/-- Whatever the session task does is one step. -/
theorem session_step {r : (p.demand access).Reply} (hm : (p.demand access).Meets r h k)
    (hres : (Uplink.session access).resume p r k #[] = ((.paused q, h'), told)) :
    Step access (view p publishing h ds)
      (view q publishing h' (ds ++ deeds access p r told q)) := by
  cases p with
  | idle => exact idle_step hm hres
  | serving sent => exact serving_step hm hres
  | closing =>
    obtain rfl : k = h := hm
    cases r with
    | error e => exact closing_step #[.disconnectFault e] rfl hres
    | ok _ => exact closing_step #[] rfl hres
  | resolving =>
    obtain rfl : k = h := hm
    cases r with
    | error e => exact finish_step _ nofun rfl nofun hres
    | ok addresses =>
      cases addresses with
      | nil => exact finish_step _ nofun rfl (fun _ => rfl) hres
      | cons address rest =>
        cases hres
        exact .opens (v := view .resolving publishing k ds) trivial trivial rfl rfl
  | connecting address =>
    obtain rfl : k = h := hm
    cases r with
    | error e => exact finish_step _ nofun rfl nofun hres
    | ok _ =>
      cases hres
      exact .opens (v := view (.connecting address) publishing k ds) trivial trivial rfl rfl
  | opening =>
    obtain rfl : k = h := hm
    cases r with
    | error e => exact finish_step _ nofun rfl nofun hres
    | ok _ =>
      cases hres
      have hup := Connectivity.has_raise_self Flags.single_brokerUp k.net
      have hview : view (.serving 0) publishing { k with net := k.net.raise .brokerUp }
            (ds ++ [.answered (.openSession access) true, .reported .connected]) =
          { view .opening publishing k ds with
            phase := .serving 0, up := true
            deeds := ds ++ [.answered (.openSession access) true, .reported .connected] } := by
        simp only [view, hup]
      exact hview ▸ .connects (v := view .opening publishing k ds) rfl
  | sending sent topic payload =>
    obtain rfl : k = h := hm
    cases r with
    | error e => exact finish_step _ nofun rfl nofun hres
    | ok _ =>
      cases hres
      exact .sent (v := view (.sending sent topic payload) publishing k ds) rfl
  | pinging sent =>
    obtain rfl : k = h := hm
    cases r with
    | error e => exact finish_step _ nofun rfl nofun hres
    | ok _ =>
      cases hres
      exact .pinged (v := view (.pinging sent) publishing k ds) rfl

end

/-! ### The link -/

theorem view_dispatch (p : Phase) (publishing : Bool) (e : LinkEvent) (h : Hub Desk)
    (ds : List Deed) (js : Array Notice) :
    view p publishing (dispatch e h js).1.2 ds = view p publishing h ds := by
  rw [dispatch_apply]
  simp only [view, e.has_brokerUp_after]

theorem view_cooledDown (p : Phase) (publishing : Bool) (h : Hub Desk) (ds : List Deed)
    (js : Array Notice) :
    view p publishing (Link.cooledDown h js).1.2 ds = view p publishing h ds := by
  rw [Link.cooledDown_apply]
  split <;> rfl

/-! ### Every move -/

namespace Recorded

variable {cfg : PublisherConfig} {access : BrokerAccess} {s t : Recorded}

/-- The publisher is in a cycle that publishes. -/
def publishing (s : Recorded) : Bool :=
  match s.publisher with
  | some (.copying ..) => true
  | _ => false

def view (s : Recorded) : View := Uplink.view s.session s.publishing s.hub s.deeds

theorem steps_of_publisher {v : View} {p : Phase} {w : Publisher.Waiting}
    {site : Publisher.Site Chronicle}
    (h : Publisher.Holds (α := Empty) (fun s => Steps access v (Chronicle.view p false s.2))
      (fun s => Steps access v (Chronicle.view p true s.2)) (.paused w) site) :
    Steps access v (view ⟨site, some w, p⟩) := by
  cases w <;> exact h

theorem holds_view {w : Publisher.Waiting} (hp : s.publisher = some w) :
    Publisher.Holds (α := Empty)
      (fun site => Steps access s.view (Chronicle.view s.session false site.2))
      (fun site => Steps access s.view (Chronicle.view s.session true site.2))
      (.paused w) s.site := by
  obtain ⟨site, publisher, p⟩ := s
  subst hp
  cases w <;> exact .refl

/-- Every move is done in steps. -/
theorem move_steps (hm : Move cfg access s t) : Steps access s.view t.view := by
  cases hm with
  | publisherBegins js hp hstart =>
    have hbefore : s.view = Chronicle.view s.session false s.site.2 := by
      simp only [view, publishing, hp]
      rfl
    have hcalm : Steps access s.view (Chronicle.view s.session false s.site.2) :=
      hbefore ▸ .refl
    have hholds := (Chronicle.publisher_keeps access s.view s.session).run_start cfg hcalm js
    rw [hstart] at hholds
    exact steps_of_publisher hholds
  | publisherGoesOn r js hp hresume =>
    have hholds := (Chronicle.publisher_keeps access s.view s.session).run_resume cfg
      (holds_view hp) r js
    rw [hresume] at hholds
    exact steps_of_publisher hholds
  | sessionGoesOn r hmeets hresume => exact .single (session_step hmeets hresume)
  | linkReports e js =>
    have hview := view_dispatch s.session s.publishing e s.hub s.deeds js
    exact (congrArg (Steps access s.view) hview).mpr .refl
  | linkCooledDown js =>
    have hview := view_cooledDown s.session s.publishing s.hub s.deeds js
    exact (congrArg (Steps access s.view) hview).mpr .refl
  | aside store changed join listening => exact .refl

/-- What holds of the view at first and survives each step holds of every reachable state. -/
theorem Reachable.holds {P : View → Prop} (first : P ⟨.idle, false, [], false, false, []⟩)
    (step : ∀ {v w : View}, Step access v w → P v → P w) (h : Reachable cfg access s) :
    P s.view := by
  induction h with
  | powerOn maxRetries =>
    have hdown : (Connectivity.ofMaxRetries maxRetries).has .brokerUp = false :=
      Flags.contains_none Flags.single_brokerUp
    change P ⟨.idle, false, [], false, (Connectivity.ofMaxRetries maxRetries).has .brokerUp, []⟩
    rwa [hdown]
  | move _ hm ih =>
    have hsteps {v w : View} (h : Steps access v w) (hv : P v) : P w := by
      induction h with
      | refl => exact hv
      | tail _ hstep ih => exact step hstep ih
    exact hsteps (move_steps hm) ih

end Recorded

end AirStation.Uplink
