import AirStation.Proofs.Uplink.System

/-! The session counts as up only while it is. If the flag is set then the session task
serves a session that the broker accepted, has not begun to close it, and no request to
stop it is outstanding. The flag goes up in two places only, both of the session task and
both where no stop is outstanding, and asking for a stop takes it down at once. -/

namespace AirStation.Uplink

open Session

/-! ### Two facts about the hub -/

/-- The session counts as up. -/
def Up (h : Hub Desk) : Bool := h.net.has .brokerUp

/-- Both facts are as they were. -/
structure Same (h h' : Hub Desk) : Prop where
  up : Up h' = Up h
  stop : h'.desk.stopRequested = h.desk.stopRequested

/-- Both facts are as they were, or the session no longer counts as up. -/
def Yields (h h' : Hub Desk) : Prop :=
  Same h h' ∨ (Up h = true ∧ Up h' = false)

namespace Same

theorem refl (h : Hub Desk) : Same h h := ⟨rfl, rfl⟩

theorem trans {h₁ h₂ h₃ : Hub Desk} (h : Same h₁ h₂) (h' : Same h₂ h₃) : Same h₁ h₃ :=
  ⟨h'.up.trans h.up, h'.stop.trans h.stop⟩

end Same

theorem Yields.trans {h₁ h₂ h₃ : Hub Desk} (h : Yields h₁ h₂) (h' : Yields h₂ h₃) :
    Yields h₁ h₃ := by
  rcases h with h | ⟨hup, hdown⟩
  · rcases h' with h' | ⟨hup, hdown⟩
    · exact .inl (h.trans h')
    · exact .inr ⟨h.up ▸ hup, hdown⟩
  · rcases h' with h' | ⟨hup', -⟩
    · exact .inr ⟨hup, h'.up.trans hdown⟩
    · exact absurd hup' (by simp [hdown])

/-! ### The publisher -/

theorem offer_same (c : Command) (h : Hub Desk) (js : Array Notice) :
    Same h (Desk.offer c h js).1.2 := by
  simp only [Desk.offer, Act.bind_apply, Act.get_apply]
  cases h.desk.queue.offer c with
  | none => exact .refl h
  | some q => exact ⟨rfl, rfl⟩

theorem start_same (h : Hub Desk) (js : Array Notice) : Same h (start h js).1.2 := by
  have hoffer := offer_same .start h js
  simp only [start, Act.bind_apply]
  cases (Desk.offer .start h js).1.1 with
  | ok => exact hoffer
  | error e => exact hoffer

theorem publish_same (topic : String) (payload : Bytes) (h : Hub Desk) (js : Array Notice) :
    Same h (publish topic payload h js).1.2 := by
  unfold publish
  split
  · exact .refl h
  · exact offer_same _ h js

/-- Whatever the publisher does, it leaves both facts alone or takes the flag down. -/
theorem publisher_yields :
    Publisher.Admits broker fun s t : Publisher.Site Desk => Yields s.2 t.2 where
  refl s := .inl (.refl s.2)
  trans h h' := h.trans h'
  publishes h := by
    cases h with
    | aside watches store => exact .inl ⟨rfl, rfl⟩
    | publish topic payload js => exact .inl (publish_same topic payload _ js)
  settles seen s := by
    refine .inl ⟨Publisher.has_brokerUp_settled seen s, ?_⟩
    unfold Publisher.settled
    split <;> rfl
  stops s js hup := by
    exact .inr ⟨hup, Connectivity.has_lower_self Flags.single_brokerUp _⟩
  starts s js _ := .inl (start_same s.2 js)

/-! ### The link -/

theorem dispatch_same (e : LinkEvent) (h : Hub Desk) (js : Array Notice) :
    Same h (dispatch e h js).1.2 := by
  rw [dispatch_apply]
  exact ⟨e.has_brokerUp_after h.net, rfl⟩

theorem cooledDown_same (h : Hub Desk) (js : Array Notice) :
    Same h (Link.cooledDown h js).1.2 := by
  rw [Link.cooledDown_apply]
  split <;> exact ⟨rfl, rfl⟩

/-! ### The session -/

theorem up_report (e : BrokerEvent) (h : Hub Desk) (js : Array Notice) :
    Up (report e h js).1.2 = (e.after h.net).has .brokerUp := by
  simp [Up, report, Hub.netPart, e.onBroker_state]

theorem up_report_disconnected (h : Hub Desk) (js : Array Notice) :
    Up (report .disconnected h js).1.2 = false := by
  rw [up_report]
  exact Connectivity.has_lower_self Flags.single_brokerUp _

/-- However a session ends, it no longer counts as up. -/
theorem finish_down (cause : Option SessionError) (h : Hub Desk) (js : Array Notice) :
    ∃ h', (finish cause h js).1 = (.paused .idle, h') ∧ Up h' = false := by
  cases cause with
  | none => exact ⟨_, rfl, up_report_disconnected h js⟩
  | some e =>
    refine ⟨_, rfl, ?_⟩
    exact up_report_disconnected (report .error h (js.push (.sessionEnded e))).1.2 js

/-- A standing session stops just if it is asked to. -/
theorem meets_turn {limit : Millis} {t : Turn} {h h' : Hub Desk}
    (hm : (Demand.turn limit).Meets t h h') :
    (t = .stop ∧ h.desk.stopRequested = true ∧ Up h' = Up h) ∨
      (t ≠ .stop ∧ h.desk.stopRequested = false ∧ Same h h') := by
  rcases meets_turn_cases hm with ⟨hs, rfl, rfl⟩ | ⟨hs, ⟨c, queue, rfl, -, rfl⟩ | ⟨rfl, rfl⟩⟩
  · exact .inl ⟨rfl, hs, rfl⟩
  · exact .inr ⟨nofun, hs, rfl, rfl⟩
  · exact .inr ⟨nofun, hs, .refl _⟩

/-! ### The invariant -/

/-- What holds between the session task, the hub and the calls of the session at hand. -/
structure Truthful (access : BrokerAccess) (p : Phase) (h : Hub Desk)
    (calls : List (Request × Bool)) : Prop where
  up : Up h = true → p.Stands ∧ h.desk.stopRequested = false
  opens : p.Opens → h.desk.stopRequested = false
  opened : p.Stands ∨ p = .closing → (.openSession access, true) ∈ calls
  unclosed : p ≠ .idle → ∀ ok, (.closeSession, ok) ∉ calls

namespace Truthful

variable {access : BrokerAccess} {p q : Phase} {h h' : Hub Desk} {calls : List (Request × Bool)}

theorem same (ht : Truthful access p h calls) (hs : Same h h') : Truthful access p h' calls where
  up hup := by
    rw [hs.stop]
    exact ht.up (hs.up ▸ hup)
  opens hp := hs.stop.trans (ht.opens hp)
  opened := ht.opened
  unclosed := ht.unclosed

theorem yields (ht : Truthful access p h calls) (hy : Yields h h') :
    Truthful access p h' calls := by
  rcases hy with hs | ⟨hup, hdown⟩
  · exact ht.same hs
  · have hstands := (ht.up hup).1
    exact {
      up := fun h => absurd h (by simp [hdown])
      opens := fun ho => by cases p <;> cases ho <;> cases hstands
      opened := ht.opened
      unclosed := ht.unclosed }

theorem idle (hdown : Up h = false) : Truthful access .idle h calls where
  up hup := absurd hup (by simp [hdown])
  opens := nofun
  opened := nofun
  unclosed h := absurd rfl h

theorem opening (hdown : Up h = false) (hq : q.Opens) (hstop : h.desk.stopRequested = false)
    (hcalls : ∀ ok, (.closeSession, ok) ∉ calls) : Truthful access q h calls where
  up hup := absurd hup (by simp [hdown])
  opens _ := hstop
  opened hs := by cases q <;> cases hq <;> simp [Phase.Stands] at hs
  unclosed _ := hcalls

theorem standing (hq : q.Stands) (hup : Up h = true → h.desk.stopRequested = false)
    (hopen : (.openSession access, true) ∈ calls)
    (hcalls : ∀ ok, (.closeSession, ok) ∉ calls) : Truthful access q h calls where
  up h := ⟨hq, hup h⟩
  opens ho := by cases q <;> cases hq <;> cases ho
  opened _ := hopen
  unclosed _ := hcalls

theorem down (ht : Truthful access p h calls) (hp : ¬ p.Stands) : Up h = false := by
  rw [← Bool.not_eq_true]
  intro hup
  exact hp (ht.up hup).1

theorem unclosed_append (ht : Truthful access p h calls) (hp : p ≠ .idle) {r : Request}
    (hr : r ≠ .closeSession) (ok : Bool) : ∀ ok', (.closeSession, ok') ∉ calls ++ [(r, ok)] := by
  intro ok' hin
  rcases List.mem_append.1 hin with hin | hin
  · exact ht.unclosed hp ok' hin
  · have heq := List.mem_singleton.1 hin
    exact hr (congrArg Prod.fst heq).symm

/-- A session that is being opened has come one call further. -/
theorem opens_further (ht : Truthful access p h calls) (hp : p.Opens) (hq : q.Opens)
    {r : Request} (hr : r ≠ .closeSession) (ok : Bool) :
    Truthful access q h (calls ++ [(r, ok)]) := by
  have hdown : Up h = false := ht.down (by cases p <;> cases hp <;> simp [Phase.Stands])
  have hidle : p ≠ .idle := by
    rintro rfl
    exact hp
  exact opening hdown hq (ht.opens hp) (ht.unclosed_append hidle hr ok)

/-- A session that stands still does after a call. -/
theorem stands_further (ht : Truthful access p h calls) (hp : p.Stands) (hq : q.Stands)
    {r : Request} (hr : r ≠ .closeSession) (ok : Bool) :
    Truthful access q h (calls ++ [(r, ok)]) := by
  have hidle : p ≠ .idle := by
    rintro rfl
    exact hp
  exact standing hq (fun hup => (ht.up hup).2) (List.mem_append_left _ (ht.opened (.inl hp)))
    (ht.unclosed_append hidle hr ok)

/-! ### What the session task does to the invariant, phase by phase -/

variable {js : Array Notice} {k : Hub Desk}

theorem on_finish {cause : Option SessionError}
    (hres : (finish cause k js).1 = (.paused q, h')) : Truthful access q h' calls := by
  obtain ⟨h₂, hfin, hdown⟩ := finish_down cause k js
  rw [hfin] at hres
  cases hres
  exact idle hdown

theorem on_command (ht : Truthful access .idle h calls) {c : Command} (hs : Same h k)
    (hres : (onCommand access c k js).1 = (.paused q, h')) :
    Truthful access q h' (Demand.command.record c calls) := by
  have hdown : Up k = false := hs.up.trans (ht.down id)
  cases c with
  | publish topic payload =>
    cases hres
    exact idle hdown
  | start =>
    simp only [onCommand, Act.bind_apply, locate] at hres
    cases hhost : Ipv4.parse? access.host with
    | some address =>
      rw [hhost] at hres
      cases hres
      exact opening hdown trivial rfl fun _ => List.not_mem_nil
    | none =>
      rw [hhost] at hres
      cases hres
      exact opening hdown trivial rfl fun _ => List.not_mem_nil

theorem on_turn {sent : UInt16} {limit : Millis} {t : Turn}
    (ht : Truthful access (.serving sent) h calls) (hm : (Demand.turn limit).Meets t h k)
    (hres : (onTurn sent t k js).1 = (.paused q, h')) : Truthful access q h' calls := by
  have hopen := ht.opened (.inl trivial)
  have hcalls := ht.unclosed nofun
  rcases meets_turn hm with ⟨rfl, hstop, hup⟩ | ⟨ht', hstop, hs⟩
  · -- where a stop is asked for, the session no longer counts as up
    have hdown : Up k = false := by
      rw [hup, ← Bool.not_eq_true]
      intro hup
      rw [(ht.up hup).2] at hstop
      cases hstop
    cases hres
    exact {
      up := fun h => absurd h (by simp [hdown])
      opens := nofun
      opened := fun _ => hopen
      unclosed := fun _ => hcalls }
  · have hquiet : k.desk.stopRequested = false := hs.stop.trans hstop
    cases t with
    | stop => exact absurd rfl ht'
    | pingDue =>
      cases hres
      exact standing trivial (fun _ => hquiet) hopen hcalls
    | command c =>
      cases c with
      | publish topic payload =>
        cases hres
        exact standing trivial (fun _ => hquiet) hopen hcalls
      | start =>
        cases hres
        exact standing trivial (fun _ => hquiet) hopen hcalls

/-- Every step of the session task keeps the invariant. -/
theorem on_resume {r : (p.demand access).Reply} (ht : Truthful access p h calls)
    (hm : (p.demand access).Meets r h k)
    (hres : ((Uplink.session access).resume p r k js).1 = (.paused q, h')) :
    Truthful access q h' ((p.demand access).record r calls) := by
  cases p with
  | idle =>
    obtain ⟨js', hm⟩ := hm
    obtain ⟨queue, -, rfl⟩ := takeCommand_some hm
    have hsame : Same h { h with desk.queue := queue } := ⟨rfl, rfl⟩
    exact ht.on_command hsame hres
  | serving sent => exact ht.on_turn hm hres
  | closing =>
    cases hm
    cases r with
    | error e =>
      change (finish none h (js.push (.disconnectFault e))).1 = (.paused q, h') at hres
      exact on_finish hres
    | ok _ =>
      change (finish none h js).1 = (.paused q, h') at hres
      exact on_finish hres
  | resolving =>
    cases hm
    cases r with
    | error e => exact on_finish hres
    | ok addresses =>
      cases addresses with
      | nil => exact on_finish hres
      | cons address rest =>
        cases hres
        exact ht.opens_further (q := .connecting address) trivial trivial (by simp) _
  | connecting address =>
    cases hm
    cases r with
    | error e => exact on_finish hres
    | ok _ =>
      cases hres
      exact ht.opens_further (q := .opening) trivial trivial (by simp) _
  | opening =>
    cases hm
    cases r with
    | error e => exact on_finish hres
    | ok _ =>
      cases hres
      exact standing trivial (fun _ => ht.opens trivial) (List.mem_append_right _ (.head _))
        (ht.unclosed_append (by simp) (by simp) _)
  | sending sent topic payload =>
    cases hm
    cases r with
    | error e => exact on_finish hres
    | ok _ =>
      cases hres
      exact ht.stands_further (q := .serving (sent + 1)) trivial trivial (by simp) _
  | pinging sent =>
    cases hm
    cases r with
    | error e => exact on_finish hres
    | ok _ =>
      cases hres
      exact ht.stands_further (q := .serving sent) trivial trivial (by simp) _

end Truthful

/-! ### Every reachable state -/

namespace System

variable {cfg : PublisherConfig} {access : BrokerAccess} {s t : System}

theorem move_truthful (ht : Truthful access s.session s.hub s.calls)
    (hm : Move cfg access s t) : Truthful access t.session t.hub t.calls := by
  cases hm with
  | publisherBegins js _ hstart =>
    have hy : Yields s.hub ((Publisher.run cfg broker).start s.site js).1.2.2 :=
      publisher_yields.run_start s.site js
    rw [hstart] at hy
    exact ht.yields hy
  | publisherGoesOn r js _ hresume =>
    have hy := publisher_yields.run_resume _ r s.site js
    rw [hresume] at hy
    exact ht.yields hy
  | sessionGoesOn r js hmeets hresume => exact ht.on_resume hmeets hresume
  | linkReports e js => exact ht.same (dispatch_same e s.hub js)
  | linkCooledDown js => exact ht.same (cooledDown_same s.hub js)
  | aside store changed join listening => exact ht.same ⟨rfl, rfl⟩

theorem reachable_truthful (h : Reachable cfg access s) :
    Truthful access s.session s.hub s.calls := by
  induction h with
  | powerOn maxRetries =>
    have hdown : Flags.none.contains .brokerUp = false := by decide
    exact .idle hdown
  | move _ hm ih => exact move_truthful ih hm

/-- Where the session counts as up, the session task serves a session that was opened and
that it has not begun to close, and no stop is asked for. -/
theorem brokerUp_truthful (h : Reachable cfg access s)
    (hup : s.hub.net.flags.contains .brokerUp = true) :
    s.session.Stands ∧ (.openSession access, true) ∈ s.calls ∧
      (∀ ok, (.closeSession, ok) ∉ s.calls) ∧ s.hub.desk.stopRequested = false := by
  have ht := reachable_truthful h
  obtain ⟨hstands, hstop⟩ := ht.up hup
  have hne : s.session ≠ .idle := by
    intro heq
    rw [heq] at hstands
    exact hstands
  exact ⟨hstands, ht.opened (.inl hstands), ht.unclosed hne, hstop⟩

/-! ### A session comes up -/

/-- An address is there and the publisher has looked at the flags once. -/
def asked : System where
  site := ({}, ⟨⟨.linkUp, true, .ofMax 3⟩, .empty, { queue := ⟨[.start], by decide⟩ }⟩)
  publisher := some .flags
  session := .idle
  calls := []

theorem reachable_asked : Reachable {} {} asked := by
  have hlink : Reachable {} {}
      ((powerOn 3).withHub (dispatch .gotAddress (powerOn 3).hub #[]).1.2) :=
    .move (.powerOn 3) (.linkReports .gotAddress #[])
  have hbegun := Reachable.move hlink (.publisherBegins (w := .flags) #[] rfl rfl)
  exact .move hbegun (.publisherGoesOn (v := .flags) (.expired : Timed Unit) #[] rfl rfl)

/-- The session that was asked for, while it is opened. -/
def opening (p : Phase) (calls : List (Request × Bool)) : System where
  site := ({}, ⟨⟨.linkUp, true, .ofMax 3⟩, .empty, {}⟩)
  publisher := some .flags
  session := p
  calls := calls

/-- The session once the resolver, the socket and the broker have all answered. -/
def served (address : Ipv4) : System where
  site := ({}, ⟨⟨.union .linkUp .brokerUp, true, .ofMax 3⟩, .empty, {}⟩)
  publisher := some .flags
  session := .serving 0
  calls := [(.resolve "", true), (.connect address 1883, true), (.openSession {}, true)]

theorem reachable_served (address : Ipv4) : Reachable {} {} (served address) := by
  have hresolving : Reachable {} {} (opening .resolving []) :=
    .move reachable_asked (.sessionGoesOn (s := asked) Command.start #[] ⟨#[], rfl⟩ rfl)
  have hconnecting : Reachable {} {} (opening (.connecting address) [(.resolve "", true)]) :=
    .move hresolving (.sessionGoesOn (s := opening .resolving [])
      (.ok [address] : Except ApiFault (List Ipv4)) #[] rfl rfl)
  have hopening : Reachable {} {}
      (opening .opening [(.resolve "", true), (.connect address 1883, true)]) :=
    .move hconnecting (.sessionGoesOn (s := opening (.connecting address) _)
      (.ok () : Except ApiFault Unit) #[] rfl rfl)
  exact .move hopening (.sessionGoesOn (s := opening .opening _)
    (.ok () : Except ApiFault Unit) #[] rfl rfl)

theorem brokerUp_truthful_served :
    Reachable {} {} (served ⟨10, 0, 0, 1⟩) ∧
      (served ⟨10, 0, 0, 1⟩).hub.net.flags.contains .brokerUp = true ∧
      ((served ⟨10, 0, 0, 1⟩).session.Stands ∧
        (.openSession {}, true) ∈ (served ⟨10, 0, 0, 1⟩).calls ∧
        (∀ ok, (.closeSession, ok) ∉ (served ⟨10, 0, 0, 1⟩).calls) ∧
        (served ⟨10, 0, 0, 1⟩).hub.desk.stopRequested = false) :=
  have hreach := reachable_served ⟨10, 0, 0, 1⟩
  ⟨hreach, by decide, brokerUp_truthful hreach (by decide)⟩

end System

end AirStation.Uplink
