import AirStation.Proofs.Uplink.Messages

/-! A request to stop always lands, and on the session it was meant for. The publisher asks
for a stop only where a session is connected. From then on the session task ends the call at
hand and, if that did not end the session, closes it; whatever is queued, it begins neither to
send nor to ping any more. The request is a latch that a standing session looks at before the
queue; it is cleared where it is obeyed and where the next session is begun, so each session
that is closed was asked to stop while it was connected. -/

namespace AirStation.Uplink

open Session

/-! ### The session task's own deeds -/

def Deed.isOwn : Deed → Bool
  | .start | .stop | .queued .. => false
  | .begun | .called _ | .answered .. | .reported _ => true

/-- What the session task has done. -/
def own (ds : List Deed) : List Deed := ds.filter Deed.isOwn

/-- The call that is under way once one deed more is done. -/
def Deed.pend : Option Request → Deed → Option Request
  | call, .start | call, .stop | call, .queued .. => call
  | _, .called r => some r
  | _, .begun | _, .answered .. | _, .reported _ => none

/-- The call that the session task has made last, if nothing has come of it yet. -/
def underWay (ds : List Deed) : Option Request := ds.foldl Deed.pend none

/-- What the session task does after it was asked to stop, from a call or from none: it closes
the session, once the call has come back, unless the call failed and with it the session. -/
inductive Closing : Option Request → List Deed → Prop where
  | close {rest : List Deed} : Closing (some .closeSession) rest →
      Closing none (.called .closeSession :: rest)
  | closed (ok : Bool) :
      Closing (some .closeSession) [.answered .closeSession ok, .reported .disconnected]
  | sent {topic : String} {payload : Bytes} {id : UInt16} {rest : List Deed} :
      Closing none rest → Closing (some (.send topic payload))
        (.answered (.send topic payload) true :: .reported (.published id) :: rest)
  | pinged {rest : List Deed} : Closing none rest →
      Closing (some .ping) (.answered .ping true :: rest)
  | failed {r : Request} : r ≠ .closeSession →
      Closing (some r) [.answered r false, .reported .error, .reported .disconnected]

theorem own_append (ds es : List Deed) : own (ds ++ es) = own ds ++ own es :=
  List.filter_append ..

/-- Whatever call is under way, there is an end to it. -/
theorem Closing.exists_course (call : Option Request) : ∃ course, Closing call course := by
  have hclosed := Closing.closed true
  cases call with
  | none => exact ⟨_, .close hclosed⟩
  | some r =>
    by_cases hr : r = .closeSession
    · exact ⟨_, hr ▸ hclosed⟩
    · exact ⟨_, .failed hr⟩

/-- The session task's last call is the one that it waits for. -/
def Calls (access : BrokerAccess) (v : View) : Prop :=
  underWay v.deeds = (v.phase.demand access).call?

theorem underWay_append (ds es : List Deed) :
    underWay (ds ++ es) = es.foldl Deed.pend (underWay ds) := List.foldl_append

theorem Calls.step {access : BrokerAccess} {v w : View} (h : Calls access v)
    (hstep : Step access v w) : Calls access w := by
  unfold Calls at h ⊢
  cases hstep with
  | begins | ends | drops => exact h
  | queues | starts | stops => exact (underWay_append _ _).trans h
  | begun _ _ _ hr | opens _ _ _ hr => exact (underWay_append _ _).trans hr.symm
  | connects | fails | obeys | sends | pings | sent | pinged | closes => exact underWay_append _ _
  | reports hphase =>
    rw [hphase]
    exact underWay_append _ _

/-! ### From the request to the end of the session -/

/-- A session that is to be closed or is being closed. -/
def View.Stopping (v : View) : Prop := (v.phase.Stands ∧ v.stop = true) ∨ v.phase = .closing

namespace View.Stopping

variable {v : View}

theorem not_opens (h : v.Stopping) : ¬ v.phase.Opens := by
  rcases h with ⟨hs, -⟩ | hc
  · generalize v.phase = p at hs ⊢
    cases p <;> cases hs <;> exact id
  · rw [hc]
    exact id

theorem not_idle (h : v.Stopping) : v.phase ≠ .idle := by
  intro hidle
  rcases h with ⟨hs, -⟩ | hc
  · rw [hidle] at hs
    exact hs
  · rw [hidle] at hc
    cases hc

theorem stop (h : v.Stopping) (hp : v.phase ≠ .closing) : v.stop = true :=
  (h.resolve_right hp).2

theorem ne_closeSession {access : BrokerAccess} {r : Request} (h : v.Stopping)
    (hp : v.phase ≠ .closing) (hr : (v.phase.demand access).call? = some r) :
    r ≠ .closeSession := by
  have hs := (h.resolve_right hp).1
  generalize v.phase = p at hs hr
  cases p <;> cases hs <;> cases hr <;> nofun

end View.Stopping

/-- The session goes on towards its end, or there it is. -/
theorem Step.stopping {access : BrokerAccess} {v w : View} (h : Step access v w)
    (hv : v.Stopping) : ∃ es, w.deeds = v.deeds ++ es ∧
      ((w.Stopping ∧ ∀ rest, Closing (w.phase.demand access).call? rest →
          Closing (v.phase.demand access).call? (own es ++ rest)) ∨
        Closing (v.phase.demand access).call? (own es)) := by
  cases h with
  | begins | ends => exact ⟨[], (List.append_nil _).symm, .inl ⟨hv, fun _ => id⟩⟩
  | queues | starts => exact ⟨_, rfl, .inl ⟨hv, fun _ => id⟩⟩
  | stops => exact ⟨_, rfl, .inl ⟨hv.imp_left fun h => ⟨h.1, rfl⟩, fun _ => id⟩⟩
  | begun hphase | drops hphase => exact absurd hphase hv.not_idle
  | opens hp => exact absurd hp hv.not_opens
  | connects hphase => exact absurd (by rw [hphase]; trivial) hv.not_opens
  | @fails r ok hphase hr hok =>
    cases ok with
    | true => exact absurd (by rw [hok rfl]; trivial) hv.not_opens
    | false =>
      refine ⟨_, rfl, .inr ?_⟩
      rw [hr]
      exact .failed (hv.ne_closeSession hphase hr)
  | obeys hphase =>
    refine ⟨_, rfl, .inl ⟨.inr rfl, fun rest hrest => ?_⟩⟩
    rw [hphase]
    exact .close hrest
  | sends hphase hstop | reports hphase hstop | pings hphase hstop =>
    exact absurd (hv.stop (by simp [hphase])) (by simp [hstop])
  | sent hphase =>
    refine ⟨_, rfl, .inl ⟨.inl ⟨trivial, hv.stop (by simp [hphase])⟩, fun rest hrest => ?_⟩⟩
    rw [hphase]
    exact .sent hrest
  | pinged hphase =>
    refine ⟨_, rfl, .inl ⟨.inl ⟨trivial, hv.stop (by simp [hphase])⟩, fun rest hrest => ?_⟩⟩
    rw [hphase]
    exact .pinged hrest
  | closes ok hphase =>
    refine ⟨_, rfl, .inr ?_⟩
    rw [hphase]
    exact .closed ok

/-- How often the session task goes on until a session that was asked to stop is over. -/
def Session.Phase.left : Phase → Nat
  | .sending .. | .pinging _ => 3
  | .serving _ => 2
  | .closing => 1
  | .idle | .resolving | .connecting _ | .opening => 0

theorem Session.Phase.left_le (p : Phase) : p.left ≤ 3 := by
  cases p <;> simp [left]

theorem finish_left {cause : Option SessionError} {h h' : Hub Desk} {js told : Array Notice}
    {q : Phase} (hres : finish cause h js = ((.paused q, h'), told)) : q.left = 0 := by
  obtain ⟨net, -, hstate, -⟩ := finish_apply cause h js
  rw [hres] at hstate
  cases hstate
  rfl

/-- Each time it is nearer to the end. -/
theorem left_lt {access : BrokerAccess} {p q : Phase} {h k h' : Hub Desk} {told : Array Notice}
    {publishing : Bool} {ds : List Deed} (hv : (view p publishing h ds).Stopping)
    {r : (p.demand access).Reply} (hm : (p.demand access).Meets r h k)
    (hres : (Uplink.session access).resume p r k #[] = ((.paused q, h'), told)) :
    q.left < p.left := by
  have hover {n : Nat} (hn : 0 < n) (cause : Option SessionError) (js : Array Notice)
      (hfin : finish cause k js = ((.paused q, h'), told)) : q.left < n := by
    rwa [finish_left hfin]
  cases p with
  | idle => exact absurd rfl hv.not_idle
  | resolving | connecting | opening => exact absurd trivial hv.not_opens
  | serving sent =>
    have hstop : h.desk.stopRequested = true := hv.stop nofun
    obtain ⟨rfl, rfl⟩ := (meets_turn_iff_stop hstop).1 hm
    cases hres
    exact Nat.lt_succ_self 1
  | sending | pinging =>
    cases r with
    | error e => exact hover (Nat.succ_pos 2) (some (.mqtt e)) #[] hres
    | ok _ =>
      cases hres
      exact Nat.lt_succ_self 2
  | closing =>
    cases r with
    | error e => exact hover Nat.one_pos none #[.disconnectFault e] hres
    | ok _ => exact hover Nat.one_pos none #[] hres

/-- How far the session is that a request to stop is for, by what was done since then. -/
inductive Asked (access : BrokerAccess) (v : View) (pre post : List Deed) : Prop where
  | stopping : v.Stopping → (∀ rest, Closing (v.phase.demand access).call? rest →
      Closing (underWay pre) (own post ++ rest)) → Asked access v pre post
  | ended {course : List Deed} : Closing (underWay pre) course → course <+: own post →
      Asked access v pre post

theorem Asked.step {access : BrokerAccess} {v w : View} {pre post : List Deed}
    (h : Asked access v pre post) (hstep : Step access v w) :
    ∃ es, w.deeds = v.deeds ++ es ∧ Asked access w pre (post ++ es) := by
  cases h with
  | stopping hv hcourse =>
    obtain ⟨es, hes, ⟨hw, hgo⟩ | hend⟩ := hstep.stopping hv
    · refine ⟨es, hes, .stopping hw fun rest hrest => ?_⟩
      rw [own_append, List.append_assoc]
      exact hcourse _ (hgo rest hrest)
    · exact ⟨es, hes, .ended (hcourse _ hend) (own_append post es ▸ List.prefix_refl _)⟩
  | ended hcourse hover =>
    obtain ⟨es, hes, -⟩ := hstep.enters
    refine ⟨es, hes, .ended hcourse ?_⟩
    rw [own_append]
    exact hover.trans (List.prefix_append _ _)

/-- Each request to stop, with what was done before it and since. -/
def Stops (access : BrokerAccess) (v : View) : Prop :=
  ∀ pre post, v.deeds = pre ++ .stop :: post → Asked access v pre post

theorem Step.of_stop {access : BrokerAccess} {v w : View} (h : Step access v w)
    {es : List Deed} (hes : w.deeds = v.deeds ++ es) (hin : .stop ∈ es) :
    es = [.stop] ∧ v.up = true ∧ w.phase = v.phase ∧ w.stop = true := by
  cases h with
  | stops _ hup => exact ⟨(List.append_cancel_left hes).symm, hup, rfl, rfl⟩
  | begins | ends | drops =>
    obtain rfl := List.self_eq_append_right.1 hes
    cases hin
  | _ =>
    rw [← List.append_cancel_left hes] at hin
    simp at hin

theorem Stops.step {access : BrokerAccess} {v w : View} (h : Stops access v) (ho : Orderly v)
    (hc : Calls access v) (hstep : Step access v w) : Stops access w := by
  intro pre post heq
  obtain ⟨es, hes, -⟩ := hstep.enters
  rw [hes] at heq
  rcases split_append heq with ⟨later, hds, rfl⟩ | ⟨earlier, rfl, hin⟩
  · obtain ⟨es', hes', hasked⟩ := (h pre later hds).step hstep
    rwa [List.append_cancel_left (hes.symm.trans hes')] at *
  · have hmem : .stop ∈ es := hin ▸ List.mem_append_right _ (.head _)
    obtain ⟨rfl, hup, hphase, hstop⟩ := hstep.of_stop hes hmem
    obtain ⟨rfl, -, rfl⟩ := split_singleton hin
    have hw : w.Stopping := .inl ⟨hphase ▸ ho.stands_of_up hup, hstop⟩
    refine .stopping hw fun rest hrest => ?_
    rw [List.append_nil, hc, ← hphase]
    exact hrest

/-! ### Every chronicle -/

/-- What there is to say about one request to stop, by what was done before it and since. -/
structure StopLands (access : BrokerAccess) (s : Recorded) (pre post : List Deed) : Prop where
  /-- A session is connected when the request is made. -/
  connected : ∃ during, served pre = some during
  /-- From the call then under way the session task comes to the end of the session, and on
  the way there begins neither to send nor to ping. -/
  course : ∃ course, Closing (underWay pre) course ∧ (own post <+: course ∨ course <+: own post)
  /-- Until then it waits only for a call to come back: else the request is what it gets,
  whatever is queued. -/
  next : (∀ course, Closing (underWay pre) course → ¬ course <+: own post) →
    (∃ r, s.session.demand access = .call r) ∨ ∃ sent, s.session = .serving sent ∧
      ∀ t h, (Demand.turn (pingPause access)).Meets t s.hub h ↔
        t = .stop ∧ h = { s.hub with desk.stopRequested := false }
  /-- And each time it goes on, three times at most, it is nearer to the end. -/
  nearer : (∀ course, Closing (underWay pre) course → ¬ course <+: own post) →
    s.session.left ≤ 3 ∧ ∀ r h q h' told, (s.session.demand access).Meets r s.hub h →
      (Uplink.session access).resume s.session r h #[] = ((.paused q, h'), told) →
        q.left < s.session.left

namespace Recorded

variable {cfg : PublisherConfig} {access : BrokerAccess} {s : Recorded} {pre post : List Deed}

theorem Reachable.stops (h : Reachable cfg access s) : Stops access s.view :=
  (h.holds (P := fun v => Orderly v ∧ Calls access v ∧ Stops access v)
    ⟨⟨rfl, trivial, nofun, rfl⟩, rfl, fun pre post heq => absurd heq (by simp)⟩
    fun hstep ⟨ho, hc, hs⟩ => ⟨ho.step hstep, hc.step hstep, hs.step ho hc hstep⟩).2.2

theorem demand_of_stopping (hv : s.view.Stopping) :
    (∃ r, s.session.demand access = .call r) ∨ ∃ sent, s.session = .serving sent ∧
      ∀ t h, (Demand.turn (pingPause access)).Meets t s.hub h ↔
        t = .stop ∧ h = { s.hub with desk.stopRequested := false } := by
  cases hp : s.session with
  | idle => exact absurd hp hv.not_idle
  | serving sent =>
    have hstop : s.hub.desk.stopRequested = true := hv.stop (by simp [view, Uplink.view, hp])
    exact .inr ⟨sent, rfl, fun t h => meets_turn_iff_stop hstop⟩
  | _ => exact .inl ⟨_, rfl⟩

theorem stopLands_of_asked (hasked : Asked access s.view pre post)
    (hconnected : ∃ during, served pre = some during) : StopLands access s pre post := by
  cases hasked with
  | stopping hv hcourse =>
    obtain ⟨rest, hrest⟩ := Closing.exists_course (s.session.demand access).call?
    exact {
      connected := hconnected
      course := ⟨_, hcourse rest hrest, .inl (List.prefix_append _ _)⟩
      next := fun _ => demand_of_stopping hv
      nearer := fun _ => ⟨s.session.left_le, fun r h q h' told hm hres => left_lt hv hm hres⟩ }
  | ended hcourse hover =>
    exact {
      connected := hconnected
      course := ⟨_, hcourse, .inr hover⟩
      next := fun hnot => absurd hover (hnot _ hcourse)
      nearer := fun hnot => absurd hover (hnot _ hcourse) }

/-- A request to stop is made while a session is connected, and that session comes to its end
as a stopped session does; and a session that is closed was asked to stop since it reported
that it is connected. -/
theorem stop_lands (h : Reachable cfg access s) :
    (∀ pre post, s.deeds = pre ++ .stop :: post → StopLands access s pre post) ∧
      ∀ pre post, s.deeds = pre ++ .called .closeSession :: post →
        ∃ before during, pre = before ++ .reported .connected :: during ∧
          served before = none ∧ (∀ d ∈ during, ¬ d.Bounds) ∧ .stop ∈ during := by
  have halways := h.always (P := fun pre d =>
      (d = .stop → ∃ during, served pre = some during) ∧
        (d = .called .closeSession → ∃ during, served pre = some during ∧ .stop ∈ during))
    (fun hplain => ?_) (fun ho hallows => ?_)
  · constructor
    · intro pre post heq
      exact stopLands_of_asked (h.stops pre post heq) ((halways pre _ post heq).1 rfl)
    · intro pre post heq
      obtain ⟨during, hserved, hin⟩ := (halways pre _ post heq).2 rfl
      obtain ⟨before, hpre, hnone, hbounds⟩ := served_eq_some_iff.1 hserved
      exact ⟨before, during, hpre, hnone, hbounds, hin⟩
  · constructor <;> rintro rfl <;> exact hplain.elim
  · constructor
    · rintro rfl
      obtain ⟨l, hl⟩ := (Orderly.of_stands (ho.stands_of_up hallows)).1 ho
      exact ⟨l, hl.served⟩
    · rintro rfl
      obtain ⟨l, hl⟩ := (Orderly.of_stands hallows.1).1 ho
      exact ⟨l, hl.served, hl.meant hallows.2⟩

/-- What it takes to stop the session that is connected. -/
def stopped : List Deed :=
  [.called .closeSession, .answered .closeSession true, .reported .disconnected]

/-- The link was lost and the publisher has asked for a stop; the session task is at some point
since then. -/
def lost (p : Phase) (stop : Bool) (ds : List Deed) : Recorded where
  site := ({}, ⟨⟨.none, true, (RetryBudget.ofMax 3).consume⟩, .empty,
    ⟨{ stopRequested := stop, joinRequested := true }, opened ++ .stop :: ds⟩⟩)
  publisher := some .flags
  session := p

theorem reachable_stopped : Reachable {} {} (lost .idle false stopped) := by
  have hlost := reachable_connected.move (.linkReports .disconnected #[])
  have hasked : Reachable {} {} (lost (.serving 0) true []) := hlost.move
    (.publisherGoesOn (v := .flags) (.ready () : Timed Unit) #[] rfl rfl)
  have hclosing := hasked.sessionGoesOn (q := .closing) (.stop : Turn) (.inl ⟨#[], rfl⟩) rfl
  exact hclosing.sessionGoesOn (q := .idle) (.ok () : Except ApiFault Unit) rfl rfl

theorem stop_lands_lost :
    Reachable {} {} (lost .idle false stopped) ∧
      StopLands {} (lost .idle false stopped) opened stopped :=
  ⟨reachable_stopped, (stop_lands reachable_stopped).1 _ _ rfl⟩

end Recorded

end AirStation.Uplink
