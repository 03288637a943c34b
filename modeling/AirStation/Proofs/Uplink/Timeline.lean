import AirStation.Proofs.Entries
import AirStation.Proofs.Uplink.System

/-! The link task as time goes by. It waits for a call to come back, however long that takes,
or for a request to join, no longer than the cooldown; meanwhile the radio and the address
assignment report what they like, and everything but the request to join may change. A log
keeps the moment of each notice and of each wait that is begun. The board meets the demands of
its link task as the timeline does. -/

namespace AirStation.Uplink.Link

/-- What is logged: a notice, or that the task begins to wait. -/
inductive Mark where
  | told (n : Notice)
  | waits (p : Phase)

abbrev Log := List (Millis × Mark)

def stamp (now : Millis) (told : Array Notice) : Log := told.toList.map fun n => (now, .told n)

/-- The replies that there are for a demand since when it is made, and the hub without what was
taken. A call may come back with anything; a wait is over only where no request is there. -/
def Demand.Meets (now since : Millis) : (d : Demand) → d.Reply → Hub Desk → Hub Desk → Prop
  | .call _, _, h, h' => h' = h
  | .join _, .ready (), h, h' => ∃ js, (Desk.takeJoin h js).1 = (some (), h')
  | .join limit, .expired, h, h' =>
    (∃ js, (Desk.takeJoin h js).1 = (none, h')) ∧ since + max limit 1 ≤ now

structure Timeline where
  now : Millis
  hub : Hub Desk
  /-- What the task waits for; nothing once it is over. -/
  task : Option Phase
  /-- Since when it waits. -/
  since : Millis
  log : Log

namespace Timeline

/-- The task has just begun. -/
def powerOn (policy : LinkPolicy) : Timeline where
  now := 0
  hub := ⟨.ofMaxRetries policy.maxRetries, .empty, {}⟩
  task := some .configuring
  since := 0
  log := [(0, .waits .configuring)]

variable (access : Internet) (policy : LinkPolicy)

/-- Time passes, an event is handled, the task goes on, or something else happens. -/
inductive Move : Timeline → Timeline → Prop where
  | passes {s : Timeline} (length : Millis) : Move s { s with now := s.now + length }
  | reports {s : Timeline} {h : Hub Desk} {told : Array Notice} (e : LinkEvent) :
      dispatch e s.hub #[] = (((), h), told) →
      Move s { s with hub := h, log := s.log ++ stamp s.now told }
  | goesOn {s : Timeline} {p q : Phase} {h h' : Hub Desk} {told : Array Notice}
      (r : (p.demand access policy).Reply) : s.task = some p →
      (p.demand access policy).Meets s.now s.since r s.hub h →
      (link access policy).resume p r h #[] = ((.paused q, h'), told) →
      Move s { s with
        hub := h', task := some q, since := s.now
        log := s.log ++ (stamp s.now told ++ [(s.now, .waits q)]) }
  | ends {s : Timeline} {p : Phase} {h h' : Hub Desk} {told : Array Notice}
      (r : (p.demand access policy).Reply) : s.task = some p →
      (p.demand access policy).Meets s.now s.since r s.hub h →
      (link access policy).resume p r h #[] = ((.done (), h'), told) →
      Move s { s with hub := h', task := none, log := s.log ++ stamp s.now told }
  /-- The other tasks leave the request to join alone. -/
  | aside {s : Timeline} (h : Hub Desk) : h.desk.joinRequested = s.hub.desk.joinRequested →
      Move s { s with hub := h }

inductive Reachable : Timeline → Prop where
  | powerOn : Reachable (powerOn policy)
  | move {s t : Timeline} : Reachable s → Move access policy s t → Reachable t

end Timeline

/-! ### What the task may do -/

variable {access : Internet} {policy : LinkPolicy} {now since : Millis} {p q : Phase}
  {h k h' : Hub Desk} {told : Array Notice}

theorem takeJoin_apply (h : Hub Desk) (js : Array Notice) :
    (Desk.takeJoin h js).1 =
      if h.desk.joinRequested then (some (), { h with desk.joinRequested := false })
      else (none, h) := by
  cases hj : h.desk.joinRequested <;> simp [Desk.takeJoin, hj]

theorem takeJoin_some (hm : ∃ js, (Desk.takeJoin h js).1 = (some (), k)) :
    h.desk.joinRequested = true ∧ k = { h with desk.joinRequested := false } := by
  obtain ⟨js, hm⟩ := hm
  rw [takeJoin_apply] at hm
  cases hj : h.desk.joinRequested with
  | true =>
    rw [if_pos hj] at hm
    exact ⟨rfl, (congrArg Prod.snd hm).symm⟩
  | false =>
    rw [if_neg (by simp [hj])] at hm
    cases hm

theorem takeJoin_none (hm : ∃ js, (Desk.takeJoin h js).1 = (none, k)) :
    h.desk.joinRequested = false ∧ k = h := by
  obtain ⟨js, hm⟩ := hm
  rw [takeJoin_apply] at hm
  cases hj : h.desk.joinRequested with
  | true =>
    rw [if_pos hj] at hm
    cases hm
  | false =>
    rw [if_neg (by simp [hj])] at hm
    exact ⟨rfl, (congrArg Prod.snd hm).symm⟩

/-- The task joins, where that was requested. -/
structure Joins (p q : Phase) (h h' : Hub Desk) (told : Array Notice) : Prop where
  parked : p = .parked
  joining : q = .joining
  requested : h.desk.joinRequested = true
  taken : h'.desk.joinRequested = false
  silent : told = #[]

/-- The task begins anew, where no join was requested in time and the link has failed. -/
structure Rearms (policy : LinkPolicy) (now since : Millis) (p q : Phase) (h h' : Hub Desk)
    (told : Array Notice) : Prop where
  parked : p = .parked
  again : q = .parked
  failed : h.net.snapshot.contains .linkFailed = true
  waited : since + max policy.cooldown 1 ≤ now
  told : told = #[.cooldownOver, .linkRearmed, .linkConnecting]
  retries : h'.net.retries = 1
  requested : h'.desk.joinRequested = true

/-- No notice tells an answer or a fresh sequence. -/
def Aside (told : Array Notice) : Prop := ∀ n ∈ told, n.answer? = none ∧ n ≠ .linkRearmed

theorem Aside.nil : Aside #[] := by simp [Aside]

theorem Aside.singleton {n : Notice} (hn : n.answer? = none) (hne : n ≠ .linkRearmed) :
    Aside #[n] := by simp [Aside, hn, hne]

/-- The task does nothing that has to do with requests. -/
structure Passes (q : Phase) (h h' : Hub Desk) (told : Array Notice) : Prop where
  next : q ≠ .joining
  request : h'.desk.joinRequested = h.desk.joinRequested
  aside : Aside told

theorem goesOn_cases {r : (p.demand access policy).Reply}
    (hm : (p.demand access policy).Meets now since r h k)
    (hres : (link access policy).resume p r k #[] = ((.paused q, h'), told)) :
    Joins p q h h' told ∨ Rearms policy now since p q h h' told ∨ Passes q h h' told := by
  cases p with
  | configuring =>
    obtain rfl : k = h := hm
    rcases r with e | _
    · cases hres
    · cases hres
      exact .inr (.inr ⟨nofun, rfl, .nil⟩)
  | starting =>
    obtain rfl : k = h := hm
    rcases r with e | _
    · cases hres
    · cases hres
      exact .inr (.inr ⟨nofun, rfl, .singleton rfl nofun⟩)
  | joining =>
    obtain rfl : k = h := hm
    rcases r with e | _
    · cases hres
      exact .inr (.inr ⟨nofun, rfl, .singleton rfl nofun⟩)
    · cases hres
      exact .inr (.inr ⟨nofun, rfl, .nil⟩)
  | parked =>
    rcases r with _ | _
    · obtain ⟨hrequested, rfl⟩ := takeJoin_some hm
      cases hres
      exact .inl ⟨rfl, rfl, hrequested, rfl, rfl⟩
    · obtain ⟨-, rfl⟩ := takeJoin_none hm.1
      change (do cooledDown; pure (.paused .parked) : Act (Hub Desk) Step) k #[] = _ at hres
      rw [Act.bind_apply, cooledDown_apply] at hres
      by_cases hf : k.net.snapshot.contains .linkFailed = true
      · rw [if_pos hf] at hres
        cases hres
        exact .inr (.inl ⟨rfl, rfl, hf, hm.2, rfl, rfl, rfl⟩)
      · rw [if_neg hf] at hres
        cases hres
        exact .inr (.inr ⟨nofun, rfl, .nil⟩)

theorem ends_aside {r : (p.demand access policy).Reply}
    (hm : (p.demand access policy).Meets now since r h k)
    (hres : (link access policy).resume p r k #[] = ((.done (), h'), told)) :
    h'.desk.joinRequested = h.desk.joinRequested ∧ Aside told := by
  cases p with
  | configuring | starting =>
    obtain rfl : k = h := hm
    rcases r with e | _
    · cases hres
      exact ⟨rfl, .singleton rfl nofun⟩
    · cases hres
  | joining => rcases r with e | _ <;> cases hres
  | parked => rcases r with _ | _ <;> cases hres

/-! ### The board -/

open Rig

variable {w : Timed.Wait} {n n' : Network} {js : Array Notice}

theorem within_over {σ α : Type} {limit : Nat} {attempt : Act σ (Option α)} {s s' : σ}
    {r : Timed α} (hover : (Timed.within now w limit attempt s js).1 = (.over r, s')) :
    (∃ a, r = .ready a ∧ (attempt s js).1 = (some a, s')) ∨
      (r = .expired ∧ (attempt s js).1 = (none, s') ∧ w.since + max limit 1 ≤ now) := by
  simp only [Timed.within, Act.bind_apply] at hover
  generalize attempt s js = x at hover ⊢
  obtain ⟨⟨o, t⟩, js'⟩ := x
  cases o with
  | some a =>
    cases hover
    exact .inl ⟨a, rfl, rfl⟩
  | none =>
    by_cases hdue : w.isOver now limit = true
    · simp only [Act.pure_apply, Timed.expire, hdue, ↓reduceIte] at hover
      cases hover
      exact .inr ⟨rfl, rfl, of_decide_eq_true hdue⟩
    · simp only [Act.pure_apply, Timed.expire, hdue] at hover
      cases hover

/-- A hub as it was, or with the report of a radio that has started. -/
def Started (h h' : Hub Desk) : Prop := h' = h ∨ ∃ js, h' = (dispatch .starting h js).1.2

theorem radioStarted_started (h : Hub Desk) (js : Array Notice) :
    Started h (radioStarted h js).1.2 := by
  cases hlisten : h.desk.listening with
  | true =>
    simp only [radioStarted, heard, Act.bind_apply, Act.get_apply, hlisten, ↓reduceIte]
    exact .inr ⟨js, rfl⟩
  | false =>
    simp only [radioStarted, heard, Act.bind_apply, Act.get_apply, hlisten, Bool.false_eq_true,
      ↓reduceIte]
    exact .inl rfl

theorem react_started (a : Answer) (s : Field) (js : Array Notice) :
    Started s.1 (Network.react a .startRadio s js).1.2.1 := by
  unfold Network.react
  by_cases hfault : a.fault.isNone = true
  · simp only [hfault, ↓reduceIte]
    exact radioStarted_started s.1 js
  · simp only [hfault]
    exact .inl rfl

theorem settle_started (s : Field) (js : Array Notice) :
    Started s.1 (Network.settle w .startRadio s js).1.2.1 := by
  simp only [Network.settle, Act.bind_apply, Act.get_apply, Act.modify_apply]
  have hreact := react_started (s.2.next (Service.of .startRadio))
    (s.1, s.2.drop (Service.of .startRadio)) js
  cases (s.2.next (Service.of .startRadio)).reply? .startRadio <;> exact hreact

/-- The replies that the board's network gives to the link task are among those of the
timeline, for a radio that starts once it has reported so. -/
theorem attendLink_meets {r : (p.demand access policy).Reply}
    (hover : (Network.attendLink now w (p.demand access policy) (h, n) js).1 =
      (.over r, (h', n'))) :
    ∃ k, Started h k ∧ (p ≠ .starting → k = h) ∧
      (p.demand access policy).Meets now w.since r k h' := by
  cases p with
  | configuring =>
    exact ⟨h, .inl rfl, fun _ => rfl, call_over (r := .configureRadio access) nofun hover⟩
  | joining => exact ⟨h, .inl rfl, fun _ => rfl, call_over (r := .joinNetwork) nofun hover⟩
  | starting =>
    have hstarted : Started h (Network.call now w .startRadio (h, n) js).1.2.1 :=
      call_keeps (.inl rfl) (fun n js => settle_started (h, n) js) n js
    change (Network.call now w .startRadio (h, n) js).1 = _ at hover
    rw [hover] at hstarted
    exact ⟨h', hstarted, fun hp => absurd rfl hp, rfl⟩
  | parked =>
    refine ⟨h, .inl rfl, fun _ => rfl, ?_⟩
    obtain ⟨⟨⟩, rfl, htaken⟩ | ⟨rfl, htaken, hdue⟩ := within_over hover
    · obtain ⟨hjoin, hs⟩ := Prod.mk.inj htaken
      exact ⟨js, Prod.ext hjoin (congrArg Prod.fst hs)⟩
    · obtain ⟨hjoin, hs⟩ := Prod.mk.inj htaken
      exact ⟨⟨js, Prod.ext hjoin (congrArg Prod.fst hs)⟩, hdue⟩

end AirStation.Uplink.Link
