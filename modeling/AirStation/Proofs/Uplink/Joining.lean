import AirStation.Proofs.Uplink.Timeline
import Mathlib.Data.List.Induction

/-! No request to join is lost or invented. The handlers set a latch and the link task takes it
where it waits; between the two nothing else touches it, so the latch is up just if some event
was answered that the radio is to connect and the task has not begun to join since. -/

namespace AirStation.Uplink.Link

/-- Whether a request is outstanding after one mark more. -/
def Mark.settle (b : Bool) : Mark → Bool
  | .told n => b || decide (n.answer? = some .connect)
  | .waits .joining => false
  | .waits _ => b

/-- Whether a request is outstanding after some marks more. -/
def settle (b : Bool) (log : Log) : Bool := log.foldl (fun b x => x.2.settle b) b

/-- An event was answered that the radio is to connect, and the task has not begun to join
since then. -/
def outstanding (log : Log) : Bool := settle false log

theorem settle_append (b : Bool) (xs ys : Log) : settle b (xs ++ ys) = settle (settle b xs) ys :=
  List.foldl_append

theorem settle_stamp_aside {told : Array Notice} (h : Aside told) (now : Millis) (b : Bool) :
    settle b (stamp now told) = b := by
  obtain ⟨ns⟩ := told
  change settle b (ns.map fun n => (now, .told n)) = b
  have hns : ∀ n ∈ ns, n.answer? = none := fun n hn => (h n (by simpa using hn)).1
  induction ns with
  | nil => rfl
  | cons n ns ih =>
    have hn : (Mark.told n).settle b = b := by
      simp [Mark.settle, hns n List.mem_cons_self]
    change settle ((Mark.told n).settle b) (ns.map fun n => (now, .told n)) = b
    rw [hn]
    exact ih (fun m hm => h m (by simp_all)) fun m hm => hns m (List.mem_cons_of_mem _ hm)

theorem told_of_mem_stamp {now : Millis} {told : Array Notice} {x : Millis × Mark}
    (h : x ∈ stamp now told) : ∃ n ∈ told, x = (now, .told n) := by
  obtain ⟨n, hn, rfl⟩ := List.mem_map.1 h
  exact ⟨n, by simpa using hn, rfl⟩

namespace Timeline

variable {access : Internet} {policy : LinkPolicy} {s t : Timeline}

/-- A request to join stands. -/
def requested (s : Timeline) : Bool := s.hub.desk.joinRequested

/-- What a move enters settles the request as the move does, and the task begins to join only
where one stands. -/
structure Enters (s t : Timeline) (es : Log) : Prop where
  log : t.log = s.log ++ es
  request : t.requested = settle s.requested es
  joins : ∀ pre x post, es = pre ++ x :: post → x.2 = .waits .joining →
    pre = [] ∧ s.requested = true

/-- Notices alone. -/
theorem Enters.of_notices {told : Array Notice} (hlog : t.log = s.log ++ stamp s.now told)
    (hrequest : t.requested = settle s.requested (stamp s.now told)) :
    Enters s t (stamp s.now told) where
  log := hlog
  request := hrequest
  joins pre x post heq hx := by
    obtain ⟨n, -, rfl⟩ := told_of_mem_stamp (heq ▸ List.mem_append_right _ (.head _))
    cases hx

/-- Notices, and that the task waits for something else than to join. -/
theorem Enters.of_waits {told : Array Notice} {q : Phase} (hq : q ≠ .joining)
    (hlog : t.log = s.log ++ (stamp s.now told ++ [(s.now, .waits q)]))
    (hrequest : t.requested = settle s.requested (stamp s.now told)) :
    Enters s t (stamp s.now told ++ [(s.now, .waits q)]) where
  log := hlog
  request := by
    rw [settle_append, hrequest]
    cases q <;> first | rfl | exact absurd rfl hq
  joins pre x post heq hx := by
    have hin : x ∈ stamp s.now told ++ [(s.now, .waits q)] :=
      heq ▸ List.mem_append_right _ (.head _)
    rcases List.mem_append.1 hin with hin | hin
    · obtain ⟨n, -, rfl⟩ := told_of_mem_stamp hin
      cases hx
    · rw [List.mem_singleton.1 hin] at hx
      exact absurd (Mark.waits.inj hx) hq

theorem Move.enters (h : Move access policy s t) : ∃ es, Enters s t es := by
  cases h with
  | passes length => exact ⟨[], (List.append_nil _).symm, rfl, by simp⟩
  | aside h hsame => exact ⟨[], (List.append_nil _).symm, hsame, by simp⟩
  | reports e hdispatch =>
    rw [dispatch_apply] at hdispatch
    cases hdispatch
    refine ⟨_, .of_notices rfl ?_⟩
    have hanswer := e.answer?_notice s.hub.net
    simp [requested, settle, stamp, Mark.settle, hanswer]
  | ends r _ hm hres =>
    obtain ⟨hsame, haside⟩ := ends_aside hm hres
    exact ⟨_, .of_notices rfl (hsame.trans (settle_stamp_aside haside _ _).symm)⟩
  | goesOn r _ hm hres =>
    rcases goesOn_cases hm hres with ⟨-, rfl, hstands, htaken, rfl⟩ | hr | hp
    · refine ⟨[(s.now, .waits .joining)], rfl, htaken, fun pre x post heq _ => ?_⟩
      exact ⟨(split_singleton heq).1, hstands⟩
    · obtain ⟨-, rfl, -, -, rfl, -, hrequested⟩ := hr
      refine ⟨_, .of_waits (q := .parked) nofun rfl (hrequested.trans ?_)⟩
      simp [settle, stamp, Mark.settle, Notice.answer?]
    · exact ⟨_, .of_waits hp.next rfl (hp.request.trans (settle_stamp_aside hp.aside _ _).symm)⟩

/-- The latch is up just if a request is outstanding, and the task has begun to join only where
one was. -/
theorem Reachable.requests (h : Reachable access policy s) :
    s.requested = outstanding s.log ∧
      Always (fun pre x => x.2 = .waits .joining → outstanding pre = true) s.log := by
  induction h with
  | powerOn =>
    refine ⟨rfl, fun pre x post heq hx => ?_⟩
    obtain ⟨-, rfl, -⟩ := split_singleton heq
    cases hx
  | move _ hm ih =>
    obtain ⟨hlatch, halways⟩ := ih
    obtain ⟨es, hes⟩ := hm.enters
    constructor
    · rw [hes.request, hes.log, hlatch, outstanding, outstanding, settle_append]
    · rw [hes.log]
      refine halways.append fun pre x post heq hx => ?_
      obtain ⟨rfl, hstands⟩ := hes.joins pre x post heq hx
      rw [List.append_nil, ← hlatch]
      exact hstands

/-- The notices of a fresh sequence. -/
def anew : Array Notice := #[.cooldownOver, .linkRearmed, .linkConnecting]

theorem notice_ne_linkRearmed (e : LinkEvent) (c : Connectivity) :
    e.notice c ≠ .linkRearmed := by
  cases e with
  | disconnected => by_cases h : c.budget.failures < c.budget.max <;> simp [LinkEvent.notice, h]
  | _ => simp [LinkEvent.notice]

theorem Aside.not_rearmed {told : Array Notice} (h : Aside told) (now τ : Millis) :
    (τ, .told .linkRearmed) ∉ stamp now told := by
  intro hin
  obtain ⟨n, hn, heq⟩ := told_of_mem_stamp hin
  obtain rfl := Mark.told.inj (Prod.mk.inj heq).2
  exact (h _ hn).2 rfl

/-- A fresh sequence is begun by the parked task alone. -/
theorem Move.of_rearmed {es : Log} {τ : Millis} (h : Move access policy s t)
    (hes : t.log = s.log ++ es) (hin : (τ, .told .linkRearmed) ∈ es) :
    s.task = some .parked ∧ Rearms policy s.now s.since .parked .parked s.hub t.hub anew ∧
      es = stamp s.now anew ++ [(s.now, .waits .parked)] := by
  cases h with
  | passes | aside =>
    obtain rfl := List.self_eq_append_right.1 hes
    cases hin
  | reports e hdispatch =>
    rw [dispatch_apply] at hdispatch
    cases hdispatch
    obtain rfl := List.append_cancel_left hes
    obtain ⟨n, hn, heq⟩ := told_of_mem_stamp hin
    obtain rfl := Array.mem_singleton.1 hn
    exact absurd (Mark.told.inj (Prod.mk.inj heq).2).symm (notice_ne_linkRearmed e _)
  | ends r _ hm hres =>
    obtain rfl := List.append_cancel_left hes
    exact absurd hin (Aside.not_rearmed (ends_aside hm hres).2 _ _)
  | goesOn r htask hm hres =>
    obtain rfl := List.append_cancel_left hes
    have hstamp := (List.mem_append.1 hin).resolve_right (by simp)
    rcases goesOn_cases hm hres with hj | hr | hp
    · exact absurd hstamp (Aside.not_rearmed (hj.silent ▸ .nil) _ _)
    · obtain rfl := hr.parked
      obtain rfl := hr.again
      obtain rfl := hr.told
      exact ⟨htask, hr, rfl⟩
    · exact absurd hstamp (Aside.not_rearmed hp.aside _ _)

/-- One reconnect is allowed, and the cooldown takes a second. -/
def hasty : LinkPolicy := { maxRetries := 1, cooldown := 1000 }

/-- The radio has started, and the task has tried to join. -/
def tried : Log :=
  [(0, .waits .configuring), (0, .waits .starting), (0, .told .linkConnecting),
    (0, .told (.radioStarted "")), (0, .waits .parked), (0, .waits .joining), (0, .waits .parked)]

/-- The task is parked since it has tried, and the hub is as given. -/
def parked (now : Millis) (flags : Flags) (log : Log) : Timeline where
  now := now
  hub := ⟨⟨flags, flags != .none, (RetryBudget.ofMax 1).consume⟩, .empty, { listening := true }⟩
  task := some .parked
  since := 0
  log := tried ++ log

theorem reachable_parked : Reachable {} hasty (parked 0 .none []) := by
  have hstarting : Reachable {} hasty _ := Reachable.powerOn.move
    (.goesOn (p := .configuring) (q := .starting) (.ok () : Except ApiFault Unit) rfl rfl rfl)
  have hreported := hstarting.move (.reports .starting rfl)
  have hparked := hreported.move
    (.goesOn (p := .starting) (q := .parked) (.ok () : Except ApiFault Unit) rfl rfl rfl)
  have hjoining := hparked.move
    (.goesOn (p := .parked) (q := .joining) (.ready () : Timed Unit) rfl ⟨#[], rfl⟩ rfl)
  exact hjoining.move
    (.goesOn (p := .joining) (q := .parked) (.ok () : Except ApiFault Unit) rfl rfl rfl)

/-- The link is lost for good just before the task's wait is over. -/
def failed : Timeline :=
  parked 1000 (.union .mustDisconnect .linkFailed) [(999, .told .linkGivenUp)]

theorem reachable_failed : Reachable {} hasty failed := by
  have hlate := reachable_parked.move (.passes 999)
  have hlost := hlate.move (.reports .disconnected rfl)
  exact hlost.move (.passes 1)

/-- The task begins anew when its wait is over. -/
def rearmed : Timeline where
  now := 1000
  hub := ⟨⟨.union .mustDisconnect .linkFailed, true, (RetryBudget.ofMax 1).consume⟩, .empty,
    { listening := true, joinRequested := true }⟩
  task := some .parked
  since := 1000
  log := failed.log ++ (stamp 1000 anew ++ [(1000, .waits .parked)])

theorem reachable_rearmed : Reachable {} hasty rearmed := by
  have hover : (Demand.join hasty.cooldown).Meets 1000 0 .expired failed.hub failed.hub :=
    ⟨⟨#[], rfl⟩, Nat.le_refl 1000⟩
  exact reachable_failed.move
    (.goesOn (p := .parked) (q := .parked) (.expired : Timed Unit) rfl hover rfl)

end Timeline

end AirStation.Uplink.Link
