import AirStation.Proofs.Publisher.Requests

/-! Any number of cycles in a row, with any events between them, at their waits and at
their calls to publish. A request to disconnect is answered by the first cycle that takes
its snapshot after it: that cycle publishes nothing, stops the session if it counts as up,
and settles the request. Once a cycle has stopped the session, none publishes until the
session has reported anew that it is connected. -/

namespace AirStation.Publisher

variable {β : Type} {cfg : PublisherConfig} {c : Conduct β} {s m u t : Site (Diary β)}
  {turn : Turn} {turns : List Turn}

/-! ### One turn -/

namespace Turn

/-- The publisher publishes: by its action, or by a call. -/
def Publishes (turn : Turn) : Prop :=
  turn.action = .publish ∨ ∃ topic payload, .publish topic payload ∈ turn.after

/-- The turn answers a request to disconnect. -/
structure TearsDown (turn : Turn) : Prop where
  silent : ¬ turn.Publishes
  stop_iff : .stop ∈ turn.after ↔ turn.seen.contains .brokerUp = true
  settled : turn.left.contains .mustDisconnect = false

/-- All the entries of a turn. -/
def entries (turn : Turn) : List Entry := turn.before ++ turn.after

end Turn

namespace Course

variable (h : Course c s turn m u t)

include h

theorem action_eq_publish_iff :
    turn.action = .publish ↔ turn.seen.contains .linkUp = true ∧
      turn.seen.contains .brokerUp = true ∧ turn.seen.contains .mustDisconnect = false := by
  rw [h.action]
  exact decide_eq_publish_iff _

theorem publish_of_publishes (hp : turn.Publishes) : turn.action = .publish := by
  rcases hp with hp | ⟨topic, payload, hin⟩
  · exact hp
  · exact (h.after.calls _ hin _ rfl).symm

theorem stop_mem_iff : .stop ∈ turn.after ↔ turn.action = .stopBroker := by
  constructor
  · intro hin
    exact (h.after.calls _ hin _ rfl).symm
  · intro ha
    exact (h.after.stops ha).1

theorem tearsDown (hseen : turn.seen.contains .mustDisconnect = true) : turn.TearsDown where
  silent hp := by
    obtain ⟨-, -, hnone⟩ := h.action_eq_publish_iff.1 (h.publish_of_publishes hp)
    exact absurd hseen (by simp [hnone])
  stop_iff := by
    rw [h.stop_mem_iff, h.action, decide_eq_stopBroker_iff]
    exact and_iff_left (.inr hseen)
  settled := by
    rw [h.left_mustDisconnect, hseen]
    exact Bool.and_false _

theorem brokerUp_iff : t.2.net.has .brokerUp = true ↔ u.2.net.has .brokerUp = true := by
  rw [h.settled, has_brokerUp_settled]

theorem connected_of_brokerUp (hup : t.2.net.has .brokerUp = true) :
    s.2.net.has .brokerUp = true ∨ .connected ∈ turn.entries := by
  rcases h.after.follows.brokerUp (h.brokerUp_iff.1 hup) with hm | hin
  · rcases h.before.brokerUp hm with hs | hin
    · exact .inl hs
    · exact .inr (List.mem_append_left _ hin)
  · exact .inr (List.mem_append_right _ hin)

/-- With a quiet broker only a cycle that publishes has events after its snapshot. -/
theorem publish_of_asks (hq : c.Quiet) (hasks : turn.after.any Entry.asksToDisconnect = true) :
    turn.action = .publish := by
  refine Decidable.byContradiction fun hne => ?_
  obtain ⟨x, hin, hx⟩ := List.any_eq_true.1 hasks
  cases x with
  | event e => exact h.after.quiet hq hne e hin
  | start => cases hx
  | stop => cases hx
  | publish topic payload => cases hx

theorem kept (hq : c.Quiet) (hasks : turn.after.any Entry.asksToDisconnect = true) :
    turn.left.contains .mustDisconnect = true := by
  obtain ⟨-, -, hnone⟩ := h.action_eq_publish_iff.1 (h.publish_of_asks hq hasks)
  rw [h.left_mustDisconnect, hasks, hnone]
  rfl

end Course

/-! ### Turn after turn -/

/-- Any number of cycles in a row. -/
inductive Runs (cfg : PublisherConfig) (c : Conduct β) :
    Site (Diary β) → List Turn → Site (Diary β) → Prop where
  | nil (s : Site (Diary β)) : Runs cfg c s [] s
  | cons {s t u : Site (Diary β)} {turn : Turn} {turns : List Turn} :
      Takes cfg c s turn t → Runs cfg c t turns u → Runs cfg c s (turn :: turns) u

namespace Runs

theorem append {xs ys : List Turn} (h : Runs cfg c s (xs ++ ys) t) :
    ∃ u, Runs cfg c s xs u ∧ Runs cfg c u ys t := by
  induction xs generalizing s with
  | nil => exact ⟨s, .nil s, h⟩
  | cons x xs ih =>
    cases h with
    | cons hx h =>
      obtain ⟨u, hxs, hys⟩ := ih h
      exact ⟨u, .cons hx hxs, hys⟩

/-- A turn of a run, with what came before it and what comes after. -/
theorem split {pre post : List Turn} (h : Runs cfg c s (pre ++ turn :: post) t) :
    ∃ v w, Runs cfg c s pre v ∧ Takes cfg c v turn w ∧ Runs cfg c w post t := by
  obtain ⟨v, hpre, h⟩ := h.append
  cases h with
  | cons hturn hpost => exact ⟨v, _, hpre, hturn, hpost⟩

theorem course (h : Runs cfg c s turns t) (hin : turn ∈ turns) :
    ∃ v m u w, Course c v turn m u w := by
  obtain ⟨pre, post, rfl⟩ := List.append_of_mem hin
  obtain ⟨v, w, -, hturn, -⟩ := h.split
  obtain ⟨m, u, hc⟩ := hturn.course
  exact ⟨v, m, u, w, hc⟩

theorem connected_of_brokerUp (h : Runs cfg c s turns t)
    (hup : t.2.net.has .brokerUp = true) :
    s.2.net.has .brokerUp = true ∨ .connected ∈ turns.flatMap Turn.entries := by
  induction h with
  | nil s => exact .inl hup
  | cons hturn _ ih =>
    obtain ⟨m, u, hc⟩ := hturn.course
    rw [List.flatMap_cons]
    rcases ih hup with ht | hin
    · exact (hc.connected_of_brokerUp ht).imp_right (List.mem_append_left _)
    · exact .inr (List.mem_append_right _ hin)

end Runs

/-- What was entered since the last snapshot before a turn, if that is what the turns
before it were. -/
def sinceSnapshot (pre : List Turn) : List Entry :=
  (pre.getLast?.map Turn.after).getD []

/-- A request raised since the last snapshot is up when the next cycle begins. -/
theorem Runs.request_pending {pre : List Turn} (hq : c.Quiet) (h : Runs cfg c s pre t)
    (hasks : (sinceSnapshot pre).any Entry.asksToDisconnect = true) :
    t.2.net.has .mustDisconnect = true := by
  obtain rfl | ⟨xs, last, rfl⟩ := pre.eq_nil_or_concat
  · cases hasks
  · rw [List.concat_eq_append, sinceSnapshot, List.getLast?_concat] at hasks
    rw [List.concat_eq_append] at h
    obtain ⟨v, w, -, hlast, hnil⟩ := h.split
    cases hnil
    obtain ⟨m, u, hc⟩ := hlast.course
    rw [← hc.contains_left Flags.single_mustDisconnect rfl]
    exact hc.kept hq hasks

/-! ### Teardown -/

/-- What holds of the turns of every run. -/
structure SafeTeardown (turns : List Turn) : Prop where
  /-- A request is answered by the first cycle whose snapshot is taken after it. -/
  answered : ∀ pre turn post, turns = pre ++ turn :: post →
    (sinceSnapshot pre ++ turn.before).any Entry.asksToDisconnect = true → turn.TearsDown
  /-- A request raised while a cycle is under way is raised while it publishes, and it is
  left to the next cycle. -/
  kept : ∀ turn ∈ turns, turn.after.any Entry.asksToDisconnect = true →
    turn.action = .publish ∧ turn.left.contains .mustDisconnect = true
  /-- After a stop nothing is published before the session is connected anew. -/
  reconnects : ∀ pre stopping mid publishing post,
    turns = pre ++ stopping :: (mid ++ publishing :: post) →
    .stop ∈ stopping.after → publishing.Publishes →
    .connected ∈ mid.flatMap Turn.entries ++ publishing.before
  starts : ∀ turn ∈ turns, .start ∈ turn.after →
    turn.seen.contains .linkUp = true ∧ turn.seen.contains .brokerUp = false
  publishes : ∀ turn ∈ turns, turn.Publishes →
    turn.seen.contains .linkUp = true ∧ turn.seen.contains .brokerUp = true ∧
      turn.seen.contains .mustDisconnect = false

theorem Runs.answered {pre post : List Turn} (hq : c.Quiet)
    (h : Runs cfg c s (pre ++ turn :: post) t)
    (hasks : (sinceSnapshot pre ++ turn.before).any Entry.asksToDisconnect = true) :
    turn.TearsDown := by
  obtain ⟨v, w, hpre, hturn, -⟩ := h.split
  obtain ⟨m, u, hc⟩ := hturn.course
  apply hc.tearsDown
  rw [hc.contains_seen Flags.single_mustDisconnect rfl, hc.before.mustDisconnect]
  rw [List.any_append, Bool.or_eq_true] at hasks
  rcases hasks with hasks | hasks
  · rw [hpre.request_pending hq hasks, Bool.true_or]
  · rw [hasks, Bool.or_true]

theorem Runs.reconnects {pre mid post : List Turn} {stopping publishing : Turn}
    (h : Runs cfg c s (pre ++ stopping :: (mid ++ publishing :: post)) t)
    (hstop : .stop ∈ stopping.after) (hpub : publishing.Publishes) :
    .connected ∈ mid.flatMap Turn.entries ++ publishing.before := by
  obtain ⟨v, w, -, hstopping, h⟩ := h.split
  obtain ⟨x, y, hmid, hpublishing, -⟩ := h.split
  obtain ⟨m₁, u₁, hc₁⟩ := hstopping.course
  obtain ⟨m₂, u₂, hc₂⟩ := hpublishing.course
  have hdown : w.2.net.has .brokerUp = false := by
    rw [← Bool.not_eq_true, hc₁.brokerUp_iff, (hc₁.after.stops (hc₁.stop_mem_iff.1 hstop)).2]
    exact Bool.false_ne_true
  have hseen : m₂.2.net.has .brokerUp = true := by
    rw [← hc₂.contains_seen Flags.single_brokerUp rfl]
    exact (hc₂.action_eq_publish_iff.1 (hc₂.publish_of_publishes hpub)).2.1
  rcases hc₂.before.brokerUp hseen with hx | hin
  · rcases hmid.connected_of_brokerUp hx with hw | hin
    · exact absurd hw (by simp [hdown])
    · exact List.mem_append_left _ hin
  · exact List.mem_append_right _ hin

/-- Every run tears the session down safely, if the broker reports nothing while it is
started or stopped. -/
theorem runs_safeTeardown (hq : c.Quiet) (h : Runs cfg c s turns t) : SafeTeardown turns where
  answered pre turn post hsplit hasks := by
    subst hsplit
    exact h.answered hq hasks
  kept turn hin hasks := by
    obtain ⟨v, m, u, w, hc⟩ := h.course hin
    exact ⟨hc.publish_of_asks hq hasks, hc.kept hq hasks⟩
  reconnects pre stopping mid publishing post hsplit hstop hpub := by
    subst hsplit
    exact h.reconnects hstop hpub
  starts turn hin hstart := by
    obtain ⟨v, m, u, w, hc⟩ := h.course hin
    have hstarts : turn.action = .startBroker := (hc.after.calls _ hstart _ rfl).symm
    exact (decide_eq_startBroker_iff _).1 (hc.action.symm.trans hstarts)
  publishes turn hin hpub := by
    obtain ⟨v, m, u, w, hc⟩ := h.course hin
    exact hc.action_eq_publish_iff.1 (hc.publish_of_publishes hpub)

/-! ### A session that breaks while the publisher publishes -/

/-- A broker that brings nothing about by itself. -/
def Conduct.silent : Conduct Unit where
  start h := ⟨[], h.store, ()⟩
  stop h := ⟨[], h.store, ()⟩
  publish _ _ h := (.ok (), ⟨[], h.store, ()⟩)

theorem silent_quiet : Conduct.silent.Quiet := fun _ => ⟨rfl, rfl⟩

/-- The state once the session has failed, with the diary that tells of it. -/
def Site.failed : Site (Diary Unit) :=
  ({}, ⟨⟨⟨13⟩, true, .ofMax 3⟩, .empty, ⟨(), [.event (.broker .error)]⟩⟩)

/-- The session fails while the publisher waits for the first slot. -/
theorem takes_failing :
    Takes {} .silent (Site.ofFlags ⟨5⟩)
      ⟨[], ⟨5⟩, [.event (.broker .error)], .publish, ⟨13⟩⟩ Site.failed := by
  have hgap (s : Site (Diary Unit)) : Meanwhile s s :=
    ⟨[], #[], s.2.net.changed, s.2.store, s.2.desk.desk, rfl⟩
  have hfail : Meanwhile (Site.ofFlags ⟨5⟩) Site.failed :=
    ⟨[.broker .error], #[], true, .empty, (), rfl⟩
  have hwait : (awaiting {}).Performs Meanwhile (Site.ofFlags ⟨5⟩) ⟨5⟩ (Site.ofFlags ⟨5⟩) :=
    awaiting_performs_iff.2 ⟨rfl, hgap _⟩
  refine .intro (hgap _) hwait ⟨#[], ?_⟩ rfl rfl rfl
  -- none of the three locks is granted, so there is nothing to publish
  refine .resume (.expired : Timed Unit) #[] hfail ?_
  refine .resume (.expired : Timed Unit) #[] (hgap _) ?_
  refine .resume (.expired : Timed Unit) #[] (hgap _) ?_
  exact .done _ _

theorem takes_stopping :
    Takes {} .silent Site.failed ⟨[], ⟨13⟩, [.stop], .stopBroker, ⟨1⟩⟩
      (settled ⟨13⟩ (stopped Conduct.silent.broker Site.failed #[])) := by
  have hgap : Meanwhile Site.failed Site.failed := ⟨[], #[], true, .empty, (), rfl⟩
  have hwait : (awaiting {}).Performs Meanwhile Site.failed ⟨13⟩ Site.failed :=
    awaiting_performs_iff.2 ⟨rfl, rfl⟩
  exact .intro hgap hwait ⟨#[], .done _ _⟩ rfl rfl rfl

theorem runs_safeTeardown_failing :
    Conduct.silent.Quiet ∧
      Runs {} .silent (Site.ofFlags ⟨5⟩)
        [⟨[], ⟨5⟩, [.event (.broker .error)], .publish, ⟨13⟩⟩,
          ⟨[], ⟨13⟩, [.stop], .stopBroker, ⟨1⟩⟩]
        (settled ⟨13⟩ (stopped Conduct.silent.broker Site.failed #[])) ∧
      SafeTeardown
        [⟨[], ⟨5⟩, [.event (.broker .error)], .publish, ⟨13⟩⟩,
          ⟨[], ⟨13⟩, [.stop], .stopBroker, ⟨1⟩⟩] :=
  have hruns := .cons takes_failing (.cons takes_stopping (.nil _))
  ⟨silent_quiet, hruns, runs_safeTeardown silent_quiet hruns⟩

end AirStation.Publisher
