import AirStation.Proofs.Publisher.Diary

/-! What becomes of a request to disconnect in the cycle during which it is raised. The
request is one flag without a version. A cycle whose snapshot lacked it leaves it alone,
so what is raised after the snapshot is there for the next cycle. A cycle whose snapshot
had it clears it at its end by that old snapshot, and with it a request that was raised
anew while the cycle was under way. -/

namespace AirStation.Publisher

variable {β : Type} {cfg : PublisherConfig} {c : Conduct β} {s m u t : Site (Diary β)}
  {turn : Turn}

namespace Course

variable (h : Course c s turn m u t)

include h

theorem contains_seen {g : Flags} (hg : g.Single) (hk : Flags.all.contains g = true) :
    turn.seen.contains g = m.2.net.has g := by
  rw [h.seen, Connectivity.contains_snapshot hg hk]

theorem contains_left {g : Flags} (hg : g.Single) (hk : Flags.all.contains g = true) :
    turn.left.contains g = t.2.net.has g := by
  rw [h.left, Connectivity.contains_snapshot hg hk]

theorem left_mustDisconnect :
    turn.left.contains .mustDisconnect =
      (turn.after.any Entry.asksToDisconnect && !turn.seen.contains .mustDisconnect) := by
  have hseen := h.contains_seen Flags.single_mustDisconnect rfl
  rw [h.contains_left Flags.single_mustDisconnect rfl, h.settled, has_mustDisconnect_settled,
    h.after.follows.mustDisconnect, ← hseen]
  cases turn.seen.contains .mustDisconnect with
  | false => rw [Bool.false_or]
  | true => rw [Bool.not_true, Bool.and_false, Bool.and_false]

end Course

/-- A request that an event raises after the snapshot is up when the cycle returns just if
the snapshot had none. -/
theorem request_kept_iff (h : Takes cfg c s turn t) {e : NetEvent}
    (he : .event e ∈ turn.after) (hasks : e.asksToDisconnect = true) :
    t.2.net.flags.contains .mustDisconnect = true ↔
      turn.seen.contains .mustDisconnect = false := by
  obtain ⟨m, u, h⟩ := h.course
  have hany : turn.after.any Entry.asksToDisconnect = true := List.any_eq_true.2 ⟨_, he, hasks⟩
  have hleft := h.left_mustDisconnect
  rw [h.contains_left Flags.single_mustDisconnect rfl, hany, Bool.true_and] at hleft
  change t.2.net.has .mustDisconnect = true ↔ _
  rw [hleft, Bool.not_eq_true']

/-! ### A session that breaks while it is stopped -/

/-- A broker whose session reports an error when it is asked to stop. -/
def Conduct.breaking : Conduct Unit where
  start h := ⟨[], h.store, ()⟩
  stop h := ⟨[.broker .error], h.store, ()⟩
  publish _ _ h := (.ok (), ⟨[], h.store, ()⟩)

/-- The shared state with some flags up, and nothing else in it. -/
def Site.ofFlags (f : Flags) : Site (Diary Unit) :=
  ({}, ⟨⟨f, false, .ofMax 3⟩, .empty, ⟨(), []⟩⟩)

/-- The turn of a cycle that begins with the link, the session and a request up. -/
def Turn.breaking : Turn :=
  ⟨[], ⟨13⟩, [.stop, .event (.broker .error)], .stopBroker, ⟨1⟩⟩

theorem takes_breaking :
    Takes {} .breaking (Site.ofFlags ⟨13⟩) .breaking
      (settled ⟨13⟩ (stopped Conduct.breaking.broker (Site.ofFlags ⟨13⟩) #[])) := by
  have hgap : Meanwhile (Site.ofFlags ⟨13⟩) (Site.ofFlags ⟨13⟩) :=
    ⟨[], #[], false, .empty, (), rfl⟩
  have hwait : (awaiting {}).Performs Meanwhile (Site.ofFlags ⟨13⟩) ⟨13⟩ (Site.ofFlags ⟨13⟩) :=
    awaiting_performs_iff.2 ⟨rfl, rfl⟩
  exact .intro hgap hwait ⟨#[], .done _ _⟩ rfl rfl rfl

theorem request_kept_iff_breaking :
    Takes {} .breaking (Site.ofFlags ⟨13⟩) .breaking
        (settled ⟨13⟩ (stopped Conduct.breaking.broker (Site.ofFlags ⟨13⟩) #[])) ∧
      .event (.broker .error) ∈ Turn.breaking.after ∧
      ((settled ⟨13⟩ (stopped Conduct.breaking.broker (Site.ofFlags ⟨13⟩) #[])).2.net.flags.contains
          .mustDisconnect = true ↔
        Turn.breaking.seen.contains .mustDisconnect = false) :=
  ⟨takes_breaking, by decide,
    request_kept_iff (e := .broker .error) takes_breaking (by decide) rfl⟩

/-- So a request is lost: the session that was up when the cycle began broke once more
while it was being stopped, and nothing is left of that. -/
theorem request_lost :
    ¬ ∀ (β : Type) (cfg : PublisherConfig) (c : Conduct β) (s t : Site (Diary β)) (turn : Turn),
      Takes cfg c s turn t →
      (∃ e : NetEvent, .event e ∈ turn.after ∧ e.asksToDisconnect = true) →
      t.2.net.flags.contains .mustDisconnect = true := by
  intro h
  have hkept := h Unit {} .breaking _ _ _ takes_breaking ⟨.broker .error, by decide, rfl⟩
  revert hkept
  decide

end AirStation.Publisher
