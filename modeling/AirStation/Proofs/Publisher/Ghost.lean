import AirStation.Publisher.Cycle

/-! A broker may keep more beside its own state than another, as long as it does the same to
the rest. The publisher cannot tell the two apart: it goes through the same steps, leaves the
same notices, and its states differ in what the one broker keeps and the other does not. -/

namespace AirStation

namespace Act

variable {σ τ ρ α β : Type} {f : σ → τ}

/-- The second action does to what `f` shows of a state what the first does to the state. -/
def Shows (f : σ → τ) (a : Act σ α) (b : Act τ α) : Prop :=
  ∀ s js, b (f s) js = (((a s js).1.1, f (a s js).1.2), (a s js).2)

namespace Shows

theorem pure (x : α) : Shows f (Pure.pure x) (Pure.pure x) := fun _ _ => rfl

theorem note (n : Notice) : Shows f (AirStation.note n) (AirStation.note n) := fun _ _ => rfl

theorem modify {m : σ → σ} {n : τ → τ} (h : ∀ s, n (f s) = f (m s)) :
    Shows f (modify m : Act σ PUnit) (modify n) := fun s js => by
  rw [modify_apply, modify_apply, h]

theorem bind {a : Act σ α} {b : Act τ α} {k : α → Act σ β} {l : α → Act τ β}
    (h : Shows f a b) (hk : ∀ x, Shows f (k x) (l x)) : Shows f (a >>= k) (b >>= l) := by
  intro s js
  rw [bind_apply, bind_apply, h s js]
  exact hk _ _ _

/-- An action on a part that both states have. -/
theorem on {p : Part σ ρ} {q : Part τ ρ} (hget : ∀ s, q.get (f s) = p.get s)
    (hput : ∀ x s, q.put x (f s) = f (p.put x s)) (a : Act ρ α) : Shows f (a.on p) (a.on q) := by
  intro s js
  rw [on_apply, on_apply, hget, hput]

end Shows

end Act

open Act

variable {β γ : Type}

/-- The hub with less kept by the broker. -/
def Hub.map (g : γ → β) (h : Hub γ) : Hub β := ⟨h.net, h.store, g h.desk⟩

/-- One broker does what another does and keeps more. -/
structure Broker.Shows (g : γ → β) (b : Broker γ) (c : Broker β) : Prop where
  start : Act.Shows (Hub.map g) b.start c.start
  stop : Act.Shows (Hub.map g) b.stop c.stop
  publish (topic : String) (payload : Bytes) :
    Act.Shows (Hub.map g) (b.publish topic payload) (c.publish topic payload)

namespace Publisher

/-- The publisher's state with less kept by the broker. -/
def Site.map (g : γ → β) (s : Site γ) : Site β := (s.1, s.2.map g)

variable {g : γ → β} {α : Type}

theorem shows_snd {a : Act (Hub γ) α} {c : Act (Hub β) α} (h : Act.Shows (Hub.map g) a c) :
    Act.Shows (Site.map g) (a.on .snd) (c.on .snd) := by
  intro s js
  rw [on_apply, on_apply]
  have hc : c (Part.snd.get (Site.map g s)) js = _ := h s.2 js
  rw [hc]
  rfl

theorem shows_fst (a : Act Watches α) :
    Act.Shows (Site.map g) (a.on .fst) (a.on .fst) :=
  .on (f := Site.map g) (fun _ => rfl) (fun _ _ => rfl) a

theorem shows_store (a : Act Store α) :
    Act.Shows (Site.map g) (a.on (.comp .snd Hub.storePart)) (a.on (.comp .snd Hub.storePart)) :=
  .on (f := Site.map g) (fun _ => rfl) (fun _ _ => rfl) a

theorem shows_net (a : Act Connectivity α) :
    Act.Shows (Site.map g) (a.on (.comp .snd Hub.netPart)) (a.on (.comp .snd Hub.netPart)) :=
  .on (f := Site.map g) (fun _ => rfl) (fun _ _ => rfl) a

theorem settle_shows (seen : Flags) (action : Action) :
    Act.Shows (Site.map g) (settle seen action) (settle seen action) := by
  unfold settle
  by_cases hs : seen.contains .mustDisconnect = true
  · simp only [hs, ↓reduceIte]
    exact .bind (.modify fun _ => rfl) fun _ => .pure _
  · simp only [hs]
    exact .pure _

variable (cfg : PublisherConfig) {b : Broker γ} {c : Broker β} (h : b.Shows g c)

include h

theorem publishAll_shows (snap : Snapshot) (ms : List Metric) :
    Act.Shows (Site.map g) (publishAll cfg b snap ms) (publishAll cfg c snap ms) := by
  induction ms with
  | nil => exact .pure ()
  | cons m rest ih =>
    unfold publishAll
    cases message cfg snap m with
    | error n => exact .bind (.note n) fun _ => ih
    | ok sent =>
      refine .bind (shows_snd (h.publish _ _)) fun result => ?_
      cases result with
      | error e => exact .note _
      | ok _ => exact .bind (.note _) fun _ => ih

theorem copied_shows (seen : Flags) (p : Progress Store.Copying Snapshot) :
    Act.Shows (Site.map g) (copied cfg b seen p) (copied cfg c seen p) := by
  cases p with
  | paused p => exact .pure _
  | done snap =>
    exact .bind (shows_fst _) fun _ =>
      .bind (publishAll_shows cfg h snap _) fun _ => settle_shows seen .publish

theorem act_shows (p : Progress Unit Flags) :
    Act.Shows (Site.map g) (act cfg b p) (act cfg c p) := by
  cases p with
  | paused => exact .pure _
  | done seen =>
    refine .bind (.note _) fun _ => ?_
    cases decide seen with
    | stopBroker =>
      exact .bind (.note _) fun _ => .bind (shows_snd h.stop) fun _ =>
        .bind (.modify fun _ => rfl) fun _ => settle_shows seen _
    | startBroker =>
      exact .bind (.note _) fun _ => .bind (shows_snd h.start) fun _ => settle_shows seen _
    | publish => exact .bind (shows_store _) fun p => copied_shows cfg h seen p
    | idle => exact settle_shows seen _

theorem cycle_start_shows :
    Act.Shows (Site.map g) (cycle cfg b).start (cycle cfg c).start :=
  .bind (shows_net _) fun p => act_shows cfg h p

theorem cycle_resume_shows (w : Waiting) (r : (w.demand cfg).Reply) :
    Act.Shows (Site.map g) ((cycle cfg b).resume w r) ((cycle cfg c).resume w r) := by
  cases w with
  | flags => exact .bind (shows_net _) fun p => act_shows cfg h p
  | copying seen p => exact .bind (shows_store _) fun p => copied_shows cfg h seen p

theorem proceed_shows (n : Nat) (p : CycleProgress) :
    Act.Shows (Site.map g) (proceed cfg b n p) (proceed cfg c n p) := by
  induction n generalizing p with
  | zero => cases p <;> exact .pure _
  | succ n ih =>
    cases p with
    | paused w => exact .pure _
    | done a => exact .bind (cycle_start_shows cfg h) fun p => ih p

/-- From its start and from each of its waits the publisher does the same with both. -/
theorem run_start_shows : Act.Shows (Site.map g) (run cfg b).start (run cfg c).start :=
  .bind (.note _) fun _ => .bind (cycle_start_shows cfg h) fun p => proceed_shows cfg h _ p

theorem run_resume_shows (w : Waiting) (r : (w.demand cfg).Reply) :
    Act.Shows (Site.map g) ((run cfg b).resume w r) ((run cfg c).resume w r) :=
  .bind (cycle_resume_shows cfg h w r) fun p => proceed_shows cfg h _ p

end Publisher

end AirStation
