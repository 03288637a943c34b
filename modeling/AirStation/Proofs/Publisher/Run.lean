import AirStation.Proofs.Publisher.Cycle

/-! What the publisher may do to the state at all. It stops the session only where the
session counts as up, starts it only where it does not, publishes only in a cycle that
began where the session counted as up, and besides that settles requests. So one condition
that belongs to its waits for the flags and one that belongs to publishing are kept by every
step, from one wait to the next, whatever replies it gets. -/

namespace AirStation.Publisher

variable {β : Type} {b : Broker β} {cfg : PublisherConfig}

/-! ### A condition between cycles and one while publishing -/

/-- Where the publisher stands, the condition that belongs there holds: `busy` while it
publishes, `calm` otherwise. -/
def Holds {α : Type} (calm busy : Site β → Prop) : Progress Waiting α → Site β → Prop
  | .paused (.copying ..) => busy
  | .paused .flags | .done _ => calm

theorem holds_self {α : Type} {R : Site β → Prop} {p : Progress Waiting α} {s : Site β} :
    Holds R R p s ↔ R s := by
  rcases p with (_ | _) | _ <;> rfl

/-- Whatever the publisher does leads from each of the two conditions to the one that belongs
where it then stands. -/
structure Keeps (b : Broker β) (calm busy : Site β → Prop) : Prop where
  begins {s : Site β} : calm s → s.2.net.has .brokerUp = true → busy s
  publishes {s t : Site β} : busy s → Publishes b s t → busy t
  ends {s : Site β} (seen : Flags) : busy s → calm (settled seen s)
  settles {s : Site β} (seen : Flags) : calm s → calm (settled seen s)
  stops {s : Site β} (js : Array Notice) : calm s → s.2.net.has .brokerUp = true →
    calm (stopped b s js)
  starts {s : Site β} (js : Array Notice) : calm s → s.2.net.has .brokerUp = false →
    calm (s.1, (b.start s.2 js).1.2)

namespace Keeps

variable {calm busy : Site β → Prop} {s t : Site β} (hk : Keeps b calm busy)

include hk

theorem publishing (hs : busy s) (h : Publishing b s t) : busy t := by
  induction h with
  | refl => exact hs
  | tail _ hstep ih => exact hk.publishes ih hstep

theorem act (hs : calm s) (js : Array Notice) :
    Holds calm busy (Publisher.act cfg b (.done s.2.net.snapshot) s js).1.1
      (Publisher.act cfg b (.done s.2.net.snapshot) s js).1.2 := by
  have hseen := Connectivity.contains_snapshot Flags.single_brokerUp rfl s.2.net
  cases hd : decide s.2.net.snapshot with
  | stopBroker =>
    obtain ⟨js', hact⟩ := act_stop cfg b hd s js
    have hup := ((decide_eq_stopBroker_iff _).1 hd).1
    rw [hact]
    exact hk.settles _ (hk.stops js' hs (hseen ▸ hup))
  | startBroker =>
    obtain ⟨js', hact⟩ := act_start cfg b hd s js
    have hdown := ((decide_eq_startBroker_iff _).1 hd).2
    rw [hact]
    exact hk.settles _ (hk.starts js' hs (hseen ▸ hdown))
  | publish =>
    have hup := ((decide_eq_publish_iff _).1 hd).2.1
    rw [act_publish cfg b hd]
    exact hk.begins hs (hseen ▸ hup)
  | idle =>
    rw [act_idle cfg b hd]
    exact hk.settles _ hs

theorem cycle_start (hs : calm s) (js : Array Notice) :
    Holds calm busy ((cycle cfg b).start s js).1.1 ((cycle cfg b).start s js).1.2 := by
  have hstart : (cycle cfg b).start s js =
      Publisher.act cfg b ((awaiting cfg).start s js).1.1 s js := rfl
  rw [hstart, awaiting_start]
  by_cases h : s.2.net.snapshot.meets .mustDisconnect = true
  · rw [if_pos h]
    exact hk.act hs js
  · rw [if_neg h]
    exact hs

theorem cycle_resume {w : Waiting} (hs : Holds (α := Action) calm busy (.paused w) s)
    (r : (w.demand cfg).Reply) (js : Array Notice) :
    Holds calm busy ((cycle cfg b).resume w r s js).1.1 ((cycle cfg b).resume w r s js).1.2 := by
  cases w with
  | flags => exact hk.act hs js
  | copying seen p =>
    obtain ⟨u, hu, ⟨q, hres⟩ | hres⟩ := resume_copying cfg b seen p r s js
    · rw [hres]
      exact hk.publishing hs hu
    · rw [hres]
      exact hk.ends seen (hk.publishing hs hu)

theorem proceed (n : Nat) {p : CycleProgress} (hs : Holds calm busy p s) (js : Array Notice) :
    Holds calm busy (Publisher.proceed cfg b n p s js).1.1
      (Publisher.proceed cfg b n p s js).1.2 := by
  induction n generalizing p s js with
  | zero =>
    rcases p with (_ | _) | _ <;> exact hs
  | succ n ih =>
    cases p with
    | paused w => cases w <;> exact hs
    | done a => exact ih (hk.cycle_start hs js) _

theorem run_start (cfg : PublisherConfig) (hs : calm s) (js : Array Notice) :
    Holds calm busy ((run cfg b).start s js).1.1 ((run cfg b).start s js).1.2 :=
  hk.proceed _ (hk.cycle_start hs (js.push .publisherStarted)) _

theorem run_resume (cfg : PublisherConfig) {w : Waiting}
    (hs : Holds (α := Empty) calm busy (.paused w) s) (r : (w.demand cfg).Reply)
    (js : Array Notice) :
    Holds calm busy ((run cfg b).resume w r s js).1.1 ((run cfg b).resume w r s js).1.2 := by
  have hcycle : Holds (α := Action) calm busy (.paused w) s := by cases w <;> exact hs
  exact hk.proceed _ (hk.cycle_resume hcycle r js) _

end Keeps

/-! ### One relation throughout -/

/-- A relation that what the publisher does never leaves. -/
structure Admits (b : Broker β) (R : Site β → Site β → Prop) : Prop where
  refl (s : Site β) : R s s
  trans {s t u : Site β} : R s t → R t u → R s u
  publishes {s t : Site β} : Publishes b s t → R s t
  settles (seen : Flags) (s : Site β) : R s (settled seen s)
  stops (s : Site β) (js : Array Notice) : s.2.net.has .brokerUp = true → R s (stopped b s js)
  starts (s : Site β) (js : Array Notice) :
    s.2.net.has .brokerUp = false → R s (s.1, (b.start s.2 js).1.2)

namespace Admits

variable {R : Site β → Site β → Prop} (hR : Admits b R)

include hR

theorem keeps (s : Site β) : Keeps b (R s) (R s) where
  begins h _ := h
  publishes h hp := hR.trans h (hR.publishes hp)
  ends seen h := hR.trans h (hR.settles seen _)
  settles seen h := hR.trans h (hR.settles seen _)
  stops js h hup := hR.trans h (hR.stops _ js hup)
  starts js h hdown := hR.trans h (hR.starts _ js hdown)

theorem run_start (s : Site β) (js : Array Notice) : R s ((run cfg b).start s js).1.2 :=
  holds_self.1 ((hR.keeps s).run_start cfg (hR.refl s) js)

theorem run_resume (w : Waiting) (r : (Waiting.demand cfg w).Reply) (s : Site β)
    (js : Array Notice) : R s ((run cfg b).resume w r s js).1.2 :=
  holds_self.1 ((hR.keeps s).run_resume cfg (holds_self.2 (hR.refl s)) r js)

end Admits

end AirStation.Publisher
