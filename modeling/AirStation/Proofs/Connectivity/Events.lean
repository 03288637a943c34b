import AirStation.Hub
import AirStation.Proofs.Connectivity.Flags

/-! What the events of the network do to the connectivity, as functions of it, and what
that means for the flags the publisher goes by: a request to disconnect is only ever
raised by an event, and the broker session counts as up only once it has reported that
it is connected. -/

namespace AirStation

/-- What happens to the connectivity from outside of the publisher: an event of the link
or of the broker session, or a fresh sequence of reconnects. -/
inductive NetEvent where
  | link (e : LinkEvent)
  | broker (e : BrokerEvent)
  | rearm
  deriving DecidableEq

namespace LinkEvent

/-- The connectivity after an event of the link. -/
def after : LinkEvent → Connectivity → Connectivity
  | .starting, c => { c with budget := c.budget.consume }
  | .disconnected, c =>
    let d := (c.lower .linkUp).raise .mustDisconnect
    if c.budget.failures < c.budget.max then { d with budget := c.budget.consume }
    else d.raise .linkFailed
  | .gotAddress, c => (c.rearmBudget.lower .linkFailed).raise .linkUp
  | .lostAddress, c => c

/-- The answer to an event: the radio is to connect. -/
def connects (c : Connectivity) : LinkEvent → Bool
  | .starting => true
  | .disconnected => c.budget.failures < c.budget.max
  | .gotAddress | .lostAddress => false

/-- The notice that an event leaves. -/
def notice (c : Connectivity) : LinkEvent → Notice
  | .starting => .linkConnecting
  | .disconnected =>
    if c.budget.failures < c.budget.max then .linkReconnecting c.budget.consume.failures
    else .linkGivenUp
  | .gotAddress => .addressAcquired
  | .lostAddress => .addressLost

theorem onLink_apply (e : LinkEvent) (c : Connectivity) (js : Array Notice) :
    Connectivity.onLink e c js =
      ((if e.connects c then .connect else .none, e.after c), js.push (e.notice c)) := by
  cases e with
  | starting => rfl
  | gotAddress => rfl
  | lostAddress => rfl
  | disconnected =>
    by_cases h : c.budget.failures < c.budget.max <;>
      simp [Connectivity.onLink, connects, notice, after, RetryBudget.tryConsume,
        Connectivity.raise, Connectivity.lower, h]

theorem onLink_state (e : LinkEvent) (c : Connectivity) (js : Array Notice) :
    (Connectivity.onLink e c js).1.2 = e.after c := by
  rw [e.onLink_apply]

/-- The link says nothing about the session. -/
theorem has_brokerUp_after (e : LinkEvent) (c : Connectivity) :
    (e.after c).has .brokerUp = c.has .brokerUp := by
  cases e with
  | starting => rfl
  | lostAddress => rfl
  | gotAddress =>
    simp (disch := decide) only [after, Connectivity.has_raise_of_ne, Connectivity.has_lower_of_ne]
    rfl
  | disconnected =>
    have hd : ((c.lower .linkUp).raise .mustDisconnect).has .brokerUp = c.has .brokerUp := by
      simp (disch := decide) only [Connectivity.has_raise_of_ne, Connectivity.has_lower_of_ne]
    simp only [after]
    split
    · exact hd
    · simp (disch := decide) only [Connectivity.has_raise_of_ne, hd]

/-- It asks for the session to be torn down when it goes down. -/
theorem has_mustDisconnect_after (e : LinkEvent) (c : Connectivity) :
    (e.after c).has .mustDisconnect = (c.has .mustDisconnect || e == .disconnected) := by
  cases e with
  | starting => exact (Bool.or_false _).symm
  | lostAddress => exact (Bool.or_false _).symm
  | gotAddress =>
    simp (disch := decide) only [after, Connectivity.has_raise_of_ne, Connectivity.has_lower_of_ne]
    exact (Bool.or_false _).symm
  | disconnected =>
    have hd : ((c.lower .linkUp).raise .mustDisconnect).has .mustDisconnect = true :=
      Connectivity.has_raise_self Flags.single_mustDisconnect _
    simp only [after, beq_self_eq_true, Bool.or_true]
    split
    · exact hd
    · simp (disch := decide) only [Connectivity.has_raise_of_ne, hd]

end LinkEvent

namespace BrokerEvent

/-- The connectivity after an event of the broker session. -/
def after : BrokerEvent → Connectivity → Connectivity
  | .connected, c => c.raise .brokerUp
  | .disconnected, c => c.lower .brokerUp
  | .error, c => c.raise .mustDisconnect
  | .published _, c => c

theorem onBroker_state (e : BrokerEvent) (c : Connectivity) (js : Array Notice) :
    (Connectivity.onBroker e c js).1.2 = e.after c := by
  cases e <;> rfl

/-- The session has to do with its own flag and with requests to disconnect only. -/
theorem has_after_of_ne {g : Flags} (hg : g.Single) (hup : g ≠ .brokerUp)
    (hrequest : g ≠ .mustDisconnect) (e : BrokerEvent) (c : Connectivity) :
    (e.after c).has g = c.has g := by
  cases e with
  | connected => exact Connectivity.has_raise_of_ne Flags.single_brokerUp hg hup.symm c
  | disconnected => exact Connectivity.has_lower_of_ne Flags.single_brokerUp hg hup.symm c
  | error => exact Connectivity.has_raise_of_ne Flags.single_mustDisconnect hg hrequest.symm c
  | published id => rfl

end BrokerEvent

namespace NetEvent

variable {β : Type}

/-- The event among all that may happen to the shared state. -/
def toEvent : NetEvent → Event
  | .link e => .link e
  | .broker e => .broker e
  | .rearm => .rearm

/-- The connectivity after the event. -/
def after : NetEvent → Connectivity → Connectivity
  | .link e, c => e.after c
  | .broker e, c => e.after c
  | .rearm, c => c.rearmBudget

theorem happen_state (e : NetEvent) (h : Hub β) (js : Array Notice) :
    (e.toEvent.happen h js).1.2 = { h with net := e.after h.net } := by
  cases e with
  | link e => simp [toEvent, Event.happen, Event.apply, Hub.netPart, after, e.onLink_state]
  | broker e => simp [toEvent, Event.happen, Event.apply, Hub.netPart, after, e.onBroker_state]
  | rearm => rfl

/-- The events that ask for the broker session to be torn down. -/
def asksToDisconnect : NetEvent → Bool
  | .link .disconnected | .broker .error => true
  | _ => false

/-! ### The flags after an event -/

/-- No event takes a request to disconnect back. -/
theorem has_mustDisconnect_after (e : NetEvent) (c : Connectivity) :
    (e.after c).has .mustDisconnect = (c.has .mustDisconnect || e.asksToDisconnect) := by
  cases e with
  | rearm => exact (Bool.or_false _).symm
  | link e =>
    refine (e.has_mustDisconnect_after c).trans ?_
    cases e <;> rfl
  | broker e =>
    cases e with
    | published id => exact (Bool.or_false _).symm
    | connected =>
      simp (disch := decide) only [after, BrokerEvent.after, Connectivity.has_raise_of_ne]
      exact (Bool.or_false _).symm
    | disconnected =>
      simp (disch := decide) only [after, BrokerEvent.after, Connectivity.has_lower_of_ne]
      exact (Bool.or_false _).symm
    | error =>
      exact (Connectivity.has_raise_self Flags.single_mustDisconnect c).trans (Bool.or_true _).symm

/-- The session counts as up after an event only if it did before or the event says so. -/
theorem has_brokerUp_after (e : NetEvent) (c : Connectivity)
    (h : (e.after c).has .brokerUp = true) :
    c.has .brokerUp = true ∨ e = .broker .connected := by
  cases e with
  | rearm => exact .inl h
  | link e => exact .inl (e.has_brokerUp_after c ▸ h)
  | broker e =>
    cases e with
    | connected => exact .inr rfl
    | published id => exact .inl h
    | error =>
      simp (disch := decide) only [after, BrokerEvent.after, Connectivity.has_raise_of_ne] at h
      exact .inl h
    | disconnected =>
      have hdown := Connectivity.has_lower_self Flags.single_brokerUp c
      exact absurd h (by simp [after, BrokerEvent.after, hdown])

end NetEvent

end AirStation
