import AirStation.Connectivity
import AirStation.Telemetry.Store

/-! What the station's tasks share: connectivity, the latest readings, and whatever
belongs to the broker at hand; and what may happen to it from outside of the tasks:
network events, flags set and cleared at will, and an outside holder of a slot's lock. -/

namespace AirStation

structure Hub (β : Type) where
  net : Connectivity
  store : Store
  desk : β

namespace Hub

variable {β : Type}

def netPart : Part (Hub β) Connectivity := ⟨Hub.net, fun c h => { h with net := c }⟩
def storePart : Part (Hub β) Store := ⟨Hub.store, fun s h => { h with store := s }⟩

end Hub

/-! ### Events from outside -/

inductive Event where
  | link (e : LinkEvent)
  | broker (e : BrokerEvent)
  | raise (f : Flags)
  | lower (f : Flags)
  | rearm
  | hold (q : Quantity)
  | release (q : Quantity)

/-- What an event gives back: nothing, what to do with the radio, or whether the lock
was as expected. -/
inductive Event.Result where
  | nothing
  | link (action : LinkAction)
  | asExpected (yes : Bool)

namespace Event

variable {β : Type}

/-- Takes a free lock, or gives a held one back. -/
def setHeld (q : Quantity) (held : Bool) : Act (Hub β) Result := do
  let h ← get
  if h.store.held q = held then pure (.asExpected false)
  else
    set { h with store := h.store.setHeld held q }
    pure (.asExpected true)

def apply : Event → Act (Hub β) Result
  | .link e => do pure (.link (← (Connectivity.onLink e).on Hub.netPart))
  | .broker e => do
    (Connectivity.onBroker e).on Hub.netPart
    pure .nothing
  | .raise f => do
    modify fun h => { h with net := h.net.raise f }
    pure .nothing
  | .lower f => do
    modify fun h => { h with net := h.net.lower f }
    pure .nothing
  | .rearm => do
    Connectivity.rearm.on Hub.netPart
    pure .nothing
  | .hold q => setHeld q true
  | .release q => setHeld q false

/-- The event for its effect alone. -/
def happen (e : Event) : Act (Hub β) Unit := do
  let _ ← e.apply

end Event

end AirStation
