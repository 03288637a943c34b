import AirStation.Act
import AirStation.Connectivity.Flags
import AirStation.Retry

/-! Connectivity as the network's event handlers and the publisher share it: the
flags, a latch that tells a waiter that some flag was newly set, and the budget of
reconnects. Handlers never wait. A waiter looks at the flags when it begins and
then only after the latch was set, so no newly set flag escapes it. -/

namespace AirStation

/-- What the radio and the address assignment report. -/
inductive LinkEvent where
  | starting
  /-- The association was lost or an attempt at it failed. -/
  | disconnected
  | gotAddress
  | lostAddress
  deriving DecidableEq

instance : Named LinkEvent where
  all := [.starting, .disconnected, .gotAddress, .lostAddress]
  name
    | .starting => "Starting"
    | .disconnected => "Disconnected"
    | .gotAddress => "GotAddress"
    | .lostAddress => "LostAddress"

/-- What is to be done with the radio after an event. -/
inductive LinkAction where
  | connect
  | none
  deriving DecidableEq

/-- What the broker session reports. -/
inductive BrokerEvent where
  | connected
  | disconnected
  | error
  | published (id : UInt16)
  deriving DecidableEq

structure Connectivity where
  flags : Flags
  changed : Bool
  budget : RetryBudget
  deriving DecidableEq

namespace Connectivity

def ofMaxRetries (max : UInt8) : Connectivity :=
  ⟨.none, false, .ofMax max⟩

/-- The flags that have a meaning. -/
def snapshot (c : Connectivity) : Flags := c.flags.known

/-- Reconnects used since the last address. -/
def retries (c : Connectivity) : UInt8 := c.budget.failures

/-- Sets flags, and the latch with them if one of them was not set before. -/
def raise (f : Flags) (c : Connectivity) : Connectivity :=
  { c with flags := c.flags.union f, changed := c.changed || !c.flags.contains f }

def lower (f : Flags) (c : Connectivity) : Connectivity :=
  { c with flags := c.flags.diff f }

def rearmBudget (c : Connectivity) : Connectivity :=
  { c with budget := c.budget.reset }

/-! ### Events -/

def onLink : LinkEvent → Act Connectivity LinkAction
  | .starting => do
    modify fun c => { c with budget := c.budget.consume }
    note .linkConnecting
    pure .connect
  | .disconnected => do
    modify fun c => (c.lower .linkUp).raise .mustDisconnect
    let c ← get
    let (retried, budget) := c.budget.tryConsume
    set { c with budget }
    if retried then
      note (.linkReconnecting budget.failures)
      pure .connect
    else
      note .linkGivenUp
      modify (raise .linkFailed)
      pure .none
  | .gotAddress => do
    modify fun c => (c.rearmBudget.lower .linkFailed).raise .linkUp
    note .addressAcquired
    pure .none
  | .lostAddress => do
    note .addressLost
    pure .none

def onBroker : BrokerEvent → Act Connectivity Unit
  | .connected => do
    note .brokerConnected
    modify (raise .brokerUp)
  | .disconnected => do
    note .brokerDisconnected
    modify (lower .brokerUp)
  | .error => do
    note .brokerFailed
    modify (raise .mustDisconnect)
  | .published id => note (.brokerPublished id)

/-- A fresh sequence of reconnects after the link was declared failed. -/
def rearm : Act Connectivity Unit := do
  modify rearmBudget
  note .linkRearmed

/-! ### Waiting -/

/-- One look of a waiter: it takes the latch, and is done if the latch was set and a
flag of the mask is up. -/
def look (mask : Flags) : Act Connectivity (Option Unit) := do
  let c ← get
  if c.changed then
    set { c with changed := false }
    pure (if c.snapshot.meets mask then some () else none)
  else pure none

/-- A wait for any flag of a mask, for a limited time. -/
structure FlagDemand where
  limit : Millis
  mask : Flags

def FlagDemand.Reply (_ : FlagDemand) : Type := Timed Unit

/-- Ends at once if a flag of the mask is up, else when one is seen or the time is up,
and gives all the flags as they are then. Nothing is cleared. -/
def waitFor (limit : Millis) (mask : Flags) :
    Activity FlagDemand.Reply Connectivity Flags where
  Paused := Unit
  demand _ := ⟨limit, mask⟩
  start := do
    let c ← get
    pure (if c.snapshot.meets mask then .done c.snapshot else .paused ())
  resume _ _ := do
    let c ← get
    pure (.done c.snapshot)

end Connectivity

end AirStation
