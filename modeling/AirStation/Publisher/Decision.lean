import AirStation.Connectivity.Flags

/-! What the publisher does about the broker session, decided from the flags alone:

| link | broker | must disconnect | action |
|------|--------|-----------------|--------|
| down | up     | any             | stop   |
| up   | up     | yes             | stop   |
| up   | down   | any             | start  |
| up   | up     | no              | publish |
| down | down   | any             | idle   | -/

namespace AirStation.Publisher

inductive Action where
  | stopBroker
  | startBroker
  | publish
  | idle
  deriving DecidableEq

def Action.name : Action → String
  | .stopBroker => "StopBroker"
  | .startBroker => "StartBroker"
  | .publish => "Publish"
  | .idle => "Idle"

def decide (f : Flags) : Action :=
  match f.contains .linkUp, f.contains .brokerUp, f.contains .mustDisconnect with
  | false, true, _ => .stopBroker
  | true, true, true => .stopBroker
  | true, false, _ => .startBroker
  | true, true, false => .publish
  | false, false, _ => .idle

end AirStation.Publisher
