import AirStation.Acquisition
import AirStation.Publisher.Cycle
import AirStation.Rig.Clock

/-! Activities under a scripted clock. -/

namespace AirStation.Rig

variable {E σ δ F ρ β : Type}

/-- What a read has brought by the time it is first tried. A read that has found
nothing by then finds nothing later. -/
def arrived (a : Arrival) : Option (Except PortFault Bytes) :=
  match a with
  | .now r => some r
  | _ => none

def serveSensor (S : Sensor δ F ρ) (device : Part σ δ) (clock : Part σ (Clock E))
    (happen : E → Act σ Unit) : (d : SensorDemand) → Act σ (Option d.Reply)
  | .pause length => Clock.sleep clock length
  | .read limit room =>
    Clock.timeout clock happen limit
      (do pure (arrived (← (S.arrive room).on device))) (pure none)

def serveAcquisition (S : Sensor δ F ρ) (device : Part σ δ) (slot : Part σ (Slot ρ))
    (clock : Part σ (Clock E)) (happen : E → Act σ Unit) :
    (d : Acquisition.Demand) → Act σ (Option d.Reply)
  | .sensor d => serveSensor S device clock happen d
  | .lock d =>
    Clock.timeout clock happen d.limit (Slot.tryLock.on slot) (Slot.tryLock.on slot)
  | .rest length => Clock.sleep clock length

def serveStore (store : Part σ Store) (clock : Part σ (Clock E)) (happen : E → Act σ Unit)
    (d : StoreDemand) : Act σ (Option d.Reply) :=
  Clock.timeout clock happen d.limit ((Store.tryLock d.quantity).on store)
    ((Store.tryLock d.quantity).on store)

def serveFlags (net : Part σ Connectivity) (clock : Part σ (Clock E)) (happen : E → Act σ Unit)
    (d : Connectivity.FlagDemand) : Act σ (Option d.Reply) :=
  Clock.timeout clock happen d.limit ((Connectivity.look d.mask).on net)
    ((Connectivity.look d.mask).on net)

def servePublisher (hub : Part σ (Hub β)) (clock : Part σ (Clock E)) (happen : E → Act σ Unit) :
    (d : Publisher.Demand) → Act σ (Option d.Reply)
  | .flags d => serveFlags (.comp hub Hub.netPart) clock happen d
  | .lock d => serveStore (.comp hub Hub.storePart) clock happen d

/-- More replies than any run of the rig asks for. -/
def patience : Nat := 1000000000

end AirStation.Rig
