import AirStation.Acquisition
import AirStation.Publisher.Cycle
import AirStation.Timed.Job

/-! How the demands of the pipeline are met as time goes by. -/

namespace AirStation.Timed

variable {σ τ δ F ρ β : Type}

/-- A read asks once. What it is told then decides: it is over, it will be at some
later moment, or it will never be but by its limit. -/
def read (S : Sensor δ F ρ) (device : Part σ δ) (now : Millis) (w : Wait) (limit room : Nat) :
    Act σ (Look (Timed (Except PortFault Bytes))) := do
  match w.fetch with
  | .unasked =>
    match ← (S.arrive room).on device with
    | .now r => pure (.over (.ready r))
    | .later delay => pure (expire now limit { w with fetch := .due (now + max delay 1) })
    | .never => pure (expire now limit { w with fetch := .never })
  | .due moment =>
    if moment ≤ now then
      let bs ← (S.deliver room).on device
      pure (.over (.ready (.ok bs)))
    else pure (expire now limit w)
  | .never => pure (expire now limit w)

def sensor (S : Sensor δ F ρ) (device : Part σ δ) : Attend SensorDemand.Reply σ
  | now, w, .pause length => pure (timer now w length)
  | now, w, .read limit room => read S device now w limit room

def acquisition (S : Sensor δ F ρ) (device : Part σ δ) (slot : Part σ (Slot ρ)) :
    Attend Acquisition.Demand.Reply σ
  | now, w, .sensor d => sensor S device now w d
  | now, w, .lock d => within now w d.limit (Slot.tryLock.on slot)
  | now, w, .rest length => pure (timer now w length)

def publisher (hub : Part σ (Hub β)) : Attend Publisher.Demand.Reply σ
  | now, w, .flags d => within now w d.limit ((Connectivity.look d.mask).on (.comp hub Hub.netPart))
  | now, w, .lock d =>
    within now w d.limit ((Store.tryLock d.quantity).on (.comp hub Hub.storePart))

/-! ### An acquisition task at its slot -/

/-- The task over a state that has its slot as a part. -/
def acquiring [Measured ρ] (S : Sensor δ F ρ) (pace : Pace) (slot : Part τ (Slot ρ)) :
    Activity Acquisition.Demand.Reply (Acquisition.Task δ F ρ × τ) AcquisitionError :=
  (Acquisition.run S pace).on (Part.mapSnd slot)

structure Seat [Measured ρ] (S : Sensor δ F ρ) (pace : Pace) (slot : Part τ (Slot ρ)) where
  task : Acquisition.Task δ F ρ
  job : Job (acquiring S pace slot) := .fresh

namespace Seat

variable [Measured ρ] {S : Sensor δ F ρ} {pace : Pace} {slot : Part τ (Slot ρ)}

/-- When the task ended and why. -/
def stopped (seat : Seat S pace slot) : Option (Millis × AcquisitionError) :=
  seat.job.result?

/-- Lets the task go on. If its end is to be told, it is at the moment it comes. -/
def poll (tell : Bool) (now : Millis) (seat : Seat S pace slot) : Act τ (Seat S pace slot) :=
  fun t js =>
    let attend := acquisition S (.comp .fst Acquisition.Task.devicePart) (.comp .snd slot)
    let ((job, (task, t)), js) := seat.job.poll attend now (seat.task, t) js
    let next : Seat S pace slot := ⟨task, job⟩
    match seat.stopped, next.stopped with
    | none, some (_, e) =>
      ((next, t), if tell then js.push (.acquisitionStopped S.quantity e) else js)
    | _, _ => ((next, t), js)

end Seat

/-! ### The journal of a run -/

/-- Notices with the moments they were left at. -/
abbrev Journal := Array (Millis × Notice)

/-- Carries out one moment and stamps what it leaves. -/
def moment (now : Millis) (a : Act σ Unit) (s : σ) (j : Journal) : σ × Journal :=
  let (((), s), notices) := a s #[]
  (s, notices.foldl (fun j n => j.push (now, n)) j)

/-- Carries out `count` moments from `now` on, one a millisecond. -/
def moments (step : Millis → Act σ Unit) : Nat → Millis → σ → Journal → σ × Journal
  | 0, _, s, j => (s, j)
  | count + 1, now, s, j =>
    let (s, j) := moment now (step now) s j
    moments step count (now + 1) s j

end AirStation.Timed
