import AirStation.Proofs.Frame.Sealed
import AirStation.Proofs.Timed.Runs
import AirStation.Sensor.Uart
import AirStation.Timed.Attend

/-! A simulated sensor at the end of its line. A read finds the next chunk of the answer, or it
finds nothing in its time; the answer comes in full or not at all, and the next command starts
from an empty line. -/

namespace AirStation

namespace Timed

/-- A timer is not over when it is set. -/
theorem Wait.not_isOver_since (now length : Millis) (fetch : Fetch) :
    Wait.isOver { since := now, fetch } now length = false := by
  have hpos : 1 ≤ max length 1 := Nat.le_max_right _ _
  rw [Wait.isOver, decide_eq_false_iff_not]
  exact Nat.not_le.2 (Nat.lt_add_of_pos_right hpos)

theorem Wait.isOver_max (w : Wait) (now length : Millis) :
    w.isOver (max now (w.since + max length 1)) length = true :=
  decide_eq_true (Nat.le_max_right _ _)

end Timed

namespace Simulation.Uart

open Acquisition (Demand)
open Timed (Attend Wait Brings Comes)

variable {ρ : Type}

/-- An acquisition task on a simulated sensor, with its slot. -/
abbrev Site (m : Model ρ) := Acquisition.Site (Uart m) (Frame m.codec.size) ρ

abbrev sensor (m : Model ρ) (policy : ReadPolicy) : Sensor (Uart m) (Frame m.codec.size) ρ :=
  AirStation.Uart.sensor (Uart m) m.codec policy

/-- The task's waits by the clock. -/
abbrev attend (m : Model ρ) (policy : ReadPolicy) : Attend Demand.Reply (Site m) :=
  Timed.acquisition (sensor m policy) Acquisition.devicePart .snd

variable {m : Model ρ} {policy : ReadPolicy}

/-! ### What the waits bring -/

theorem brings_rest (s : Site m) (length : Millis) :
    Brings (attend m policy) (.rest length) s (() : Unit) s fun _ => True := by
  have hlook (now : Millis) (w : Wait) (js : Array Notice) :
      attend m policy now w (.rest length) s js = ((Timed.timer now w length, s), js) := rfl
  exact {
    first := fun now => .inr ⟨{ since := now }, fun js => ⟨js, by
      rw [hlook, Timed.timer, Wait.not_isOver_since]; rfl⟩, trivial⟩
    later := fun now w _ => by
      by_cases h : w.isOver now length = true
      · exact .inl fun js => ⟨js, by rw [hlook, Timed.timer, if_pos h]; rfl⟩
      · exact .inr fun js => ⟨js, by rw [hlook, Timed.timer, if_neg h]; rfl⟩
    ends := fun now w _ => ⟨_, Nat.le_max_left _ _, fun js => ⟨js, by
      rw [hlook, Timed.timer, if_pos (w.isOver_max now length)]; rfl⟩⟩ }

/-- A free lock is granted at the first look. -/
theorem brings_lock (s : Site m) (hfree : s.2.held = false) (d : LockDemand) :
    Brings (attend m policy) (.lock d) s (.ready () : Timed Unit)
      (s.1, { s.2 with held := true }) fun _ => False := by
  have hlook (now : Millis) (w : Wait) (js : Array Notice) :
      Timed.within now w d.limit (Slot.tryLock.on (.snd : Part (Site m) (Slot ρ))) s js =
        ((.over (.ready ()), (s.1, { s.2 with held := true })), js) := by
    simp [Timed.within, Slot.tryLock, Part.snd, hfree]
  exact {
    first := fun now => .inl fun js => ⟨js, hlook now _ js⟩
    later := fun _ _ h => h.elim
    ends := fun _ _ h => h.elim }

/-- The task with other input on its line. -/
def withRx (rx : Bytes) (s : Site m) : Site m := ({ s.1 with device.rx := rx }, s.2)

section Reads

variable {s : Site m} {now : Millis} {w : Wait} {limit room : Nat} (js : Array Notice)

/-- One look at a read. -/
abbrev lookAt (policy : ReadPolicy) (now : Millis) (w : Wait) (limit room : Nat) :
    Act (Site m) (Timed.Look (Timed (Except PortFault Bytes))) :=
  Timed.read (sensor m policy) Acquisition.devicePart now w limit room

/-- A read of a silent line will never be over but by its limit. -/
theorem lookAt_silent (hrx : s.1.device.rx = []) :
    lookAt policy now { since := now } limit room s js =
      ((.still { since := now, fetch := .never }, s), js) := by
  have hopen := Wait.not_isOver_since now limit .never
  simp [Timed.read, sensor, AirStation.Uart.sensor, SerialPort.arrive, arrive, hrx, Timed.expire,
    hopen, Acquisition.devicePart, Acquisition.Task.devicePart, Part.comp, Part.fst]

/-- Where there is input a chunk is on its way. -/
theorem lookAt_coming (hrx : s.1.device.rx ≠ []) :
    lookAt policy now { since := now } limit room s js =
      ((.still { since := now, fetch := .due (now + chunkDelay) }, s), js) := by
  have hdelay : max chunkDelay 1 = chunkDelay := rfl
  have hopen := Wait.not_isOver_since now limit (.due (now + chunkDelay))
  simp [Timed.read, sensor, AirStation.Uart.sensor, SerialPort.arrive, arrive, hrx, hdelay,
    Timed.expire, hopen, Acquisition.devicePart, Acquisition.Task.devicePart, Part.comp, Part.fst]

theorem lookAt_never (hw : w.fetch = .never) :
    lookAt policy now w limit room s js =
      ((if w.isOver now limit then .over .expired else .still w, s), js) := by
  simp [Timed.read, hw, Timed.expire]

theorem lookAt_early (hw : w.fetch = .due (w.since + chunkDelay)) (hlimit : chunkDelay < limit)
    (h : now < w.since + chunkDelay) :
    lookAt policy now w limit room s js = ((.still w, s), js) := by
  have hopen : w.isOver now limit = false := by
    rw [Wait.isOver, decide_eq_false_iff_not]
    have hle : chunkDelay ≤ max limit 1 :=
      Nat.le_trans (Nat.le_of_lt hlimit) (Nat.le_max_left _ _)
    exact Nat.not_le.2 (Nat.lt_of_lt_of_le h (Nat.add_le_add_left hle _))
  simp [Timed.read, hw, Nat.not_le.2 h, Timed.expire, hopen]

theorem lookAt_due {moment : Millis} (hw : w.fetch = .due moment) (h : moment ≤ now) :
    lookAt policy now w limit room s js =
      ((.over (.ready (.ok (s.1.device.rx.take (min room chunkLength)))),
        withRx (s.1.device.rx.drop (min room chunkLength)) s), js) := by
  simp [Timed.read, hw, h, sensor, AirStation.Uart.sensor, SerialPort.deliver, deliver, withRx,
    Acquisition.devicePart, Acquisition.Task.devicePart, Part.comp, Part.fst]

end Reads

theorem brings_silence (s : Site m) (hrx : s.1.device.rx = []) (limit room : Nat) :
    Brings (attend m policy) (.sensor (.read limit room)) s
      (.expired : Timed (Except PortFault Bytes)) s fun w => w.fetch = .never where
  first now := .inr ⟨_, fun js => ⟨js, lookAt_silent js hrx⟩, rfl⟩
  later now w hw := by
    by_cases h : w.isOver now limit = true
    · exact .inl fun js => ⟨js, (lookAt_never js hw).trans (by rw [if_pos h]; rfl)⟩
    · exact .inr fun js => ⟨js, (lookAt_never js hw).trans (by rw [if_neg h]; rfl)⟩
  ends now w hw := ⟨_, Nat.le_max_left _ _, fun js =>
    ⟨js, (lookAt_never js hw).trans (by rw [if_pos (w.isOver_max now limit)]; rfl)⟩⟩

/-- A chunk takes its time on the line, which is less than the limit. -/
theorem brings_chunk (s : Site m) (hrx : s.1.device.rx ≠ []) {limit : Nat}
    (hlimit : chunkDelay < limit) (room : Nat) :
    Brings (attend m policy) (.sensor (.read limit room)) s
      (.ready (.ok (s.1.device.rx.take (min room chunkLength))) : Timed (Except PortFault Bytes))
      (withRx (s.1.device.rx.drop (min room chunkLength)) s)
      fun w => w.fetch = .due (w.since + chunkDelay) where
  first now := .inr ⟨_, fun js => ⟨js, lookAt_coming js hrx⟩, rfl⟩
  later now w hw := by
    rcases Nat.lt_or_ge now (w.since + chunkDelay) with hlt | hge
    · exact .inr fun js => ⟨js, lookAt_early js hw hlimit hlt⟩
    · exact .inl fun js => ⟨js, lookAt_due js hw hge⟩
  ends now w hw := ⟨_, Nat.le_max_left _ _, fun js =>
    ⟨js, lookAt_due js hw (Nat.le_max_right now _)⟩⟩

end Simulation.Uart

end AirStation
