import AirStation.Proofs.Acquisition.Lockstep
import AirStation.Proofs.Attempts
import AirStation.Proofs.Simulation.Line

/-! One cycle of an acquisition task on a simulated sensor: the six steps from rest to rest,
each with one outcome. The answer to the request of the cycle decides what is stored, and
nothing of it is left for the next. -/

namespace AirStation.Simulation.Uart

open Acquisition (Phase)
open Timed (Comes Performs)

variable {ρ : Type} {m : Model ρ}

/-! ### The answer to a request -/

/-- What a sensor answers to its `k`-th request. -/
def response (m : Model ρ) (faults : Faults) (k : UInt32) : Bytes :=
  if falls faults.silentEvery k then []
  else if falls faults.corruptEvery k then spoil (m.encode (m.measure k)).toList
  else (m.encode (m.measure k)).toList

/-- The sensor after its next request, with the line dropped before it. -/
def answered (u : Uart m) : Uart m :=
  { u with rx := response m u.faults (u.requests + 1), requests := u.requests + 1 }

theorem response_length (faults : Faults) (k : UInt32) :
    response m faults k = [] ∨ (response m faults k).length = m.codec.size := by
  unfold response
  split
  · exact .inl rfl
  · split
    · exact .inr (by rw [length_spoil, Vector.length_toList])
    · exact .inr Vector.length_toList

theorem answer_apply (u : Uart m) (hrx : u.rx = []) (js : Array Notice) :
    (answer u js).1 = ((), answered u) := by
  obtain ⟨faults, rx, requests⟩ := u
  obtain rfl : rx = [] := hrx
  by_cases hsilent : falls faults.silentEvery (requests + 1) = true
  · simp [answer, answered, response, hsilent]
  · by_cases hcorrupt : falls faults.corruptEvery (requests + 1) = true
    · simp [answer, answered, response, hsilent, hcorrupt]
    · simp [answer, answered, response, hsilent, hcorrupt]

theorem writeAll_request (hne : m.codec.request ≠ []) (u : Uart m) (hrx : u.rx = [])
    (js : Array Notice) :
    (Serial.writeAll m.codec.request u js).1 = (.ok (), answered u) := by
  have hanswer := answer_apply u hrx js
  obtain ⟨b, rest, hreq⟩ := List.exists_cons_of_ne_nil hne
  have hwrite : (SerialPort.write (b :: rest) u js).1 = (.ok (b :: rest).length, answered u) := by
    simp only [SerialPort.write, write, if_pos hreq.symm, Act.bind_apply, Act.pure_apply]
    rw [hanswer]
  have hall : rest.drop ((b :: rest).length - 1) = [] := List.drop_eq_nil_of_le (Nat.le_refl _)
  rw [hreq, Serial.writeAll, Act.bind_apply, hwrite]
  simp only [hall, Serial.writeAll, Act.pure_apply]

/-- A request drops what the line held and leaves the answer on it. -/
theorem request_apply (hne : m.codec.request ≠ []) (policy : ReadPolicy) (u : Uart m)
    (js : Array Notice) :
    ((sensor m policy).request u js).1 = (.ok (), answered u) := by
  have hsend : (Serial.send m.codec.request u js).1 = (.ok (), answered u) := by
    have hwrite := writeAll_request hne { u with rx := [] } rfl js
    have hdiscard : (SerialPort.discard : Act (Uart m) Unit) u js =
        (((), { u with rx := [] }), js) := rfl
    have hflush (v : Uart m) (js : Array Notice) :
        (SerialPort.flush : Act (Uart m) (Except PortFault Unit)) v js = ((.ok (), v), js) := rfl
    simp only [Serial.send, Act.bind_apply, hdiscard, hwrite, hflush, Act.pure_apply]
    rfl
  change (AirStation.Uart.request m.codec u js).1 = _
  simp only [AirStation.Uart.request, Act.bind_apply, hsend, Act.pure_apply]

theorem response_fits (m : Model ρ) (faults : Faults) (k : UInt32) :
    (response m faults k).length ≤ m.codec.size := by
  rcases response_length (m := m) faults k with h | h
  · rw [h]
    exact Nat.zero_le _
  · exact Nat.le_of_eq h

/-- What the task makes of the answer to the `k`-th request. -/
def verdict (m : Model ρ) (faults : Faults) (k : UInt32) : Except SensorError ρ :=
  AirStation.Uart.validate m.codec ⟨response m faults k, response_fits m faults k⟩

/-- The counts after a cycle. -/
def turned (stats : Acquisition.Stats) : Except SensorError ρ → Acquisition.Stats
  | .ok _ => { stats with cycles := stats.cycles + 1 }
  | .error e => { stats.countFailure e with cycles := (stats.countFailure e).cycles + 1 }

theorem turned_cycles (stats : Acquisition.Stats) (x : Except SensorError ρ) :
    (turned stats x).cycles = stats.cycles + 1 := by
  cases x with
  | ok r => rfl
  | error e =>
    rw [turned, Acquisition.Stats.countFailure]
    split <;> rfl

/-! ### The steps of a cycle -/

variable [Measured ρ] {policy : ReadPolicy} {pace : Pace}

/-- The steps of the task. -/
abbrev stepping (m : Model ρ) (policy : ReadPolicy) (pace : Pace) :
    Activity Acquisition.Demand.Reply (Site m) Unit :=
  Acquisition.step (sensor m policy) pace

/-- A step from here ends there, however often the clock looks at its waits. -/
def Steps (policy : ReadPolicy) (pace : Pace) (s t : Site m) : Prop :=
  ∀ a v, Performs (stepping m policy pace) (attend m policy) s a v ↔ v = t

theorem steps_of_comes {s t : Site m}
    (h : ∀ js, Comes (stepping m policy pace) (attend m policy)
      ((stepping m policy pace).start s js).1.1 ((stepping m policy pace).start s js).1.2 () t) :
    Steps policy pace s t := by
  intro a v
  rw [Timed.performs_iff_of_comes h]
  exact ⟨fun heq => heq.2, fun heq => ⟨rfl, heq⟩⟩

/-- A step without a wait. -/
theorem steps_of_start {s t : Site m}
    (h : ∀ js, ((stepping m policy pace).start s js).1 = (.done (), t)) :
    Steps policy pace s t := by
  refine steps_of_comes fun js => ?_
  rw [h js]
  exact Timed.comes_done () t

/-- A wait whose reply ends the step. -/
theorem comes_of_resume {s t u : Site m} {p : (stepping m policy pace).Paused}
    {r : ((stepping m policy pace).demand p).Reply} {asked : Timed.Wait → Prop}
    (hbrings : Timed.Brings (attend m policy) ((stepping m policy pace).demand p) s r u asked)
    (h : ∀ js, ((stepping m policy pace).resume p r u js).1 = (.done (), t)) :
    Comes (stepping m policy pace) (attend m policy) (.paused p) s () t :=
  Timed.comes_of_brings hbrings fun js => ⟨_, _, h js, Timed.comes_done () t⟩

variable (u : Uart m) (stats : Acquisition.Stats) (slot : Slot ρ)

theorem steps_idle :
    Steps policy pace (⟨u, .idle, stats⟩, slot) (⟨u, .requesting, stats⟩, slot) :=
  steps_of_start fun _ => rfl

theorem steps_requesting (hne : m.codec.request ≠ []) :
    Steps policy pace (⟨u, .requesting, stats⟩, slot)
      (⟨answered u, .awaitingResponse, stats⟩, slot) := by
  refine steps_of_start fun js => ?_
  rw [Acquisition.Watched.requesting_apply, request_apply hne]
  rfl

theorem steps_valid {frame : Frame m.codec.size} {r : ρ}
    (h : AirStation.Uart.validate m.codec frame = .ok r) :
    Steps policy pace (⟨u, .validating frame, stats⟩, slot) (⟨u, .storing r, stats⟩, slot) := by
  have hvalidate : (sensor m policy).validate u frame = .ok r := h
  refine steps_of_start fun js => ?_
  rw [Acquisition.Watched.validating_apply, hvalidate]
  rfl

theorem steps_invalid {frame : Frame m.codec.size} {e : SensorError}
    (h : AirStation.Uart.validate m.codec frame = .error e) :
    Steps policy pace (⟨u, .validating frame, stats⟩, slot)
      (⟨u, .storing 0, stats.countFailure e⟩, slot) := by
  have hvalidate : (sensor m policy).validate u frame = .error e := h
  refine steps_of_start fun js => ?_
  rw [Acquisition.Watched.validating_apply, hvalidate]
  rfl

theorem steps_storing (r : ρ) (hfree : slot.held = false) :
    Steps policy pace (⟨u, .storing r, stats⟩, slot)
      (⟨u, .sleeping, stats⟩, ⟨false, slot.state.store r⟩) :=
  steps_of_comes fun _ => comes_of_resume (brings_lock _ hfree _) fun _ => rfl

theorem steps_sleeping :
    Steps policy pace (⟨u, .sleeping, stats⟩, slot)
      (⟨u, .idle, { stats with cycles := stats.cycles + 1 }⟩, slot) :=
  steps_of_comes fun _ => comes_of_resume (brings_rest _ _) fun _ => rfl

/-! ### The reading of the answer -/

section Receiving

variable {u stats slot} {r r' : FrameRead m.codec.size} {frame : Frame m.codec.size}
  {reply : Timed (Except PortFault Bytes)}

/-- What the task makes of what a reply does to the reading of the frame. -/
def afterRead (policy : ReadPolicy) (stats : Acquisition.Stats) (slot : Slot ρ)
    (out : (Progress (FrameRead m.codec.size) (FrameRead.Result m.codec.size) × Uart m) ×
      Array Notice) :
    Acquisition.StepProgress (sensor m policy) × Site m :=
  let read := Activity.finish (AirStation.Uart.received m.codec) out.1.1 out.1.2 out.2
  (Acquisition.received read.1.1 (⟨read.1.2, .awaitingResponse, stats⟩, slot) read.2).1

theorem afterRead_done (result : Except TransportError Unit) (js : Array Notice) :
    afterRead policy stats slot ((.done (frame, result), u), js) =
      (.done (), (⟨u, .validating frame, stats⟩, slot)) := by
  rcases result with (_ | _) | _ <;> rfl

/-- A reply after which the reading goes on. -/
theorem receiving_paused (js : Array Notice) (h : (r.resume reply u js).1 = (.paused r', u)) :
    ((stepping m policy pace).resume (.receiving r) reply (⟨u, .awaitingResponse, stats⟩, slot)
      js).1 = (.paused (.receiving r'), (⟨u, .awaitingResponse, stats⟩, slot)) := by
  have hout : r.resume reply u js = ((.paused r', u), (r.resume reply u js).2) := Prod.ext h rfl
  exact congrArg (afterRead policy stats slot) hout

/-- A reply after which the frame is handed on, complete or not. -/
theorem receiving_done {result : Except TransportError Unit} (js : Array Notice)
    (h : (r.resume reply u js).1 = (.done (frame, result), u)) :
    ((stepping m policy pace).resume (.receiving r) reply (⟨u, .awaitingResponse, stats⟩, slot)
      js).1 = (.done (), (⟨u, .validating frame, stats⟩, slot)) := by
  have hout : r.resume reply u js = ((.done (frame, result), u), (r.resume reply u js).2) :=
    Prod.ext h rfl
  exact (congrArg (afterRead policy stats slot) hout).trans (afterRead_done result _)

/-- The next chunk of what is on the line and still fits is added to the frame. -/
theorem append_chunk {n : Nat} {f : Frame n} {rx : Bytes} (hrx : rx ≠ [])
    (htotal : (f.received ++ rx).length = n) :
    rx.take (min f.room chunkLength) ≠ [] ∧
      (f.append (rx.take (min f.room chunkLength))).received ++
        rx.drop (min f.room chunkLength) = f.received ++ rx := by
  have hpos : 0 < rx.length := List.length_pos_iff.2 hrx
  have hroom : f.room = rx.length := by
    rw [List.length_append] at htotal
    rw [Frame.room, Frame.filled]
    omega
  have hcount : 0 < min f.room chunkLength := Nat.lt_min.2 ⟨hroom ▸ hpos, by decide⟩
  have hfits : (rx.take (min f.room chunkLength)).length ≤ f.room := by
    rw [List.length_take, hroom]
    exact Nat.min_le_right _ _
  constructor
  · refine List.length_pos_iff.1 ?_
    rw [List.length_take]
    exact Nat.lt_min.2 ⟨hcount, hpos⟩
  · rw [Frame.received_append, List.take_of_length_le hfits, List.append_assoc,
      List.take_append_drop]

/-- A frame is complete where nothing of it is on the line any more. -/
theorem isComplete_iff {n : Nat} {f : Frame n} {rx : Bytes}
    (htotal : (f.received ++ rx).length = n) : f.isComplete = true ↔ rx = [] := by
  rw [List.length_append] at htotal
  rw [Frame.isComplete, beq_iff_eq, Frame.filled, ← List.length_eq_zero_iff]
  omega

/-- Where the rest of an answer is on the line, the frame is completed with it. -/
theorem comes_received (hlimit : chunkDelay < policy.limit) {bs : Bytes}
    (hlen : bs.length = m.codec.size) (hrx : u.rx ≠ []) (hbs : r.frame.received ++ u.rx = bs) :
    Comes (stepping m policy pace) (attend m policy) (.paused (.receiving r))
      (⟨u, .awaitingResponse, stats⟩, slot) ()
      (⟨{ u with rx := [] }, .validating ⟨bs, Nat.le_of_eq hlen⟩, stats⟩, slot) := by
  -- By induction on what is still on the line: every chunk leaves less of it.
  induction hn : u.rx.length using Nat.strongRecOn generalizing u r with
  | ind n ih =>
    let count := min r.frame.room chunkLength
    obtain ⟨hchunk, hreceived⟩ := append_chunk hrx ((congrArg List.length hbs).trans hlen)
    rw [hbs] at hreceived
    refine Timed.comes_of_brings (brings_chunk _ hrx hlimit r.frame.room) fun js => ?_
    let u' : Uart m := { u with rx := u.rx.drop count }
    let f' := r.frame.append (u.rx.take count)
    have hresume : (r.resume (.ready (.ok (u.rx.take count))) u' js).1 =
        (FrameRead.proceed { r with frame := f' }, u') := r.resume_bytes hchunk u' js
    have hcomplete : f'.isComplete = true ↔ u'.rx = [] :=
      isComplete_iff ((congrArg List.length hreceived).trans hlen)
    change f'.received ++ u'.rx = bs at hreceived
    by_cases hlast : u'.rx = []
    · rw [hlast, List.append_nil] at hreceived
      have hframe : f' = ⟨bs, Nat.le_of_eq hlen⟩ := Frame.ext_received hreceived
      have hu' : u' = { u with rx := [] } :=
        congrArg (fun rx : Bytes => ({ u with rx } : Uart m)) hlast
      rw [FrameRead.proceed, if_pos (hcomplete.2 hlast), hframe] at hresume
      exact ⟨_, _, receiving_done js hresume, hu' ▸ Timed.comes_done () _⟩
    · rw [FrameRead.proceed, if_neg fun hfull => hlast (hcomplete.1 hfull)] at hresume
      have hless : u'.rx.length < n := by
        have htake : 0 < (u.rx.take count).length := List.length_pos_iff.2 hchunk
        rw [List.length_take] at htake
        rw [List.length_drop]
        omega
      exact ⟨_, _, receiving_paused js hresume, ih _ hless hlast hreceived rfl⟩

/-- Where nothing is on the line, the budget runs out and the frame stays empty. -/
theorem comes_silent (hmax : policy.retries ≠ 255) (hpos : 0 < m.codec.size)
    (hrx : u.rx = []) (hr : r.frame = .empty) (hb : RetryBudget.Tolerates policy.retries r.budget) :
    Comes (stepping m policy pace) (attend m policy) (.paused (.receiving r))
      (⟨u, .awaitingResponse, stats⟩, slot) ()
      (⟨u, .validating .empty, stats⟩, slot) := by
  have hopen : (Frame.empty : Frame m.codec.size).isComplete = false := by
    simp only [Frame.isComplete, Frame.filled, Frame.empty, List.length_nil, beq_eq_false_iff_ne]
    omega
  have hresume (r : FrameRead m.codec.size) (js : Array Notice) :
      (r.resume .expired u js).1 = (r.fail, u) := rfl
  -- By induction on the failures that are still tolerated.
  induction hk : policy.retries.toNat - r.budget.failures.toNat using Nat.strongRecOn
    generalizing r with
  | ind k ih =>
    refine Timed.comes_of_brings (brings_silence _ hrx _ _) fun js => ?_
    rcases r.fail_cases with ⟨hfail, hle⟩ | ⟨hfail, -⟩
    · have hsucc := (hb.countsOn hmax).toNat_succ
      rw [FrameRead.proceed, if_neg (by simp [hr, hopen])] at hfail
      rw [hb.1, hsucc] at hle
      have hpaused : (r.resume .expired u js).1 =
          (.paused { r with budget := r.budget.consume }, u) := hfail ▸ hresume r js
      have hless : policy.retries.toNat - r.budget.consume.failures.toNat < k := by
        simp only [RetryBudget.consume, hsucc]
        omega
      exact ⟨_, _, receiving_paused js hpaused, ih _ hless hr ⟨hb.1, hsucc ▸ hle⟩ rfl⟩
    · exact ⟨_, _, receiving_done js (hfail ▸ hresume r js), hr ▸ Timed.comes_done () _⟩

/-- A whole answer comes in as a whole, and of no answer nothing does. -/
theorem steps_awaiting (hlimit : chunkDelay < policy.limit) (hmax : policy.retries ≠ 255)
    (hpos : 0 < m.codec.size) (hfits : u.rx.length ≤ m.codec.size)
    (hrx : u.rx = [] ∨ u.rx.length = m.codec.size) :
    Steps policy pace (⟨u, .awaitingResponse, stats⟩, slot)
      (⟨{ u with rx := [] }, .validating ⟨u.rx, hfits⟩, stats⟩, slot) := by
  let r : FrameRead m.codec.size := ⟨Frame.empty.clear, .ofMax policy.retries⟩
  have hopen : ¬ r.frame.isComplete = true := by
    intro hc
    have hzero : 0 = m.codec.size := beq_iff_eq.1 hc
    omega
  have hproceed : r.proceed = .paused r := by rw [FrameRead.proceed, if_neg hopen]
  have hstart (js : Array Notice) :
      ((stepping m policy pace).start (⟨u, .awaitingResponse, stats⟩, slot) js).1 =
        (.paused (.receiving r), (⟨u, .awaitingResponse, stats⟩, slot)) :=
    congrArg (fun p => afterRead policy stats slot ((p, u), js)) hproceed
  refine steps_of_comes fun js => ?_
  rw [hstart js]
  by_cases hsilent : u.rx = []
  · have hframe : (⟨u.rx, hfits⟩ : Frame m.codec.size) = .empty := Frame.ext_received hsilent
    have hu : ({ u with rx := [] } : Uart m) = u := by rw [← hsilent]
    rw [hframe, hu]
    exact comes_silent hmax hpos hsilent rfl (RetryBudget.tolerates_ofMax _)
  · exact comes_received hlimit (hrx.resolve_left hsilent) hsilent rfl

end Receiving

/-! ### From rest to rest -/

/-- A cycle: steps until the task is at rest again. -/
inductive Cycle (policy : ReadPolicy) (pace : Pace) : Site m → Site m → Prop where
  | last {s t : Site m} : Performs (stepping m policy pace) (attend m policy) s () t →
      t.1.phase.isRest = true → Cycle policy pace s t
  | more {s t v : Site m} : Performs (stepping m policy pace) (attend m policy) s () t →
      t.1.phase.isRest = false → Cycle policy pace t v → Cycle policy pace s v

theorem Steps.cycle_iff {s t v : Site m} (h : Steps policy pace s t)
    (ht : t.1.phase.isRest = false) : Cycle policy pace s v ↔ Cycle policy pace t v := by
  constructor
  · intro hc
    cases hc with
    | last hp hrest =>
      rw [(h _ _).1 hp, ht] at hrest
      exact absurd hrest Bool.false_ne_true
    | more hp hrest hc => exact (h _ _).1 hp ▸ hc
  · exact .more ((h _ _).2 rfl) ht

theorem Steps.rests_iff {s t v : Site m} (h : Steps policy pace s t)
    (ht : t.1.phase.isRest = true) : Cycle policy pace s v ↔ v = t := by
  constructor
  · intro hc
    cases hc with
    | last hp hrest => exact (h _ _).1 hp
    | more hp hrest hc =>
      rw [(h _ _).1 hp, ht] at hrest
      exact absurd hrest.symm Bool.false_ne_true
  · rintro rfl
    exact .last ((h _ _).2 rfl) ht

/-- The reading a cycle stores. -/
def yielded : Except SensorError ρ → ρ
  | .ok r => r
  | .error _ => 0

/-- A cycle of a task at rest has one outcome: the answer to its request is taken from the line
and the reading in it is stored, or else the zero reading. -/
theorem cycle_iff (hfaithful : m.Faithful) (hlimit : chunkDelay < policy.limit)
    (hmax : policy.retries ≠ 255) (hfree : slot.held = false) (v : Site m) :
    Cycle policy pace (⟨u, .idle, stats⟩, slot) v ↔
      v = (⟨{ u with rx := [], requests := u.requests + 1 }, .idle,
          turned stats (verdict m u.faults (u.requests + 1))⟩,
        ⟨false, slot.state.store (yielded (verdict m u.faults (u.requests + 1)))⟩) := by
  let k := u.requests + 1
  let read : Uart m := { u with rx := [], requests := k }
  have hawaiting : Steps policy pace (⟨answered u, .awaitingResponse, stats⟩, slot)
      (⟨read, .validating ⟨response m u.faults k, response_fits m u.faults k⟩, stats⟩, slot) :=
    steps_awaiting hlimit hmax hfaithful.size_pos (response_fits m u.faults k)
      (response_length u.faults k)
  rw [(steps_idle u stats slot).cycle_iff rfl,
    (steps_requesting u stats slot hfaithful.request_ne_nil).cycle_iff rfl,
    hawaiting.cycle_iff rfl]
  rcases hv : verdict m u.faults k with e | r
  · rw [(steps_invalid read stats slot hv).cycle_iff rfl,
      (steps_storing read _ slot 0 hfree).cycle_iff rfl, (steps_sleeping read _ _).rests_iff rfl]
    rfl
  · rw [(steps_valid read stats slot hv).cycle_iff rfl,
      (steps_storing read stats slot r hfree).cycle_iff rfl,
      (steps_sleeping read stats _).rests_iff rfl]
    rfl

end AirStation.Simulation.Uart
