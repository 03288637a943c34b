import Mathlib.Data.List.GetD
import AirStation.Proofs.Serial.Scan
import AirStation.Sensor.Uart

/-! Frames and the buffers they stand for. The buffers of frames are those with zeros from the
filled bytes on, and on these the two behave alike: they are cleared, take bytes and tell what
is received in step. So a frame is read into a buffer just as the reading of frames has it,
whatever bytes and whatever count the buffer was left with, and what is left over of it is zero
whenever the reading ends. -/

namespace AirStation

variable {n : Nat}

/-! ### The buffer of a frame -/

namespace Frame

variable (f : Frame n)

theorem isComplete_raw : f.raw.isComplete = f.isComplete := rfl

theorem getElem_raw (i : Nat) (hi : i < n) : f.raw.bytes[i] = f.received.getD i 0 :=
  Vector.getElem_ofFn hi

theorem toList_raw : f.raw.bytes.toList = f.buffer := by
  refine List.ext_getElem (by rw [length_buffer, Vector.length_toList]) fun i hi _ => ?_
  rw [Vector.getElem_toList, getElem_raw]
  simp only [buffer]
  rw [List.getElem_append]
  split
  next hlt => exact List.getD_eq_getElem _ _ hlt
  next hlt => rw [List.getElem_replicate, List.getD_eq_default _ _ (Nat.le_of_not_lt hlt)]

theorem received_raw : f.raw.received = f.received := by
  rw [ReceiveBuffer.received, toList_raw, buffer]
  exact List.take_left

/-- The contents of a complete frame are the bytes of its buffer. -/
theorem full?_eq : f.full? = if f.raw.isComplete then some f.raw.bytes else none := by
  unfold full?
  by_cases h : f.received.length = n
  · have hc : f.raw.isComplete = true := beq_iff_eq.2 h
    rw [dif_pos h, if_pos hc]
    refine congrArg some (Vector.ext fun i hi => ?_)
    rw [getElem_raw, List.getD_eq_getElem _ _ (by omega)]
    rfl
  · have hc : ¬ f.raw.isComplete = true := fun hc => h (beq_iff_eq.1 hc)
    rw [dif_neg h, if_neg hc]

/-- What a port writes into the rest of the buffer is what the frame appends. -/
theorem raw_append (bs : Bytes) : (f.append bs).raw = f.raw.accept bs := by
  refine ReceiveBuffer.ext (Vector.ext fun i hi => ?_) ?_
  · have hget : (f.raw.accept bs).bytes[i] =
        if f.filled ≤ i ∧ i < f.filled + bs.length then bs.getD (i - f.filled) 0
        else f.raw.bytes[i] := Vector.getElem_ofFn hi
    rw [hget, getElem_raw, getElem_raw, received_append]
    rcases Nat.lt_or_ge i f.filled with hold | hnew
    · rw [if_neg (by omega), List.getD_append _ _ _ _ hold]
    have hroom : i - f.filled < f.room := by
      unfold room
      omega
    rw [List.getD_append_right _ _ _ _ hnew]
    change (bs.take f.room).getD (i - f.filled) 0 = _
    rcases Nat.lt_or_ge (i - f.filled) bs.length with hin | hout
    · rw [if_pos ⟨hnew, by omega⟩, List.getD_eq_getElem _ _ hin,
        List.getD_eq_getElem _ _ (by rw [List.length_take]; omega), List.getElem_take]
    · rw [if_neg (by omega), List.getD_eq_default _ _ hnew,
        List.getD_eq_default _ _ (by rw [List.length_take]; omega)]
  · change (f.received ++ bs.take f.room).length = f.filled + min f.room bs.length
    rw [List.length_append, List.length_take, filled]

end Frame

/-! ### The buffers of frames -/

namespace ReceiveBuffer

/-- The count is of bytes in the buffer, and those from there on are zero. -/
structure Padded (b : ReceiveBuffer n) : Prop where
  fits : b.filled ≤ n
  zeros : ∀ i : Fin n, b.filled ≤ i → b.bytes.get i = 0

/-- A buffer that is cleared is that of an empty frame, whatever it was before. -/
theorem clear_eq_raw (b : ReceiveBuffer n) : b.clear = (Frame.empty : Frame n).raw := by
  refine ReceiveBuffer.ext (Vector.ext fun i hi => ?_) rfl
  rw [Frame.getElem_raw]
  exact Vector.getElem_map _ hi

theorem padded_iff (b : ReceiveBuffer n) : b.Padded ↔ ∃ f : Frame n, f.raw = b := by
  constructor
  · intro h
    have hlength : b.received.length = b.filled := by
      rw [received, List.length_take, Vector.length_toList, Nat.min_eq_left h.fits]
    refine ⟨⟨b.received, hlength ▸ h.fits⟩, ReceiveBuffer.ext (Vector.ext fun i hi => ?_) hlength⟩
    rw [Frame.getElem_raw]
    change b.received.getD i 0 = _
    rcases Nat.lt_or_ge i b.filled with hin | hout
    · rw [List.getD_eq_getElem _ _ (by omega)]
      simp [received]
    · rw [List.getD_eq_default _ _ (by omega)]
      exact (h.zeros ⟨i, hi⟩ hout).symm
  · rintro ⟨f, rfl⟩
    refine ⟨f.fits, fun i hi => (f.getElem_raw i i.isLt).trans ?_⟩
    exact List.getD_eq_default _ _ hi

end ReceiveBuffer

/-! ### Reading into a buffer -/

namespace ReceiveBuffer

open FrameRead Serial.Line

variable {b : ReceiveBuffer n} (os : List Outcome) (budget : RetryBudget)

theorem fill_of_isComplete (hc : b.isComplete = true) : b.fill os budget = some (b, .ok ()) := by
  rw [fill.eq_def, if_pos hc]

theorem fill_nil (hi : b.isComplete = false) : b.fill [] budget = none := by
  rw [fill.eq_def, hi]
  rfl

theorem fill_bytes (hi : b.isComplete = false) {bs : Bytes} (hne : bs ≠ []) :
    b.fill (.ready (.ok bs) :: os) budget = (b.accept bs).fill os budget := by
  obtain ⟨x, bs, rfl⟩ := List.exists_cons_of_ne_nil hne
  rw [fill.eq_def, hi]
  rfl

theorem fill_empty (hi : b.isComplete = false) {o : Outcome}
    (ho : (Event.read o).isEmptyRead = true) :
    b.fill (o :: os) budget =
      match budget.recordFailure with
      | (.ok (), budget) => b.fill os budget
      | (.error _, _) => some (b, .error (.exhausted b.filled n)) := by
  rw [fill.eq_def, hi]
  rcases o with ((_ | _ | _) | _) <;> first | rfl | cases ho

end ReceiveBuffer

namespace FrameRead

open Serial.Line

/-- What the reading of a frame comes to from where it stands, with the buffer of the frame that
it ends with. -/
def comesTo (frame : Frame n) (policy : ReadPolicy) (patience : Nat)
    (p : Progress (FrameRead n) (Result n)) (s : Script) (js : Array Notice) :
    Option (ReceiveBuffer n × Except TransportError Unit) :=
  ((into frame policy).drive Script.serve patience p s js).1.1.result?.map fun x => (x.1.raw, x.2)

variable (frame : Frame n) (policy : ReadPolicy) (patience : Nat)

theorem comesTo_done (x : Result n) (s : Script) (js : Array Notice) :
    comesTo frame policy patience (.done x) s js = some (x.1.raw, x.2) := by
  cases patience <;> rfl

theorem comesTo_nil (r : FrameRead n) (asked : List (Millis × Nat)) (js : Array Notice) :
    comesTo frame policy patience (.paused r) ⟨[], asked⟩ js = none := by
  cases patience <;> rfl

/-- With a full frame both are over. -/
theorem comesTo_of_isComplete {r : FrameRead n} (hc : r.frame.isComplete = true)
    (os left : List Outcome) (asked : List (Millis × Nat)) (js : Array Notice) :
    comesTo frame policy patience r.proceed ⟨left, asked⟩ js = r.frame.raw.fill os r.budget := by
  rw [ReceiveBuffer.fill_of_isComplete _ _ (r.frame.isComplete_raw.trans hc), proceed, if_pos hc,
    comesTo_done]

/-- From where the reading of a frame stands it goes on as the loop on its buffer does. -/
theorem comesTo_eq_fill (r : FrameRead n) (os : List Outcome) (asked : List (Millis × Nat))
    {patience : Nat} (hp : os.length ≤ patience) (js : Array Notice) :
    comesTo frame policy patience r.proceed ⟨os, asked⟩ js = r.frame.raw.fill os r.budget := by
  induction os generalizing r asked patience js with
  | nil =>
    cases hc : r.frame.isComplete with
    | true => exact comesTo_of_isComplete frame policy patience hc ..
    | false =>
      rw [ReceiveBuffer.fill_nil _ (r.frame.isComplete_raw.trans hc), proceed, hc]
      exact comesTo_nil ..
  | cons o os ih =>
    cases hc : r.frame.isComplete with
    | true => exact comesTo_of_isComplete frame policy patience hc ..
    | false =>
      have hraw := r.frame.isComplete_raw.trans hc
      obtain ⟨patience, rfl⟩ : ∃ k, patience = k + 1 :=
        ⟨patience - 1, by simp only [List.length_cons] at hp; omega⟩
      replace hp : os.length ≤ patience := Nat.le_of_succ_le_succ hp
      let s : Script := ⟨os, asked ++ [(policy.limit, r.frame.room)]⟩
      have hnext : comesTo frame policy (patience + 1) r.proceed ⟨o :: os, asked⟩ js =
          comesTo frame policy patience (r.resume o s js).1.1 (r.resume o s js).1.2
            (r.resume o s js).2 := by
        rw [proceed, hc]
        rfl
      rw [hnext]
      rcases r.resume_cases o s js with ⟨hempty, -, hres⟩ | ⟨bs, hne, rfl, hres⟩
      · rw [ReceiveBuffer.fill_empty _ _ hraw hempty, hres]
        rcases r.budget.recordFailure_cases with ⟨hrec, -⟩ | ⟨hrec, -⟩
        · rw [fail, hrec]
          exact ih _ _ hp _
        · rw [fail, hrec, comesTo_done]
          rfl
      · rw [ReceiveBuffer.fill_bytes _ _ hraw hne, hres, ← Frame.raw_append]
        exact ih _ _ hp _

/-- A frame is read as the loop on bytes reads into a buffer that it clears first, whatever
either held. -/
theorem into_eq_fill (b : ReceiveBuffer n) (os : List Outcome) (hp : os.length ≤ patience)
    (js : Array Notice) :
    ((into frame policy).perform Script.serve patience ⟨os, []⟩ js).1.1.result?.map
        (fun x => (x.1.raw, x.2)) = b.clear.fill os (.ofMax policy.retries) := by
  rw [b.clear_eq_raw]
  exact comesTo_eq_fill frame policy ⟨.empty, .ofMax policy.retries⟩ os [] hp js

end FrameRead

/-! ### What a reading leaves in a buffer -/

namespace ReceiveBuffer

open FrameRead

/-- However a reading ends, what was not filled is zero. -/
theorem Padded.fill {b : ReceiveBuffer n} (h : b.Padded) {os : List Outcome} {budget : RetryBudget}
    {x : ReceiveBuffer n × Except TransportError Unit} (hx : b.fill os budget = some x) :
    x.1.Padded := by
  obtain ⟨f, rfl⟩ := b.padded_iff.1 h
  have hcomes := comesTo_eq_fill f {} ⟨f, budget⟩ os [] (Nat.le_refl _) #[]
  rw [hx] at hcomes
  obtain ⟨y, -, rfl⟩ := Option.map_eq_some_iff.1 hcomes
  exact (padded_iff _).2 ⟨y.1, rfl⟩

/-- A reading that is over has consumed the outcomes up to where the scan of them is over, and
their bytes stand at the front of the buffer before zeros, whatever it held. -/
theorem fill_scans (b : ReceiveBuffer n) {retries : UInt8} (hmax : retries ≠ 255)
    {os : List Outcome} (hfit : Fits n retries os)
    {x : ReceiveBuffer n × Except TransportError Unit}
    (hx : b.clear.fill os (.ofMax retries) = some x) :
    ∃ pre, pre <+: os ∧ IsOver n retries pre ∧ (∀ i < pre.length, ¬ IsOver n retries (pre.take i)) ∧
      x.1.received = gathered pre ∧
      x.1.bytes.toList = gathered pre ++ List.replicate (n - (gathered pre).length) 0 ∧
      (x.1.isComplete = true ↔ x.2 = .ok ()) := by
  have hinto := into_eq_fill .empty ⟨0, retries⟩ _ b os (Nat.le_refl _) #[]
  obtain ⟨pre, hscans⟩ :=
    perform_scans (.empty : Frame n) ⟨0, retries⟩ hmax hfit (Nat.le_refl _) #[]
  obtain ⟨y, hy, rfl⟩ := Option.map_eq_some_iff.1 (hinto.trans hx)
  have hover : IsOver n retries pre := by
    by_contra hopen
    obtain ⟨-, r, hpaused, -⟩ := hscans.waits hopen
    rw [hpaused] at hy
    cases hy
  obtain ⟨z, hdone, hreports⟩ := hscans.ends hover
  rw [hdone] at hy
  obtain rfl : z = y := Option.some.inj hy
  refine ⟨pre, ⟨_, hscans.split.symm⟩, hover, hscans.shortest, ?_, ?_, hreports.complete_iff⟩
  · rw [Frame.received_raw]
    exact List.append_inj_left hreports.buffer hreports.filled
  · rw [Frame.toList_raw, hreports.buffer]

end ReceiveBuffer

/-- An answer is refused or decoded by the count and the bytes of its buffer alone. -/
theorem Uart.validate_eq {ρ : Type} (c : Codec ρ) (f : Frame c.size) :
    validate c f =
      if f.raw.isComplete then (c.decode f.raw.bytes).mapError (.checksum c.part)
      else .error (.incomplete c.part f.raw.filled c.size) := by
  rw [validate, f.full?_eq]
  cases f.raw.isComplete with
  | false => rfl
  | true =>
    simp only [if_true]
    cases c.decode f.raw.bytes <;> rfl

end AirStation
