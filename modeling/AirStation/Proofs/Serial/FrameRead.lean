import AirStation.Proofs.Serial.Line
import AirStation.Serial.FrameRead

/-! The reading of one frame against the trace of its line. At every pause the frame holds
just what the reads have delivered, in order, and the budget counts just the reads that
brought nothing. The reading ends with a full frame only while that budget has not run
out. -/

namespace AirStation

/-- A budget has run out after so many failures. The counter stays at 255, so a budget of
255 never does. -/
def RetryBudget.RanOut (max : UInt8) (failures : Nat) : Prop := max.toNat < min failures 255

/-- Frames that hold the same bytes are the same. -/
theorem Frame.ext_received {n : Nat} {f g : Frame n} (h : f.received = g.received) : f = g := by
  cases f
  cases g
  cases h
  rfl

namespace FrameRead

open Serial.Line

variable {n : Nat} {policy : ReadPolicy} {t : Trace}

/-- The reading agrees with the reads so far. -/
structure Tracks (policy : ReadPolicy) (t : Trace) (r : FrameRead n) : Prop where
  received : r.frame.received = t.delivered
  failures : r.budget.failures.toNat = min t.emptyReads 255
  max : r.budget.max = policy.retries
  inTime : ¬ RetryBudget.RanOut policy.retries t.emptyReads

/-- A frame as it came of the reads so far, complete only in time. -/
structure Gathered (policy : ReadPolicy) (t : Trace) (f : Frame n) : Prop where
  received : f.received = t.delivered
  inTime : f.isComplete = true → ¬ RetryBudget.RanOut policy.retries t.emptyReads

/-- Only reads matter to the reading of a frame. -/
theorem Tracks.concat {r : FrameRead n} (h : Tracks policy t r) {e : Event}
    (hd : e.delivery = []) (he : e.isEmptyRead = false) : Tracks policy (t ++ [e]) r where
  received := by rw [Trace.delivered_concat, hd, List.append_nil, h.received]
  failures := by
    rw [Trace.emptyReads_concat, he]
    exact h.failures
  max := h.max
  inTime := by
    rw [Trace.emptyReads_concat, he]
    exact h.inTime

theorem Gathered.concat {f : Frame n} (h : Gathered policy t f) {e : Event}
    (hd : e.delivery = []) (he : e.isEmptyRead = false) : Gathered policy (t ++ [e]) f where
  received := by rw [Trace.delivered_concat, hd, List.append_nil, h.received]
  inTime := by
    rw [Trace.emptyReads_concat, he]
    exact h.inTime

/-- Where the reading of a frame stands after the reads so far. -/
def Stands (policy : ReadPolicy) (t : Trace) : Progress (FrameRead n) (Result n) → Prop
  | .paused r => Tracks policy t r ∧ r.frame.isComplete = false
  | .done (f, _) => Gathered policy t f

theorem proceed_stands {r : FrameRead n} (h : Tracks policy t r) : Stands policy t r.proceed := by
  unfold proceed
  split
  next hc => exact ⟨h.received, fun _ => h.inTime⟩
  next hc => exact ⟨h, Bool.eq_false_iff.2 hc⟩

theorem start_stands (hd : t.delivered = []) (he : t.emptyReads = 0) :
    Stands policy t (proceed (n := n) ⟨.empty, .ofMax policy.retries⟩) := by
  apply proceed_stands
  exact {
    received := hd.symm
    failures := by rw [he]; rfl
    max := rfl
    inTime := by
      rw [he, RetryBudget.RanOut, Nat.zero_min]
      exact Nat.not_lt_zero _ }

/-- A read that brings nothing counts once: the reading goes on, or the budget has run out. -/
theorem fail_cases (r : FrameRead n) :
    (r.fail = proceed { r with budget := r.budget.consume } ∧
        (RetryBudget.succ r.budget.failures).toNat ≤ r.budget.max.toNat) ∨
      (r.fail = .done (r.frame, .error (.exhausted r.frame.filled n)) ∧
        r.budget.max.toNat < (RetryBudget.succ r.budget.failures).toNat) := by
  rcases r.budget.recordFailure_cases with ⟨hrec, hle⟩ | ⟨hrec, hlt⟩
  · exact .inl ⟨by rw [fail, hrec], hle⟩
  · exact .inr ⟨by rw [fail, hrec], hlt⟩

/-- A read brings nothing or adds to the frame. -/
theorem resume_cases {σ : Type} (r : FrameRead n) (reply : Timed (Except PortFault Bytes)) (s : σ)
    (js : Array Notice) :
    ((Event.read reply).isEmptyRead = true ∧ (Event.read reply).delivery = [] ∧
        (r.resume reply s js).1 = (r.fail, s)) ∨
      ∃ bs, bs ≠ [] ∧ reply = .ready (.ok bs) ∧
        (r.resume reply s js).1 = (proceed { r with frame := r.frame.append bs }, s) := by
  cases reply with
  | expired => exact .inl ⟨rfl, rfl, rfl⟩
  | ready result =>
    cases result with
    | error fault => exact .inl ⟨rfl, rfl, rfl⟩
    | ok bs =>
      cases bs with
      | nil => exact .inl ⟨rfl, rfl, rfl⟩
      | cons b bs => exact .inr ⟨b :: bs, List.cons_ne_nil b bs, rfl, rfl⟩

theorem resume_bytes {σ : Type} (r : FrameRead n) {bs : Bytes} (hne : bs ≠ []) (s : σ)
    (js : Array Notice) :
    (r.resume (.ready (.ok bs)) s js).1 = (proceed { r with frame := r.frame.append bs }, s) := by
  cases bs with
  | nil => exact absurd rfl hne
  | cons b bs => rfl

theorem fail_stands {r : FrameRead n} (h : Tracks policy t r) (hi : r.frame.isComplete = false)
    {e : Event} (he : e.isEmptyRead = true) (hd : e.delivery = []) :
    Stands policy (t ++ [e]) r.fail := by
  have hdel : Trace.delivered (t ++ [e]) = t.delivered := by
    rw [Trace.delivered_concat, hd, List.append_nil]
  have hcount : Trace.emptyReads (t ++ [e]) = t.emptyReads + 1 := by
    rw [Trace.emptyReads_concat, if_pos he]
  have hfail : (RetryBudget.succ r.budget.failures).toNat = min (t.emptyReads + 1) 255 := by
    rw [RetryBudget.toNat_succ, h.failures]
    omega
  rcases r.fail_cases with ⟨hres, hle⟩ | ⟨hres, -⟩
  · rw [hres]
    refine proceed_stands {
      received := h.received.trans hdel.symm
      failures := hcount ▸ hfail
      max := h.max
      inTime := ?_ }
    rw [RetryBudget.RanOut, hcount, ← hfail, ← h.max]
    exact Nat.not_lt.2 hle
  · rw [hres]
    exact {
      received := h.received.trans hdel.symm
      inTime := fun hc => absurd hc (by simp [hi]) }

/-- A read that brings something adds it to the frame. -/
theorem append_stands {r : FrameRead n} (h : Tracks policy t r) {bs : Bytes}
    (hroom : bs.length ≤ r.frame.room) (hne : bs ≠ []) :
    Stands policy (t ++ [.read (.ready (.ok bs))])
      (proceed { r with frame := r.frame.append bs }) := by
  have hcount : Trace.emptyReads (t ++ [.read (.ready (.ok bs))]) = t.emptyReads := by
    rw [Trace.emptyReads_concat, if_neg (by simp [Event.isEmptyRead, hne]), Nat.add_zero]
  refine proceed_stands {
    received := ?_
    failures := hcount ▸ h.failures
    max := h.max
    inTime := hcount ▸ h.inTime }
  rw [Frame.received_append, List.take_of_length_le hroom, h.received, Trace.delivered_concat]
  rfl

variable {σ P : Type}

/-- Whatever a read comes back with, the reading stays in agreement with the trace. -/
theorem resume_stands {r : FrameRead n} (h : Tracks policy t r) (hi : r.frame.isComplete = false)
    {reply : Timed (Except PortFault Bytes)} {l l' : Serial.Line P}
    (hread : Reads r.frame.room reply l l') (s : σ) (js : Array Notice) :
    ∃ p js', r.resume reply s js = ((p, s), js') ∧ Stands policy (t ++ [.read reply]) p := by
  cases hread with
  | silence => exact ⟨_, _, rfl, fail_stands h hi rfl rfl⟩
  | fault e => exact ⟨_, _, rfl, fail_stands h hi rfl rfl⟩
  | bytes bs rest hroom hpending =>
    cases bs with
    | nil => exact ⟨_, _, rfl, fail_stands h hi rfl rfl⟩
    | cons b bs => exact ⟨_, _, rfl, append_stands h hroom (by simp)⟩

end FrameRead

end AirStation
