import AirStation.Proofs.Serial.FrameRead
import AirStation.Sensor.Uart

/-! What one cycle of a serial sensor owes to its line. An exchange is what happened on
the line since the cycle dropped what had come before. It brings an answer if the whole
command was written and flushed and the reads delivered the bytes of one answer before
their budget had run out. A reading is accounted for by an exchange if it is the decoded
answer, or the zero reading where there is no answer that can be decoded. -/

namespace AirStation.Acquisition

open Serial Serial.Line

variable {ρ P : Type} {c : Codec ρ} {policy : ReadPolicy} {t : Trace} {l l' : Line P}

/-! ### Exchanges -/

/-- The trace of a cycle's line: input that came early, its dropping, and the exchange. -/
structure Since (l : Line P) (t : Trace) : Prop where
  split : ∃ early, l.trace = early ++ .dropped :: t ∧ ∀ e ∈ early, ∃ bs, e = .came bs
  once : .dropped ∉ t
  balance : t.delivered ++ l.pending = t.arrivals

/-- The command was written as a whole and flushed. -/
structure Sent (c : Codec ρ) (t : Trace) : Prop where
  accepted : t.accepted = c.request
  flushed : .flushed (.ok ()) ∈ t

/-- The exchange brought an answer in time. -/
structure Brings (c : Codec ρ) (policy : ReadPolicy) (t : Trace) (v : Vector UInt8 c.size) :
    Prop where
  sent : Sent c t
  delivered : t.delivered = v.toList
  inTime : ¬ RetryBudget.RanOut policy.retries t.emptyReads

/-- A reading that an exchange accounts for. -/
def Accounts [Zero ρ] (c : Codec ρ) (policy : ReadPolicy) (t : Trace) (r : ρ) : Prop :=
  (∃ v, Brings c policy t v ∧ c.decode v = .ok r) ∨
    (r = 0 ∧ ∀ v, Brings c policy t v → ∀ x, c.decode v ≠ .ok x)

/-! ### What goes on meanwhile -/

theorem Since.come (h : Since l t) (bs : Bytes) : Since (l.come bs) (t ++ [.came bs]) where
  split := by
    obtain ⟨early, hl, hearly⟩ := h.split
    refine ⟨early, ?_, hearly⟩
    rw [Line.come, hl, List.append_assoc, List.cons_append]
  once := by simp [h.once]
  balance := by
    rw [Trace.delivered_concat, Trace.arrivals_concat, ← h.balance]
    simp [Event.delivery, Event.arrival, Line.come]

theorem Since.read {room : Nat} {reply : Timed (Except PortFault Bytes)} (h : Since l t)
    (hr : Reads room reply l l') : Since l' (t ++ [.read reply]) where
  split := by
    obtain ⟨early, hl, hearly⟩ := h.split
    refine ⟨early, ?_, hearly⟩
    have htrace : l'.trace = l.trace ++ [.read reply] := by cases hr <;> rfl
    rw [htrace, hl, List.append_assoc, List.cons_append]
  once := by simp [h.once]
  balance := by
    rw [Trace.delivered_concat, Trace.arrivals_concat, ← h.balance]
    cases hr with
    | bytes bs rest hroom hpending => simp [Event.delivery, Event.arrival, hpending]
    | fault e => simp [Event.delivery, Event.arrival, Line.record]
    | silence => simp [Event.delivery, Event.arrival, Line.record]

theorem Since.port (h : Since l t) (p : P) : Since { l with port := p } t :=
  ⟨h.split, h.once, h.balance⟩

theorem Sent.concat {e : Event} (h : Sent c t) (he : e.acceptance = []) : Sent c (t ++ [e]) where
  accepted := by rw [Trace.accepted_concat, he, List.append_nil, h.accepted]
  flushed := List.mem_append_left _ h.flushed

/-- Input that comes neither makes an answer nor spoils one. -/
theorem brings_come_iff (bs : Bytes) (v : Vector UInt8 c.size) :
    Brings c policy (t ++ [.came bs]) v ↔ Brings c policy t v := by
  have hacc : Trace.accepted (t ++ [.came bs]) = t.accepted := by
    rw [Trace.accepted_concat]
    exact List.append_nil _
  have hdel : Trace.delivered (t ++ [.came bs]) = t.delivered := by
    rw [Trace.delivered_concat]
    exact List.append_nil _
  have hcount : Trace.emptyReads (t ++ [.came bs]) = t.emptyReads := Trace.emptyReads_concat _ _
  have hflush : .flushed (.ok ()) ∈ t ++ [.came bs] ↔ .flushed (.ok ()) ∈ t := by simp
  constructor
  · rintro ⟨⟨h₁, h₂⟩, h₃, h₄⟩
    exact ⟨⟨hacc ▸ h₁, hflush.1 h₂⟩, hdel ▸ h₃, hcount ▸ h₄⟩
  · rintro ⟨⟨h₁, h₂⟩, h₃, h₄⟩
    exact ⟨⟨hacc ▸ h₁, hflush.2 h₂⟩, hdel ▸ h₃, hcount ▸ h₄⟩

theorem Accounts.come [Zero ρ] {r : ρ} (h : Accounts c policy t r) (bs : Bytes) :
    Accounts c policy (t ++ [.came bs]) r := by
  unfold Accounts
  simp only [brings_come_iff]
  exact h

/-! ### Frames -/

/-- A frame is handed on as it came; the state of the line is not touched. -/
theorem finish_received (q : Progress (FrameRead c.size) (FrameRead.Result c.size)) (l : Line P)
    (js : Array Notice) :
    (Activity.finish (Uart.received c) q l js).1 = (q.map id fun x => .ok x.1, l) := by
  cases q with
  | paused r => rfl
  | done x =>
    obtain ⟨f, res⟩ := x
    cases res with
    | ok u => rfl
    | error e => cases e <;> rfl

theorem full?_eq_some_iff {n : Nat} {f : Frame n} {v : Vector UInt8 n} :
    f.full? = some v ↔ f.received = v.toList := by
  unfold Frame.full?
  constructor
  · intro h
    split at h
    · cases h
      rfl
    · cases h
  · intro h
    have hlen : f.received.length = n := by simp [h]
    rw [dif_pos hlen]
    congr 1
    apply Vector.toList_inj.1
    rw [← h]
    rfl

/-- A frame that the reads of an exchange have filled is its answer, and a frame they have
not filled shows that there is none. -/
theorem brings_iff (hsent : Sent c t) {f : Frame c.size} (hf : FrameRead.Gathered policy t f)
    (v : Vector UInt8 c.size) : Brings c policy t v ↔ f.full? = some v := by
  rw [full?_eq_some_iff, hf.received]
  constructor
  · exact Brings.delivered
  · intro hv
    refine ⟨hsent, hv, hf.inTime ?_⟩
    simp [Frame.isComplete, Frame.filled, hf.received, hv]

/-- What is read off a frame that was found valid is the decoded answer. -/
theorem accounts_of_validate_ok [Zero ρ] (hsent : Sent c t) {f : Frame c.size}
    (hf : FrameRead.Gathered policy t f) {r : ρ} (h : Uart.validate c f = .ok r) :
    Accounts c policy t r := by
  unfold Uart.validate at h
  cases hfull : f.full? with
  | none =>
    rw [hfull] at h
    cases h
  | some v =>
    rw [hfull] at h
    cases hdecode : c.decode v with
    | ok x =>
      simp only [hdecode, Except.ok.injEq] at h
      subst h
      exact .inl ⟨v, (brings_iff hsent hf v).2 hfull, hdecode⟩
    | error mismatch =>
      simp only [hdecode] at h
      cases h

/-- A frame that was found invalid shows that there is no answer to be decoded. -/
theorem accounts_of_validate_error [Zero ρ] (hsent : Sent c t) {f : Frame c.size}
    (hf : FrameRead.Gathered policy t f) {e : SensorError} (h : Uart.validate c f = .error e) :
    Accounts c policy t 0 := by
  refine .inr ⟨rfl, ?_⟩
  intro v hv x hx
  have hfull := (brings_iff hsent hf v).1 hv
  simp only [Uart.validate, hfull, hx] at h
  cases h

/-- Where no flush has succeeded there is no answer. -/
theorem accounts_of_unsent [Zero ρ] (h : .flushed (.ok ()) ∉ t) : Accounts c policy t 0 :=
  .inr ⟨rfl, fun _ hv => absurd hv.sent.flushed h⟩

/-! ### Requests -/

variable [SerialPort P]

/-- Requesting begins an exchange. It succeeds only if the command is written and flushed,
and where it fails no flush has succeeded. -/
theorem request_apply (c : Codec ρ) (l : Line P) (js : Array Notice) :
    ∃ t port, (Uart.request c l js).1.2 = ⟨port, [], l.trace ++ .dropped :: t⟩ ∧
      (Trace.delivered t = [] ∧ Trace.arrivals t = [] ∧ Trace.emptyReads t = 0) ∧
      .dropped ∉ t ∧
      ((Uart.request c l js).1.1 = .ok () ∧ Sent c t ∨
        (∃ e, (Uart.request c l js).1.1 = .error e) ∧ .flushed (.ok ()) ∉ t) := by
  obtain ⟨t, ht, hsend⟩ := send_apply c.request l js
  refine ⟨t, (send c.request l.port js).1.2, ?_⟩
  simp only [Uart.request, Act.bind_apply, hsend]
  generalize (send c.request l.port js).1.1 = res at ht ⊢
  cases res with
  | ok u =>
    exact ⟨rfl, ht.unread, ht.dropped, .inl ⟨rfl, ht.accepted rfl, ht.flushed_iff.2 rfl⟩⟩
  | error e =>
    refine ⟨rfl, ht.unread, ht.dropped, .inr ⟨⟨_, rfl⟩, ?_⟩⟩
    rw [ht.flushed_iff]
    exact nofun

end AirStation.Acquisition
