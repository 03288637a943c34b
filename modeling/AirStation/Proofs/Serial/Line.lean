import AirStation.Serial.Port

/-! A serial line that is watched. Behind any port stands a line that keeps what has come
and was neither read nor dropped, and a trace of everything that happens on it: input that
comes, input that is dropped, what is offered to the port and how much of it is taken,
flushes, and what reads find. The port behaves as it would unwatched. Sending a command
drops all the input there is, once and first; it succeeds only if the port took the whole
command, in order, and flushed it. -/

namespace AirStation.Serial

namespace Line

inductive Event where
  | came (bs : Bytes)
  | dropped
  | wrote (offered : Bytes) (result : Except PortFault Nat)
  | flushed (result : Except PortFault Unit)
  | read (result : Timed (Except PortFault Bytes))

namespace Event

/-- The input that comes with an event. -/
def arrival : Event → Bytes
  | came bs => bs
  | _ => []

/-- What a read brings. -/
def delivery : Event → Bytes
  | read (.ready (.ok bs)) => bs
  | _ => []

/-- What the port takes: one byte at least, and never more than it is offered. -/
def acceptance : Event → Bytes
  | wrote offered (.ok taken) => offered.take (max taken 1)
  | _ => []

/-- A read that brings nothing: it is silent, fails, or comes back empty. -/
def isEmptyRead : Event → Bool
  | read (.ready (.ok bs)) => bs.isEmpty
  | read _ => true
  | _ => false

end Event

abbrev Trace := List Event

namespace Trace

def arrivals (t : Trace) : Bytes := t.flatMap Event.arrival

def delivered (t : Trace) : Bytes := t.flatMap Event.delivery

def accepted (t : Trace) : Bytes := t.flatMap Event.acceptance

/-- How many reads brought nothing. -/
def emptyReads (t : Trace) : Nat := t.countP Event.isEmptyRead

variable (t u : Trace)

theorem arrivals_append : arrivals (t ++ u) = t.arrivals ++ u.arrivals := List.flatMap_append

theorem delivered_append : delivered (t ++ u) = t.delivered ++ u.delivered := List.flatMap_append

theorem accepted_append : accepted (t ++ u) = t.accepted ++ u.accepted := List.flatMap_append

theorem emptyReads_append : emptyReads (t ++ u) = t.emptyReads + u.emptyReads :=
  List.countP_append

variable (e : Event)

theorem arrivals_concat : arrivals (t ++ [e]) = t.arrivals ++ e.arrival := by
  rw [arrivals_append, arrivals, arrivals, List.flatMap_singleton]

theorem delivered_concat : delivered (t ++ [e]) = t.delivered ++ e.delivery := by
  rw [delivered_append, delivered, delivered, List.flatMap_singleton]

theorem accepted_concat : accepted (t ++ [e]) = t.accepted ++ e.acceptance := by
  rw [accepted_append, accepted, accepted, List.flatMap_singleton]

theorem emptyReads_concat :
    emptyReads (t ++ [e]) = t.emptyReads + if e.isEmptyRead then 1 else 0 := by
  rw [emptyReads_append, emptyReads, emptyReads, List.countP_singleton]

end Trace

end Line

structure Line (P : Type) where
  port : P
  /-- What has come and was neither read nor dropped. -/
  pending : Bytes
  trace : Line.Trace

namespace Line

variable {P : Type}

def portPart : Part (Line P) P := ⟨Line.port, fun p l => { l with port := p }⟩

/-- The line with one event more. -/
def record (e : Event) (l : Line P) : Line P := { l with trace := l.trace ++ [e] }

/-- Input comes. -/
def come (bs : Bytes) (l : Line P) : Line P :=
  { l with pending := l.pending ++ bs, trace := l.trace ++ [.came bs] }

/-- How a read may end: it takes what stands first among what has come, at most as much as
there is room for, or it brings nothing. -/
inductive Reads (room : Nat) : Timed (Except PortFault Bytes) → Line P → Line P → Prop where
  | bytes (bs rest : Bytes) {l : Line P} : bs.length ≤ room → l.pending = bs ++ rest →
      Reads room (.ready (.ok bs)) l { l.record (.read (.ready (.ok bs))) with pending := rest }
  | fault (e : PortFault) (l : Line P) :
      Reads room (.ready (.error e)) l (l.record (.read (.ready (.error e))))
  | silence (l : Line P) : Reads room .expired l (l.record (.read .expired))

variable [SerialPort P]

/-- The port through which the line is used. -/
instance : SerialPort (Line P) where
  discard := do
    (SerialPort.discard : Act P Unit).on portPart
    modify fun l => { l.record .dropped with pending := [] }
  write bs := do
    let r ← (SerialPort.write bs : Act P _).on portPart
    modify (record (.wrote bs r))
    pure r
  flush := do
    let r ← (SerialPort.flush : Act P _).on portPart
    modify (record (.flushed r))
    pure r
  arrive room := (SerialPort.arrive room : Act P _).on portPart
  deliver room := (SerialPort.deliver room : Act P _).on portPart

theorem discard_apply (l : Line P) (js : Array Notice) :
    (SerialPort.discard : Act (Line P) Unit) l js =
      (((), ⟨((SerialPort.discard : Act P Unit) l.port js).1.2, [], l.trace ++ [.dropped]⟩),
        ((SerialPort.discard : Act P Unit) l.port js).2) := rfl

theorem write_apply (bs : Bytes) (l : Line P) (js : Array Notice) :
    SerialPort.write bs l js =
      (((SerialPort.write bs l.port js).1.1,
        ⟨(SerialPort.write bs l.port js).1.2, l.pending,
          l.trace ++ [.wrote bs (SerialPort.write bs l.port js).1.1]⟩),
        (SerialPort.write bs l.port js).2) := rfl

theorem flush_apply (l : Line P) (js : Array Notice) :
    (SerialPort.flush : Act (Line P) _) l js =
      ((((SerialPort.flush : Act P _) l.port js).1.1,
        ⟨((SerialPort.flush : Act P _) l.port js).1.2, l.pending,
          l.trace ++ [.flushed ((SerialPort.flush : Act P _) l.port js).1.1]⟩),
        ((SerialPort.flush : Act P _) l.port js).2) := rfl

/-! ### Sending -/

/-- The trace of an attempt to write some bytes: it holds writes only, and if the attempt
succeeded the port has taken just these bytes. -/
structure Writing (bs : Bytes) (result : Except PortFault Unit) (t : Trace) : Prop where
  writes : ∀ e ∈ t, ∃ offered r, e = .wrote offered r
  accepted : result = .ok () → t.accepted = bs

/-- Bytes are written to the port as if nobody watched. -/
theorem writeAll_apply (bs : Bytes) (l : Line P) (js : Array Notice) :
    ∃ t, Writing bs (writeAll bs l.port js).1.1 t ∧
      writeAll bs l js =
        (((writeAll bs l.port js).1.1,
          ⟨(writeAll bs l.port js).1.2, l.pending, l.trace ++ t⟩),
          (writeAll bs l.port js).2) := by
  induction bs using writeAll.induct generalizing l js with
  | case1 =>
    refine ⟨[], ⟨by simp, fun _ => rfl⟩, ?_⟩
    rw [writeAll, writeAll, List.append_nil]
    rfl
  | case2 b rest ih =>
    rw [writeAll, writeAll]
    simp only [Act.bind_apply, write_apply]
    obtain ⟨⟨r, port⟩, js'⟩ := SerialPort.write (b :: rest) l.port js
    cases r with
    | error fault =>
      refine ⟨[.wrote (b :: rest) (.error fault)], ⟨?_, by simp⟩, rfl⟩
      intro e he
      exact ⟨_, _, List.mem_singleton.1 he⟩
    | ok taken =>
      obtain ⟨t, ht, hrest⟩ :=
        ih taken ⟨port, l.pending, l.trace ++ [.wrote (b :: rest) (.ok taken)]⟩ js'
      refine ⟨.wrote (b :: rest) (.ok taken) :: t, ⟨?_, ?_⟩, ?_⟩
      · intro e he
        rcases List.mem_cons.1 he with rfl | he
        · exact ⟨_, _, rfl⟩
        · exact ht.writes e he
      · intro hok
        have htake : (b :: rest).take (max taken 1) = b :: rest.take (taken - 1) := by
          cases taken with
          | zero => rfl
          | succ n => rw [Nat.max_eq_left (by omega), List.take_succ_cons, Nat.add_sub_cancel]
        calc
          Trace.accepted (.wrote (b :: rest) (.ok taken) :: t)
              = (b :: rest).take (max taken 1) ++ t.accepted := List.flatMap_cons
          _ = b :: (rest.take (taken - 1) ++ rest.drop (taken - 1)) := by
            rw [htake, ht.accepted hok, List.cons_append]
          _ = b :: rest := by rw [List.take_append_drop]
      · refine hrest.trans ?_
        rw [List.append_assoc]
        rfl

/-- The trace of an attempt to send a command: first what has come is dropped, and then
the port takes the whole command and flushes it, or nothing is flushed. -/
structure Sending (command : Bytes) (result : Except TransportError Unit) (t : Trace) :
    Prop where
  dropped : .dropped ∉ t
  unread : t.delivered = [] ∧ t.arrivals = [] ∧ t.emptyReads = 0
  accepted : result = .ok () → t.accepted = command
  flushed_iff : .flushed (.ok ()) ∈ t ↔ result = .ok ()

theorem Writing.unread {bs : Bytes} {r : Except PortFault Unit} {t : Trace}
    (h : Writing bs r t) : t.delivered = [] ∧ t.arrivals = [] ∧ t.emptyReads = 0 := by
  refine ⟨List.flatMap_eq_nil_iff.2 ?_, List.flatMap_eq_nil_iff.2 ?_, List.countP_eq_zero.2 ?_⟩ <;>
    · intro e he
      obtain ⟨offered, r, rfl⟩ := h.writes e he
      simp [Event.delivery, Event.arrival, Event.isEmptyRead]

theorem Writing.not_mem {bs : Bytes} {r : Except PortFault Unit} {t : Trace}
    (h : Writing bs r t) {e : Event} (he : ∀ offered r, e ≠ .wrote offered r) : e ∉ t := by
  intro hin
  obtain ⟨offered, r, hw⟩ := h.writes e hin
  exact he offered r hw

/-- The trace of writes with one flush behind them. -/
theorem Writing.flush {bs : Bytes} {t : Trace} (h : Writing bs (.ok ()) t)
    (f : Except PortFault Unit) :
    Sending bs (f.mapError .write) (t ++ [.flushed f]) where
  dropped hin := by
    rcases List.mem_append.1 hin with hin | hin
    · exact h.not_mem (by simp) hin
    · simp at hin
  unread := by
    obtain ⟨hd, ha, he⟩ := h.unread
    rw [Trace.delivered_append, Trace.arrivals_append, Trace.emptyReads_append, hd, ha, he]
    exact ⟨rfl, rfl, rfl⟩
  accepted _ := by
    rw [Trace.accepted_append, h.accepted rfl]
    exact List.append_nil bs
  flushed_iff := by
    rw [List.mem_append, or_iff_right (h.not_mem (by simp))]
    cases f with
    | error fault =>
      change _ ↔ (.error (.write fault) : Except TransportError Unit) = .ok ()
      simp
    | ok u =>
      change _ ↔ (.ok () : Except TransportError Unit) = .ok ()
      simp

theorem Writing.fail {bs : Bytes} {fault : PortFault} {t : Trace}
    (h : Writing bs (.error fault) t) : Sending bs (.error (.write fault)) t where
  dropped := h.not_mem (by simp)
  unread := h.unread
  accepted := by simp
  flushed_iff := iff_of_false (h.not_mem (by simp)) (by simp)

/-- A command is sent to the port as if nobody watched. -/
theorem send_apply (command : Bytes) (l : Line P) (js : Array Notice) :
    ∃ t, Sending command (send command l.port js).1.1 t ∧
      send command l js =
        (((send command l.port js).1.1,
          ⟨(send command l.port js).1.2, [], l.trace ++ .dropped :: t⟩),
          (send command l.port js).2) := by
  simp only [send, Act.bind_apply, discard_apply]
  obtain ⟨⟨⟨⟩, port⟩, js₁⟩ := (SerialPort.discard : Act P Unit) l.port js
  obtain ⟨t, ht, hwrite⟩ := writeAll_apply command ⟨port, [], l.trace ++ [.dropped]⟩ js₁
  simp only at ht
  simp only [hwrite]
  generalize writeAll command port js₁ = written at ht ⊢
  obtain ⟨⟨r, port⟩, js₂⟩ := written
  cases r with
  | error fault =>
    refine ⟨t, ht.fail, ?_⟩
    rw [List.append_assoc]
    rfl
  | ok u =>
    simp only [Act.bind_apply, flush_apply]
    generalize (SerialPort.flush : Act P _) port js₂ = flushed
    obtain ⟨⟨f, port⟩, js₃⟩ := flushed
    have hsend := ht.flush f
    cases f with
    | error fault =>
      refine ⟨_, hsend, ?_⟩
      rw [List.append_assoc, List.append_assoc]
      rfl
    | ok u =>
      refine ⟨_, hsend, ?_⟩
      rw [List.append_assoc, List.append_assoc]
      rfl

end Line

end AirStation.Serial
