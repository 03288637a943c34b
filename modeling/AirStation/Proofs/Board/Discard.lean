import AirStation.Board.Uart
import AirStation.Proofs.Frame.Sealed
import AirStation.Proofs.Serial.Line

/-! What the driver of a serial port still holds once its input was dropped. The reads that empty
the buffer end at the first one that fails, so what stands behind the bytes taken until then stays
and is what the next read of the port finds. With an empty buffer every byte that is ever delivered
has come since; with anything left in it the very next read delivers what had come before. -/

namespace AirStation.Board.Uart

open Serial Serial.Line

/-! ### Reads of the buffer -/

/-- What some reads, none of which fails, take from a buffer that does not run out. -/
def taken : List BufferRead → Nat
  | [] => 0
  | r :: reads => chunk (some r) + taken reads

/-- What a read that does not fail takes is gone, and the next ones go on behind it. -/
theorem drain_left_cons {r : BufferRead} (hr : r ≠ .fails) (reads : List BufferRead) (bs : Bytes) :
    (drain (r :: reads) bs).2.2 = (drain reads (bs.drop (chunk (some r)))).2.2 := by
  have hfirst (rest : List BufferRead) : r :: reads ≠ .fails :: rest :=
    fun heq => hr (List.cons.inj heq).1
  cases bs with
  | nil =>
    rw [drain_left, drain_left, List.drop_nil, List.drop_nil, List.drop_nil]
  | cons b bs =>
    have hpos := chunk_pos (some r)
    -- a read of more than there is leaves what a read of all there is leaves
    have hskip : bs.drop (min (chunk (some r)) (bs.length + 1) - 1) =
        (b :: bs).drop (chunk (some r)) := by
      obtain ⟨k, hk⟩ : ∃ k, chunk (some r) = k + 1 := ⟨chunk (some r) - 1, by omega⟩
      rw [hk, List.drop_succ_cons, Nat.add_min_add_right, Nat.add_sub_cancel]
      rcases Nat.le_total k bs.length with hle | hle
      · rw [Nat.min_eq_left hle]
      · rw [Nat.min_eq_right hle, List.drop_length, List.drop_of_length_le hle]
    rw [drain]
    · simp only [List.head?_cons, List.tail_cons, hskip]
    · exact hfirst

/-- A read that fails is the last one, and the bytes not taken by then stay. -/
theorem drain_left_of_fails {before : List BufferRead} (after : List BufferRead) (bs : Bytes)
    (h : .fails ∉ before) :
    (drain (before ++ .fails :: after) bs).2.2 = bs.drop (taken before) := by
  induction before generalizing bs with
  | nil => simp [drain, taken]
  | cons r before ih =>
    have hr : r ≠ .fails := fun heq => h (heq ▸ List.mem_cons_self)
    have hbefore : .fails ∉ before := fun hin => h (List.mem_cons_of_mem r hin)
    rw [List.cons_append, drain_left_cons hr, ih _ hbefore, List.drop_drop]
    rfl

/-- Nothing stays exactly if a read that fails finds nothing any more. -/
theorem drain_left_eq_nil_iff (reads : List BufferRead) (bs : Bytes) :
    (drain reads bs).2.2 = [] ↔ ∀ before after, reads = before ++ .fails :: after →
      .fails ∉ before → bs.length ≤ taken before := by
  constructor
  · rintro hleft before after rfl hbefore
    rw [drain_left_of_fails after bs hbefore] at hleft
    exact List.drop_eq_nil_iff.1 hleft
  · intro h
    by_cases hfails : .fails ∈ reads
    · obtain ⟨before, after, rfl, hbefore⟩ := List.eq_append_cons_of_mem hfails
      rw [drain_left_of_fails after bs hbefore]
      exact List.drop_eq_nil_iff.2 (h before after rfl hbefore)
    · exact drain_left_eq_nil reads bs hfails

theorem discard_state (u : Uart) (js : Array Notice) :
    ((SerialPort.discard : Act Uart Unit) u js).1.2 =
      { u with
        reads := (drain u.reads u.port.buffered).2.1
        port.buffered := (drain u.reads u.port.buffered).2.2 } := by
  -- the count of the bytes dropped decides on the notice only
  change (((if 0 < (drain u.reads u.port.buffered).1 then note _ else pure ()) : Act Uart Unit) _
    js).1.2 = _
  by_cases h : 0 < (drain u.reads u.port.buffered).1
  · rw [if_pos h]
    rfl
  · rw [if_neg h]
    rfl

/-! ### The buffer and the port -/

theorem write_buffered (bs : Bytes) (u : Uart) (js : Array Notice) :
    ((SerialPort.write bs : Act Uart _) u js).1.2.port.buffered = u.port.buffered := by
  change ((Rig.Port.write bs) u.port js).1.2.buffered = _
  obtain ⟨⟨steps, buffered, writes, flushes, broken, written, discards⟩, reads⟩ := u
  cases writes with
  | nil => cases broken <;> rfl
  | cons step writes => cases step <;> rfl

theorem flush_buffered (u : Uart) (js : Array Notice) :
    ((SerialPort.flush : Act Uart _) u js).1.2.port.buffered = u.port.buffered := by
  change (Rig.Port.flush u.port js).1.2.buffered = _
  obtain ⟨⟨steps, buffered, writes, flushes, broken, written, discards⟩, reads⟩ := u
  cases flushes with
  | nil => rfl
  | cons step flushes => cases step <;> rfl

/-- A read takes what stands first in the buffer. -/
theorem arrive_of_ne_nil (room : Nat) {u : Uart} (h : u.port.buffered ≠ []) (js : Array Notice) :
    (SerialPort.arrive room : Act Uart Arrival) u js =
      ((.now (.ok (u.port.buffered.take room)),
        { u with port.buffered := u.port.buffered.drop room }), js) := by
  obtain ⟨⟨steps, buffered, writes, flushes, broken, written, discards⟩, reads⟩ := u
  cases buffered with
  | nil => exact absurd rfl h
  | cons b bs => rfl

theorem arrive_buffered_of_nil (room : Nat) {u : Uart} (h : u.port.buffered = [])
    (js : Array Notice) :
    ((SerialPort.arrive room : Act Uart Arrival) u js).1.2.port.buffered = [] := by
  obtain ⟨⟨steps, buffered, writes, flushes, broken, written, discards⟩, reads⟩ := u
  cases h
  cases steps with
  | nil => rfl
  | cons step steps =>
    cases step with
    | silence => rfl
    | fail fault => rfl
    | bytes bs =>
      by_cases hroom : room < bs.length <;>
        simp [SerialPort.arrive, arrive, Rig.Port.arrive, Rig.Port.nextStep, portPart, hroom]

theorem writeAll_buffered (bs : Bytes) (u : Uart) (js : Array Notice) :
    (writeAll bs u js).1.2.port.buffered = u.port.buffered := by
  induction bs using writeAll.induct generalizing u js with
  | case1 =>
    rw [writeAll]
    rfl
  | case2 b rest ih =>
    rw [writeAll, Act.bind_apply]
    have hwrite := write_buffered (b :: rest) u js
    generalize (SerialPort.write (b :: rest) : Act Uart _) u js = written at hwrite ⊢
    obtain ⟨⟨r, v⟩, js'⟩ := written
    cases r with
    | error fault => exact hwrite
    | ok count => exact (ih count v js').trans hwrite

/-- What follows the dropping of old input leaves the buffer alone. -/
theorem send_buffered (command : Bytes) (u : Uart) (js : Array Notice) :
    (send command u js).1.2.port.buffered =
      ((SerialPort.discard : Act Uart Unit) u js).1.2.port.buffered := by
  rw [send, Act.bind_apply]
  generalize (SerialPort.discard : Act Uart Unit) u js = dropped
  obtain ⟨⟨⟨⟩, v⟩, js'⟩ := dropped
  have hwrite := writeAll_buffered command v js'
  rw [Act.bind_apply]
  generalize writeAll command v js' = written at hwrite ⊢
  obtain ⟨⟨r, w⟩, js''⟩ := written
  cases r with
  | error fault => exact hwrite
  | ok _ =>
    simp only [Act.bind_apply]
    have hflush := flush_buffered w js''
    generalize (SerialPort.flush : Act Uart _) w js'' = flushed at hflush ⊢
    obtain ⟨⟨f, x⟩, js₃⟩ := flushed
    cases f with
    | error fault => exact hflush.trans hwrite
    | ok _ => exact hflush.trans hwrite

/-! ### Later uses of the port -/

/-- What may happen to the driver: more input, with more of the script, and the uses of its
port. -/
inductive Use where
  | come (more : Uart)
  | read (room : Nat)
  | write (bs : Bytes)
  | flush
  | discard

namespace Use

/-- What a use leaves on the trace of the line. A read that finds the buffer empty waits, so what
it brings has come meanwhile. -/
def act : Use → Act Uart Trace
  | come more => do
    modify (·.extend more)
    pure [.came more.port.buffered]
  | read room => do
    let waits := (← get).port.buffered.isEmpty
    match ← SerialPort.arrive room with
    | .now (.ok bs) => pure (if waits then [.came bs, .read (.ready (.ok bs))]
        else [.read (.ready (.ok bs))])
    | .now (.error fault) => pure [.read (.ready (.error fault))]
    | _ => pure [.read .expired]
  | write bs => do pure [.wrote bs (← SerialPort.write bs)]
  | flush => do pure [.flushed (← SerialPort.flush)]
  | discard => do
    SerialPort.discard
    pure [.dropped]

def actAll : List Use → Act Uart Trace
  | [] => pure []
  | x :: rest => do
    let t ← x.act
    let later ← actAll rest
    pure (t ++ later)

end Use

theorem read_of_ne_nil (room : Nat) {u : Uart} (h : u.port.buffered ≠ []) (js : Array Notice) :
    (Use.read room).act u js =
      (([.read (.ready (.ok (u.port.buffered.take room)))],
        { u with port.buffered := u.port.buffered.drop room }), js) := by
  simp [Use.act, h, arrive_of_ne_nil room h]

/-- What a read of an empty buffer brings has come for it. -/
theorem read_of_nil (room : Nat) {u : Uart} (h : u.port.buffered = []) (js : Array Notice) :
    ((Use.read room).act u js).1.1.arrivals = ((Use.read room).act u js).1.1.delivered ∧
      ((Use.read room).act u js).1.2.port.buffered = [] := by
  have hwaits : u.port.buffered.isEmpty = true := by simp [h]
  have hleft := arrive_buffered_of_nil room h js
  simp only [Use.act, Act.bind_apply, Act.get_apply, hwaits, if_true]
  generalize (SerialPort.arrive room : Act Uart Arrival) u js = arrived at hleft ⊢
  obtain ⟨⟨r, v⟩, js'⟩ := arrived
  cases r with
  | now result =>
    cases result with
    | ok bs =>
      refine ⟨?_, hleft⟩
      simp [Trace.arrivals, Trace.delivered, Event.arrival, Event.delivery]
    | error fault => exact ⟨rfl, hleft⟩
  | later delay => exact ⟨rfl, hleft⟩
  | never => exact ⟨rfl, hleft⟩

/-- What stands in the buffer and what comes is taken from the front, and only what is taken is
delivered. -/
theorem act_takes (x : Use) (u : Uart) (js : Array Notice) :
    ∃ gone, u.port.buffered ++ (x.act u js).1.1.arrivals =
        gone ++ (x.act u js).1.2.port.buffered ∧
      (x.act u js).1.1.delivered.Sublist gone := by
  cases x with
  | come more =>
    refine ⟨[], ?_, List.Sublist.refl []⟩
    simp [Use.act, Uart.extend, Rig.Port.extend, Trace.arrivals, Event.arrival]
  | read room =>
    by_cases h : u.port.buffered = []
    · obtain ⟨harrivals, hleft⟩ := read_of_nil room h js
      refine ⟨_, ?_, List.Sublist.refl _⟩
      rw [h, hleft, harrivals, List.nil_append, List.append_nil]
    · rw [read_of_ne_nil room h]
      refine ⟨u.port.buffered.take room, ?_, ?_⟩
      · simp [Trace.arrivals, Event.arrival]
      · simp [Trace.delivered, Event.delivery]
  | write bs =>
    refine ⟨[], ?_, List.Sublist.refl []⟩
    simpa [Use.act, Trace.arrivals, Event.arrival] using (write_buffered bs u js).symm
  | flush =>
    refine ⟨[], ?_, List.Sublist.refl []⟩
    simpa [Use.act, Trace.arrivals, Event.arrival] using (flush_buffered u js).symm
  | discard =>
    refine ⟨u.port.buffered.take (drain u.reads u.port.buffered).1, ?_, List.nil_sublist _⟩
    simp [Use.act, discard_state, drain_left, Trace.arrivals, Event.arrival]

/-- The same of any uses, one after the other: what one of them leaves in the buffer the next ones
take first. -/
theorem actAll_takes (uses : List Use) (u : Uart) (js : Array Notice) :
    ∃ gone, u.port.buffered ++ (Use.actAll uses u js).1.1.arrivals =
        gone ++ (Use.actAll uses u js).1.2.port.buffered ∧
      (Use.actAll uses u js).1.1.delivered.Sublist gone := by
  induction uses generalizing u js with
  | nil => exact ⟨[], by simp [Use.actAll, Trace.arrivals], List.Sublist.refl []⟩
  | cons x uses ih =>
    simp only [Use.actAll, Act.bind_apply, Act.pure_apply, Trace.arrivals_append,
      Trace.delivered_append]
    obtain ⟨gone, htaken, hdelivered⟩ := act_takes x u js
    obtain ⟨later, hlater, hrest⟩ := ih (x.act u js).1.2 (x.act u js).2
    refine ⟨gone ++ later, ?_, hdelivered.append hrest⟩
    rw [← List.append_assoc, htaken, List.append_assoc, hlater, List.append_assoc]

/-- Whatever follows, all that is delivered has come since. -/
def Fresh (u : Uart) : Prop :=
  ∀ (uses : List Use) (js : Array Notice),
    (Use.actAll uses u js).1.1.delivered.Sublist (Use.actAll uses u js).1.1.arrivals

theorem not_fresh {u : Uart} (h : u.port.buffered ≠ []) : ¬ Fresh u := by
  intro hfresh
  have hone := hfresh [.read 1] #[]
  simp [Use.actAll, read_of_ne_nil 1 h, Trace.delivered, Trace.arrivals, Event.delivery,
    Event.arrival, h] at hone

theorem fresh_iff (u : Uart) : Fresh u ↔ u.port.buffered = [] := by
  constructor
  · intro hfresh
    exact Classical.byContradiction fun h => not_fresh h hfresh
  · intro h uses js
    obtain ⟨gone, htaken, hdelivered⟩ := actAll_takes uses u js
    -- with nothing in the buffer at first, all that is ever taken has come
    rw [h, List.nil_append] at htaken
    rw [htaken]
    exact hdelivered.trans (List.sublist_append_left _ _)

/-! ### What dropping the input comes to -/

/-- A driver before and after its input is dropped: what stays in the buffer, when everything that
is delivered later is new, and what a read after a command finds where something stays. -/
structure Clears (u v : Uart) : Prop where
  emptied : .fails ∉ u.reads → v.port.buffered = []
  stopped (before after : List BufferRead) : u.reads = before ++ .fails :: after →
    .fails ∉ before → v.port.buffered = u.port.buffered.drop (taken before)
  fresh_iff : Fresh v ↔ ∀ before after, u.reads = before ++ .fails :: after →
    .fails ∉ before → u.port.buffered.length ≤ taken before
  answered (command : Bytes) (room : Nat) (js js' : Array Notice) : v.port.buffered ≠ [] →
    (SerialPort.arrive room (send command u js).1.2 js').1.1 =
      .now (.ok (v.port.buffered.take room))

/-- However the reads of the buffer go, it is cleared up to the first one that fails. -/
theorem discard_clears (u : Uart) (js : Array Notice) :
    Clears u ((SerialPort.discard : Act Uart Unit) u js).1.2 where
  emptied h := by
    rw [discard_state]
    exact drain_left_eq_nil u.reads u.port.buffered h
  stopped before after h hbefore := by
    rw [discard_state, h]
    exact drain_left_of_fails after u.port.buffered hbefore
  fresh_iff := by
    rw [Uart.fresh_iff, discard_state]
    exact drain_left_eq_nil_iff u.reads u.port.buffered
  answered command room js₁ js₂ h := by
    have hsend := send_buffered command u js₁
    rw [discard_state] at h hsend ⊢
    have hne : (send command u js₁).1.2.port.buffered ≠ [] := hsend ▸ h
    rw [arrive_of_ne_nil room hne, hsend]

/-- An answer that came when nobody read any more, and a read of the buffer that fails. -/
def belated : Uart := { port := { buffered := (Co2Frame.encode 800).toList }, reads := [.fails] }

theorem late_answer_delivered :
    ¬ Fresh ((SerialPort.discard : Act Uart Unit) belated #[]).1.2 ∧
      (SerialPort.arrive 9 (send Co2Frame.readCommand belated #[]).1.2 #[]).1.1 =
        .now (.ok (Co2Frame.encode 800).toList) ∧
      Co2Frame.decode (Co2Frame.encode 800) = .ok ⟨800⟩ := by
  have hleft : ((SerialPort.discard : Act Uart Unit) belated #[]).1.2.port.buffered =
      (Co2Frame.encode 800).toList := by
    rw [discard_state]
    exact @drain_left_of_fails [] [] _ List.not_mem_nil
  have hne : (Co2Frame.encode 800).toList ≠ [] := by decide
  refine ⟨not_fresh (hleft ▸ hne), ?_, Co2Frame.decode_encode 800⟩
  have hsend := (send_buffered Co2Frame.readCommand belated #[]).trans hleft
  rw [arrive_of_ne_nil 9 (hsend ▸ hne), hsend]
  rfl

end AirStation.Board.Uart
