import AirStation.Proofs.Entries
import AirStation.Proofs.Serial.Line
import AirStation.Rig.Port

/-! How a command goes out on a watched line. Every write offers exactly what the port has not
taken yet, so the bytes taken are at all times a prefix of the command. The first failure is the
last thing that happens and is what the caller is told; where a write fails something is left
to be taken, and where the flush fails nothing is. -/

namespace AirStation.Serial.Line

/-- What a write or a flush fails with. -/
def Event.fault? : Event → Option PortFault
  | wrote _ (.error fault) => some fault
  | flushed (.error fault) => some fault
  | _ => none

/-! ### Writes -/

/-- The writes that offer some bytes until all are taken or the port fails. -/
inductive Written : Bytes → Except PortFault Unit → Trace → Prop where
  | all : Written [] (.ok ()) []
  | refused {bs : Bytes} (fault : PortFault) : bs ≠ [] →
      Written bs (.error fault) [.wrote bs (.error fault)]
  | taken {bs : Bytes} {count : Nat} {result : Except PortFault Unit} {t : Trace} : bs ≠ [] →
      Written (bs.drop (max count 1)) result t →
      Written bs result (.wrote bs (.ok count) :: t)

variable {bs command : Bytes} {t : Trace}

theorem Trace.accepted_cons (e : Event) (t : Trace) :
    accepted (e :: t) = e.acceptance ++ accepted t := List.flatMap_cons

theorem Written.writes {result : Except PortFault Unit} (h : Written bs result t) :
    ∀ e ∈ t, ∃ offered r, e = .wrote offered r := by
  induction h with
  | all => exact fun e he => absurd he List.not_mem_nil
  | refused fault _ =>
    intro e he
    exact ⟨_, _, List.mem_singleton.1 he⟩
  | taken _ _ ih =>
    intro e he
    rcases List.mem_cons.1 he with rfl | he
    · exact ⟨_, _, rfl⟩
    · exact ih e he

/-- A write offers just what has not been taken before it. -/
def Offers (bs : Bytes) (before : Trace) (e : Event) : Prop :=
  ∀ offered r, e = .wrote offered r → before.accepted ++ offered = bs

theorem Offers.whole (bs : Bytes) (r : Except PortFault Nat) : Offers bs [] (.wrote bs r) := by
  rintro offered r' ⟨⟩
  rfl

theorem Written.offers {result : Except PortFault Unit} (h : Written bs result t) :
    Always (Offers bs) t := by
  induction h with
  | all => exact .nil
  | @refused bs fault _ => exact Always.nil.concat (.whole bs _)
  | @taken bs count result t _ _ ih =>
    refine (Always.nil.concat (.whole bs (.ok count))).append fun before e after ht => ?_
    intro offered r he
    have hrest := ih before e after ht offered r he
    calc
      Trace.accepted (.wrote bs (.ok count) :: before) ++ offered
          = bs.take (max count 1) ++ (Trace.accepted before ++ offered) := by
        rw [Trace.accepted_cons, List.append_assoc]
        rfl
      _ = bs := by rw [hrest, List.take_append_drop]

theorem Written.succeeds (h : Written bs (.ok ()) t) :
    t.accepted = bs ∧ ∀ e ∈ t, e.fault? = none := by
  generalize hr : (.ok () : Except PortFault Unit) = result at h
  induction h with
  | all => exact ⟨rfl, fun e he => absurd he List.not_mem_nil⟩
  | refused fault _ => cases hr
  | @taken bs count result t _ _ ih =>
    obtain ⟨haccepted, hsound⟩ := ih hr
    refine ⟨?_, List.forall_mem_cons.2 ⟨rfl, hsound⟩⟩
    rw [Trace.accepted_cons, haccepted]
    exact List.take_append_drop _ _

theorem Written.fails {fault : PortFault} (h : Written bs (.error fault) t) :
    ∃ before left, t = before ++ [.wrote left (.error fault)] ∧ left ≠ [] ∧
      ∀ e ∈ before, e.fault? = none := by
  generalize hr : (.error fault : Except PortFault Unit) = result at h
  induction h with
  | all => cases hr
  | @refused bs fault hne =>
    cases hr
    exact ⟨[], bs, rfl, hne, fun e he => absurd he List.not_mem_nil⟩
  | @taken bs count result t _ _ ih =>
    obtain ⟨before, left, rfl, hleft, hsound⟩ := ih hr
    exact ⟨.wrote bs (.ok count) :: before, left, rfl, hleft,
      List.forall_mem_cons.2 ⟨rfl, hsound⟩⟩

variable {P : Type} [SerialPort P]

theorem writeAll_written (bs : Bytes) (l : Line P) (js : Array Notice) :
    ∃ t, Written bs (writeAll bs l js).1.1 t ∧
      (writeAll bs l js).1.2.trace = l.trace ++ t := by
  induction bs using writeAll.induct generalizing l js with
  | case1 =>
    rw [writeAll]
    exact ⟨[], .all, (List.append_nil _).symm⟩
  | case2 b rest ih =>
    rw [writeAll]
    simp only [Act.bind_apply, write_apply]
    obtain ⟨⟨r, port⟩, js'⟩ := SerialPort.write (b :: rest) l.port js
    cases r with
    | error fault => exact ⟨_, .refused fault (List.cons_ne_nil _ _), rfl⟩
    | ok count =>
      obtain ⟨t, ht, htrace⟩ :=
        ih count ⟨port, l.pending, l.trace ++ [.wrote (b :: rest) (.ok count)]⟩ js'
      have hdrop : (b :: rest).drop (max count 1) = rest.drop (count - 1) := by
        cases count with
        | zero => rfl
        | succ n => rw [Nat.max_eq_left (by omega), List.drop_succ_cons, Nat.add_sub_cancel]
      refine ⟨.wrote (b :: rest) (.ok count) :: t, .taken (List.cons_ne_nil _ _) (hdrop ▸ ht), ?_⟩
      refine htrace.trans ?_
      rw [List.append_assoc]
      rfl

/-! ### A whole command -/

/-- What follows the dropping of stale input: the command is written and flushed, or a write
fails, or the flush does. -/
inductive Outcome (command : Bytes) : Except TransportError Unit → Trace → Prop where
  | sent {t : Trace} : Written command (.ok ()) t →
      Outcome command (.ok ()) (t ++ [.flushed (.ok ())])
  | unwritten {t : Trace} {fault : PortFault} : Written command (.error fault) t →
      Outcome command (.error (.write fault)) t
  | unflushed {t : Trace} {fault : PortFault} : Written command (.ok ()) t →
      Outcome command (.error (.write fault)) (t ++ [.flushed (.error fault)])

theorem send_outcome (command : Bytes) (l : Line P) (js : Array Notice) :
    ∃ t, Outcome command (send command l js).1.1 t ∧
      (send command l js).1.2.trace = l.trace ++ .dropped :: t := by
  simp only [send, Act.bind_apply, discard_apply]
  generalize (SerialPort.discard : Act P Unit) l.port js = dropped
  let cleared : Line P := ⟨dropped.1.2, [], l.trace ++ [.dropped]⟩
  obtain ⟨t, ht, htrace⟩ := writeAll_written command cleared dropped.2
  generalize writeAll command cleared dropped.2 = written at ht htrace ⊢
  obtain ⟨⟨r, u⟩, js'⟩ := written
  replace htrace : u.trace = l.trace ++ .dropped :: t := htrace.trans (List.append_assoc ..)
  cases r with
  | error fault => exact ⟨t, .unwritten ht, htrace⟩
  | ok _ =>
    simp only [Act.bind_apply, flush_apply]
    generalize (SerialPort.flush : Act P _) u.port js' = flushed
    obtain ⟨⟨f, port⟩, js''⟩ := flushed
    have hflush : u.trace ++ [.flushed f] = l.trace ++ .dropped :: (t ++ [.flushed f]) := by
      rw [htrace, List.append_assoc, List.cons_append]
    cases f with
    | error fault => exact ⟨_, .unflushed ht, hflush⟩
    | ok _ => exact ⟨_, .sent ht, hflush⟩

/-- What is told of a command that has gone out, or has not. -/
structure Conveys (command : Bytes) (result : Except TransportError Unit) (t : Trace) : Prop where
  dropped : ∃ rest, t = .dropped :: rest ∧ .dropped ∉ rest
  offers : Always (Offers command) t
  sent : result = .ok () → t.accepted = command ∧ .flushed (.ok ()) ∈ t ∧
    ∀ e ∈ t, e.fault? = none
  failed (e : TransportError) : result = .error e → ∃ fault before last, e = .write fault ∧
    t = before ++ [last] ∧ (∀ e ∈ before, e.fault? = none) ∧
      ((∃ left, last = .wrote left (.error fault) ∧ left ≠ [] ∧ t.accepted ++ left = command) ∨
        last = .flushed (.error fault) ∧ t.accepted = command)

namespace Outcome

variable {result : Except TransportError Unit}

theorem dropped_not_mem (h : Outcome command result t) : .dropped ∉ t := by
  have hwrites {r : Except PortFault Unit} {w : Trace} (hw : Written command r w) :
      .dropped ∉ w := by
    intro hin
    obtain ⟨offered, r, hevent⟩ := hw.writes _ hin
    cases hevent
  cases h with
  | sent hw => simp [hwrites hw]
  | unwritten hw => exact hwrites hw
  | unflushed hw => simp [hwrites hw]

theorem offers (h : Outcome command result t) : Always (Offers command) t := by
  cases h with
  | sent hw => exact hw.offers.concat (by rintro _ _ ⟨⟩)
  | unwritten hw => exact hw.offers
  | unflushed hw => exact hw.offers.concat (by rintro _ _ ⟨⟩)

theorem conveys (h : Outcome command result t) : Conveys command result (.dropped :: t) where
  dropped := ⟨t, rfl, h.dropped_not_mem⟩
  offers :=
    have hdropped : Always (Offers command) [.dropped] := Always.nil.concat (by rintro _ _ ⟨⟩)
    hdropped.append h.offers
  sent := by
    rintro rfl
    cases h with
    | sent hw =>
      obtain ⟨haccepted, hsound⟩ := hw.succeeds
      refine ⟨?_, by simp, ?_⟩
      · rw [Trace.accepted_cons, Trace.accepted_concat, haccepted]
        exact List.append_nil _
      · have hflush : ∀ e ∈ [Event.flushed (.ok ())], e.fault? = none := by simp [Event.fault?]
        exact List.forall_mem_cons.2 ⟨rfl, List.forall_mem_append.2 ⟨hsound, hflush⟩⟩
  failed := by
    rintro e rfl
    cases h with
    | @unwritten w fault hw =>
      obtain ⟨before, left, rfl, hleft, hsound⟩ := hw.fails
      have hwhole := hw.offers.last left _ rfl
      refine ⟨fault, .dropped :: before, _, rfl, rfl, ?_, .inl ⟨left, rfl, hleft, ?_⟩⟩
      · exact List.forall_mem_cons.2 ⟨rfl, hsound⟩
      · rw [Trace.accepted_cons, Trace.accepted_concat]
        simpa [Event.acceptance] using hwhole
    | @unflushed w fault hw =>
      obtain ⟨haccepted, hsound⟩ := hw.succeeds
      refine ⟨fault, .dropped :: w, _, rfl, rfl, ?_, .inr ⟨rfl, ?_⟩⟩
      · exact List.forall_mem_cons.2 ⟨rfl, hsound⟩
      · rw [Trace.accepted_cons, Trace.accepted_concat, haccepted]
        exact List.append_nil _

end Outcome

/-- Whatever the port does, the command is sent to it as if nobody watched, and what is told of
the sending is so. -/
theorem send_conveys (command : Bytes) (l : Line P) (js : Array Notice) :
    ∃ t, Conveys command (send command l.port js).1.1 t ∧
      send command l js =
        (((send command l.port js).1.1,
          ⟨(send command l.port js).1.2, [], l.trace ++ t⟩),
          (send command l.port js).2) := by
  obtain ⟨w, -, hsend⟩ := send_apply command l js
  obtain ⟨t, ht, htrace⟩ := send_outcome command l js
  rw [hsend] at ht htrace
  obtain rfl : w = t := List.cons.inj (List.append_cancel_left htrace) |>.2
  exact ⟨_, ht.conveys, hsend⟩

/-- A port that takes two bytes and then fails, with a byte of stale input. -/
def halting : Line Rig.Port := ⟨{ writes := [.atMost 2, .fail .brokenPipe] }, [0x07], []⟩

/-- The line after that. -/
def halted : Line Rig.Port :=
  ⟨{ discards := 1, written := #[[0x42, 0x4D]] }, [],
    [.dropped, .wrote [0x42, 0x4D, 0xE2] (.ok 2), .wrote [0xE2] (.error .brokenPipe)]⟩

theorem send_halting (js : Array Notice) :
    send [0x42, 0x4D, 0xE2] halting js = ((.error (.write .brokenPipe), halted), js) := by
  let cleared : Line Rig.Port :=
    ⟨{ writes := [.atMost 2, .fail .brokenPipe], discards := 1 }, [], [.dropped]⟩
  let halfway : Line Rig.Port :=
    ⟨{ writes := [.fail .brokenPipe], discards := 1, written := #[[0x42, 0x4D]] }, [],
      [.dropped, .wrote [0x42, 0x4D, 0xE2] (.ok 2)]⟩
  have hrest : writeAll [0xE2] halfway js = ((.error .brokenPipe, halted), js) := by
    rw [writeAll, Act.bind_apply]
    rfl
  have hwrite : writeAll [0x42, 0x4D, 0xE2] cleared js = ((.error .brokenPipe, halted), js) := by
    rw [writeAll, Act.bind_apply]
    exact hrest
  rw [send, Act.bind_apply]
  change (writeAll _ >>= _ : Act (Line Rig.Port) _) cleared js = _
  rw [Act.bind_apply, hwrite]
  rfl

theorem send_conveys_halting :
    Conveys [0x42, 0x4D, 0xE2] (.error (.write .brokenPipe)) halted.trace := by
  obtain ⟨t, ht, hsend⟩ := send_conveys [0x42, 0x4D, 0xE2] halting #[]
  rw [send_halting] at hsend
  have hresult : .error (.write .brokenPipe) = (send [0x42, 0x4D, 0xE2] halting.port #[]).1.1 :=
    congrArg (·.1.1) hsend
  obtain rfl : halted.trace = t := congrArg (·.1.2.trace) hsend
  rwa [← hresult] at ht

end AirStation.Serial.Line
