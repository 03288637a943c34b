import AirStation.Rig.Port

/-! The station's serial port on a driver that keeps what has come in a buffer. The
buffer is emptied in reads of at most 32 bytes, until one finds nothing or fails. A
failed read leaves the buffer as it was, so it leaves stale bytes behind. -/

namespace AirStation.Board

/-- The room for one read of the buffer. -/
def scratchLength : Nat := 32

/-- How one read of the buffer ends. -/
inductive BufferRead where
  | fails
  /-- At most so many bytes, and one at least, if there are any. -/
  | atMost (n : Nat)
  deriving DecidableEq

/-- A scripted driver. Reads that the script says nothing about take what fits. -/
structure Uart where
  port : Rig.Port := {}
  reads : List BufferRead := []

namespace Uart

/-- How many bytes a read of a full buffer takes. -/
def chunk : Option BufferRead → Nat
  | some (.atMost n) => min (max n 1) scratchLength
  | _ => scratchLength

theorem chunk_pos (r : Option BufferRead) : 0 < chunk r := by
  unfold chunk
  split <;> simp only [scratchLength] <;> omega

/-- Reads the buffer until it is empty or a read fails: the count of bytes dropped, the
reads left and the bytes left. -/
def drain : List BufferRead → Bytes → Nat × List BufferRead × Bytes
  | .fails :: reads, bs => (0, reads, bs)
  | reads, [] => (0, reads.tail, [])
  | reads, _ :: bs =>
    let dropped := min (chunk reads.head?) (bs.length + 1)
    let (count, reads, left) := drain reads.tail (bs.drop (dropped - 1))
    (dropped + count, reads, left)
termination_by _ bs => bs.length
decreasing_by simp only [List.length_drop, List.length_cons]; omega

/-- What is left is what stood behind the bytes dropped. -/
theorem drain_left (reads : List BufferRead) (bs : Bytes) :
    (drain reads bs).2.2 = bs.drop (drain reads bs).1 := by
  fun_induction drain reads bs with
  | case1 => rfl
  | case2 => rfl
  | case3 reads b bs _ dropped count _ left h ih =>
    have hd : 0 < dropped := by have := chunk_pos reads.head?; omega
    have hs : dropped + count = dropped - 1 + count + 1 := by omega
    simp only [h, List.drop_drop] at ih
    simp only [hs, List.drop_succ_cons, ih]

/-- Only a failed read leaves bytes behind. -/
theorem drain_left_eq_nil (reads : List BufferRead) (bs : Bytes) (hr : .fails ∉ reads) :
    (drain reads bs).2.2 = [] := by
  fun_induction drain reads bs with
  | case1 => simp at hr
  | case2 => rfl
  | case3 _ _ _ _ _ _ _ _ h ih =>
    rw [h] at ih
    exact ih fun hm => hr (List.mem_of_mem_tail hm)

def discard : Act Uart Unit := do
  let u ← get
  let (count, reads, left) := drain u.reads u.port.buffered
  set { u with reads, port.buffered := left }
  if 0 < count then note (.staleBytesDropped count)

def portPart : Part Uart Rig.Port := ⟨Uart.port, fun p u => { u with port := p }⟩

/-- The port's result, with every fault told as the same one. -/
def faultAs {α : Type} (fault : PortFault) : Except PortFault α → Except PortFault α
  | .ok a => .ok a
  | .error _ => .error fault

def arrive (room : Nat) : Act Uart Arrival := do
  match ← (Rig.Port.arrive room).on portPart with
  | .now r => pure (.now (faultAs .other r))
  | a => pure a

instance : SerialPort Uart where
  discard := discard
  write bs := do pure (faultAs .brokenPipe (← (Rig.Port.write bs).on portPart))
  flush := do pure (faultAs .brokenPipe (← Rig.Port.flush.on portPart))
  arrive := arrive
  deliver _ := pure []

/-- The driver with a further script behind its own; a read of the buffer that is to
fail is the next one. -/
def extend (more : Uart) (u : Uart) : Uart where
  port := u.port.extend more.port
  reads := if more.reads.isEmpty then u.reads else more.reads

end Uart

end AirStation.Board
