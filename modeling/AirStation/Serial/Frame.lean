import AirStation.Bytes

/-! A receive buffer of fixed capacity. As a port writes into it, it is so many bytes and a
count of those that are filled. As a frame it is what has been received: that stands at its
front and zeros fill the rest. -/

namespace AirStation

structure Frame (capacity : Nat) where
  received : Bytes
  fits : received.length ≤ capacity

namespace Frame

variable {n : Nat}

def empty : Frame n := ⟨[], Nat.zero_le n⟩

/-- The frame with nothing in it, whatever it held. -/
def clear (f : Frame n) : Frame n :=
  { f with received := [], fits := Nat.zero_le n }

def filled (f : Frame n) : Nat := f.received.length

/-- How many bytes still go in. -/
def room (f : Frame n) : Nat := n - f.filled

def isComplete (f : Frame n) : Bool := f.filled == n

/-- The whole buffer. -/
def buffer (f : Frame n) : Bytes := f.received ++ List.replicate f.room 0

/-- The frame with what fits of `bs` behind what it has. -/
def append (f : Frame n) (bs : Bytes) : Frame n where
  received := f.received ++ bs.take f.room
  fits := by
    have h := f.fits
    simp only [List.length_append, List.length_take, room, filled]
    omega

@[simp] theorem received_append (f : Frame n) (bs : Bytes) :
    (f.append bs).received = f.received ++ bs.take f.room := rfl

theorem length_buffer (f : Frame n) : f.buffer.length = n := by
  have h := f.fits
  simp only [buffer, room, filled, List.length_append, List.length_replicate]
  omega

/-- The contents of a complete frame. -/
def full? (f : Frame n) : Option (Vector UInt8 n) :=
  if h : f.received.length = n then some ⟨f.received.toArray, by simp [h]⟩ else none

/-- The complete frame of these contents. -/
def ofVector (v : Vector UInt8 n) : Frame n := ⟨v.toList, by simp⟩

end Frame

/-- A buffer byte by byte. Nothing is said of the bytes from `filled` on, nor that so many
fit. -/
@[ext]
structure ReceiveBuffer (capacity : Nat) where
  bytes : Vector UInt8 capacity
  filled : Nat

namespace ReceiveBuffer

variable {n : Nat}

/-- Every byte is overwritten with zero and none counts as filled. -/
def clear (b : ReceiveBuffer n) : ReceiveBuffer n := ⟨b.bytes.map fun _ => 0, 0⟩

def isComplete (b : ReceiveBuffer n) : Bool := b.filled == n

/-- How many bytes a port is offered to write. -/
def room (b : ReceiveBuffer n) : Nat := n - b.filled

/-- The bytes that count as filled. -/
def received (b : ReceiveBuffer n) : Bytes := b.bytes.toList.take b.filled

/-- A port writes `bs` from the first byte on that is not filled, as far as they fit, and so many
more count as filled. -/
def accept (b : ReceiveBuffer n) (bs : Bytes) : ReceiveBuffer n where
  bytes := Vector.ofFn fun i =>
    if b.filled ≤ i ∧ i < b.filled + bs.length then bs.getD (i - b.filled) 0 else b.bytes.get i
  filled := b.filled + min b.room bs.length

end ReceiveBuffer

/-- The frame with its zeros. -/
def Frame.raw {n : Nat} (f : Frame n) : ReceiveBuffer n where
  bytes := Vector.ofFn fun i => f.received.getD i 0
  filled := f.filled

end AirStation
