import AirStation.Barometer.Registers

/-! The registers of a device on a bus, with the pointer that every access moves on
by one, from the last register to the first. -/

namespace AirStation.Barometer

structure RegisterFile where
  cells : Vector UInt8 256
  pointer : UInt8

namespace RegisterFile

def blank : RegisterFile := ⟨Vector.replicate 256 0, 0⟩

def get (r : RegisterFile) (register : UInt8) : UInt8 :=
  have := UInt8.toNat_lt register
  r.cells[register.toNat]

def put (r : RegisterFile) (register value : UInt8) : RegisterFile :=
  { r with cells := r.cells.set register.toNat value (UInt8.toNat_lt register) }

@[simp] theorem get_put_self (r : RegisterFile) (a v : UInt8) : (r.put a v).get a = v := by
  simp [get, put]

theorem get_put_of_ne {a b : UInt8} (h : a ≠ b) (r : RegisterFile) (v : UInt8) :
    (r.put a v).get b = r.get b := by
  have hn : a.toNat ≠ b.toNat := fun h' => h (UInt8.toNat_inj.1 h')
  simp [get, put, Vector.getElem_set_ne _ _ hn]

def point (r : RegisterFile) (register : UInt8) : RegisterFile :=
  { r with pointer := register }

def advance (r : RegisterFile) : RegisterFile :=
  r.point (r.pointer + 1)

/-- Bytes from `register` on, the pointer aside. -/
def load (r : RegisterFile) (register : UInt8) : Bytes → RegisterFile
  | [] => r
  | b :: bs => (r.put register b).load (register + 1) bs

/-- The next `n` bytes at the pointer. -/
def take (r : RegisterFile) : Nat → Bytes × RegisterFile
  | 0 => ([], r)
  | n + 1 =>
    let (bs, next) := r.advance.take n
    (r.get r.pointer :: bs, next)

/-- A device as it comes: its identity and the example calibration, all else zero. -/
def fresh (calibration : Bytes) : RegisterFile :=
  (blank.put Register.chipId chipId).load Register.calibration calibration

end RegisterFile

end AirStation.Barometer
