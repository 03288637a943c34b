import AirStation.Bytes

/-! UTF-8 read with repair: every longest run of bytes that begins a character
but cannot be completed, and every byte that begins none, becomes one U+FFFD. -/

namespace AirStation.Utf8

/-- What a character that has begun still needs: how many bytes, the range of the
next one, and the value collected so far. -/
structure Open where
  owed : Nat
  low : UInt8
  high : UInt8
  value : Nat

inductive Lead where
  | whole (c : Char)
  | opens (o : Open)
  | bad

def replacement : Char := Char.ofNat 0xFFFD

def lead (b : UInt8) : Lead :=
  let n := b.toNat
  if n < 0x80 then .whole (Char.ofNat n)
  else if n < 0xC2 then .bad
  else if n < 0xE0 then .opens ⟨1, 0x80, 0xBF, n - 0xC0⟩
  else if n == 0xE0 then .opens ⟨2, 0xA0, 0xBF, 0⟩
  else if n == 0xED then .opens ⟨2, 0x80, 0x9F, 0xD⟩
  else if n < 0xF0 then .opens ⟨2, 0x80, 0xBF, n - 0xE0⟩
  else if n == 0xF0 then .opens ⟨3, 0x90, 0xBF, 0⟩
  else if n < 0xF4 then .opens ⟨3, 0x80, 0xBF, n - 0xF0⟩
  else if n == 0xF4 then .opens ⟨3, 0x80, 0x8F, 4⟩
  else .bad

/-- The characters settled by a byte that stands at the start of a character, and
the character it opens. -/
def start (b : UInt8) : List Char × Option Open :=
  match lead b with
  | .whole c => ([c], none)
  | .opens o => ([], some o)
  | .bad => ([replacement], none)

def step (pending : Option Open) (b : UInt8) : List Char × Option Open :=
  match pending with
  | none => start b
  | some o =>
    if o.low ≤ b ∧ b ≤ o.high then
      let value := o.value * 64 + (b.toNat - 0x80)
      if o.owed ≤ 1 then ([Char.ofNat value], none)
      else ([], some ⟨o.owed - 1, 0x80, 0xBF, value⟩)
    else
      let (cs, next) := start b
      (replacement :: cs, next)

def chars : Option Open → Bytes → List Char
  | none, [] => []
  | some _, [] => [replacement]
  | pending, b :: bs =>
    let (cs, next) := step pending b
    cs ++ chars next bs

/-- The text of a byte string, with what is no UTF-8 replaced. -/
def repaired (bs : Bytes) : String :=
  String.ofList (chars none bs)

end AirStation.Utf8
