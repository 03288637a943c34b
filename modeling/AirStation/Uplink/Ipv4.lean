import AirStation.Text

/-! Internet addresses of version 4 and their one written form: four decimal numbers
below 256 without leading zeros, with points between them. -/

namespace AirStation

structure Ipv4 where
  a : UInt8
  b : UInt8
  c : UInt8
  d : UInt8
  deriving DecidableEq

namespace Ipv4

def text (x : Ipv4) : String := s!"{x.a}.{x.b}.{x.c}.{x.d}"

/-- The number at the front, and what follows it. -/
def octet? (cs : List Char) : Option (UInt8 × List Char) :=
  let (digits, rest) := Digits.span cs
  let canonical := digits == ['0'] || !digits.isEmpty && digits.head? != some '0'
  if canonical && digits.length ≤ 3 && Digits.value digits < 256 then
    some (UInt8.ofNat (Digits.value digits), rest)
  else none

def dot? : List Char → Option (List Char)
  | '.' :: cs => some cs
  | _ => none

/-- The address that a text is, as a whole. -/
def parse? (s : String) : Option Ipv4 := do
  let (a, cs) ← octet? s.toList
  let (b, cs) ← octet? (← dot? cs)
  let (c, cs) ← octet? (← dot? cs)
  let (d, cs) ← octet? (← dot? cs)
  if cs.isEmpty then some ⟨a, b, c, d⟩ else none

/-- An address with the length of its network's prefix. -/
structure Net where
  address : Ipv4
  length : Nat
  deriving DecidableEq

namespace Net

def text (x : Net) : String := s!"{x.address.text}/{x.length}"

def parse? (s : String) : Option Net :=
  match s.splitOn "/" with
  | [address, length] => do pure ⟨← Ipv4.parse? address, ← Digits.nat? length.toList⟩
  | _ => none

end Net

end Ipv4

end AirStation
