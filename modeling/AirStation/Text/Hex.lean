import AirStation.Bytes

/-! Hexadecimal text: byte strings as digit pairs, bracketed byte lists as they
stand in log lines, and words with a fixed least number of digits. -/

namespace AirStation.Hex

def digit (n : Nat) : Char :=
  if n < 10 then Char.ofNat (48 + n) else Char.ofNat (87 + n)

def digitUpper (n : Nat) : Char :=
  if n < 10 then Char.ofNat (48 + n) else Char.ofNat (55 + n)

def value? (c : Char) : Option Nat :=
  if '0' ≤ c ∧ c ≤ '9' then some (c.toNat - 48)
  else if 'a' ≤ c ∧ c ≤ 'f' then some (c.toNat - 87)
  else if 'A' ≤ c ∧ c ≤ 'F' then some (c.toNat - 55)
  else none

/-- The two digits of a byte. -/
def pair (digit : Nat → Char) (b : UInt8) : List Char :=
  [digit (b.toNat / 16), digit (b.toNat % 16)]

def encode (bs : Bytes) : String :=
  String.ofList (bs.flatMap (pair digit))

def decodeChars : List Char → Option Bytes
  | [] => some []
  | [_] => none
  | h :: l :: rest => do
    let high ← value? h
    let low ← value? l
    let bs ← decodeChars rest
    pure (UInt8.ofNat (16 * high + low) :: bs)

/-- Refuses an odd number of digits and any other character. -/
def decode? (s : String) : Option Bytes :=
  decodeChars s.toList

def bracketed (digit : Nat → Char) (bs : Bytes) : String :=
  let items := bs.map fun b => String.ofList (pair digit b)
  "[" ++ ", ".intercalate items ++ "]"

/-- A list of bytes, as in `[ff, 86, 03]`. -/
def list (bs : Bytes) : String :=
  bracketed digit bs

/-- A list of bytes in capitals, as in `[42, 4D, E1]`. -/
def listUpper (bs : Bytes) : String :=
  bracketed digitUpper bs

def digits (n : Nat) : List Char :=
  if n < 16 then [digit n] else digits (n / 16) ++ [digit (n % 16)]

/-- The digits of `n`, led by zeros up to `width`. -/
def padded (width n : Nat) : String :=
  let ds := digits n
  String.ofList (List.replicate (width - ds.length) '0' ++ ds)

/-- A number with its mark, as in `0x0f`. -/
def marked (width n : Nat) : String :=
  "0x" ++ padded width n

end AirStation.Hex
