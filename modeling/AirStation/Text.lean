/-! How the station writes things down: the names of things of which there are finitely
many, the decimal digits of a number, and numbers with a fixed count of decimal places. A
float is taken at its exact binary value, and a value half way between two texts goes to
the even one. -/

namespace AirStation

/-- A kind of things of which there are finitely many, each with a name of its own. -/
class Named (α : Type) where
  all : List α
  name : α → String

/-- The thing of that name. -/
def Named.ofName? {α : Type} [Named α] (s : String) : Option α :=
  (Named.all : List α).find? (Named.name · == s)

/-! ### Decimal digits -/

namespace Digits

def isDigit (c : Char) : Bool := '0' ≤ c && c ≤ '9'

/-- The leading digits and the rest. -/
def span (cs : List Char) : List Char × List Char :=
  (cs.takeWhile isDigit, cs.dropWhile isDigit)

def value (ds : List Char) : Nat :=
  ds.foldl (fun n d => 10 * n + (d.toNat - '0'.toNat)) 0

/-- The number that a text is, if it is one digit or more and nothing else. -/
def nat? (cs : List Char) : Option Nat :=
  if cs.isEmpty || cs.any (!isDigit ·) then none else some (value cs)

end Digits

/-! ### Decimal places -/

namespace Fixed

/-- The integer nearest to `num / den`; of two nearest ones the even one. -/
def roundHalfEven (num den : Nat) : Nat :=
  let q := num / den
  let twice := 2 * (num % den)
  if twice < den then q
  else if den < twice then q + 1
  else q + q % 2

/-- Twice the remainder of the rounding never exceeds the divisor. -/
theorem roundHalfEven_near (num den : Nat) (h : 0 < den) :
    2 * num ≤ 2 * roundHalfEven num den * den + den ∧
      2 * roundHalfEven num den * den ≤ 2 * num + den := by
  have hd : den * (num / den) + num % den = num := Nat.div_add_mod num den
  have hm : num % den < den := Nat.mod_lt _ h
  have hc : 2 * (num / den) * den = 2 * (den * (num / den)) := by
    rw [Nat.mul_assoc, Nat.mul_comm (num / den)]
  have hs : 2 * (num / den + 1) * den = 2 * (den * (num / den)) + 2 * den := by
    rw [Nat.mul_assoc, Nat.add_mul, Nat.mul_comm (num / den)]; omega
  unfold roundHalfEven
  simp only
  split
  · omega
  · split
    · omega
    · rcases Nat.mod_two_eq_zero_or_one (num / den) with h2 | h2
      · rw [h2, Nat.add_zero]; omega
      · rw [h2]; omega

/-- A finite float: the sign, and the magnitude `mantissa * 2 ^ (shift - 1074)`. -/
structure Binary where
  negative : Bool
  mantissa : Nat
  shift : Nat

inductive Class where
  | finite (b : Binary)
  | infinite (negative : Bool)
  | nan

/-- The fields of an IEEE double. -/
def classify (x : Float) : Class :=
  let bits := x.toBits.toNat
  let negative := bits / Nat.pow 2 63 == 1
  let exponent := bits / Nat.pow 2 52 % Nat.pow 2 11
  let fraction := bits % Nat.pow 2 52
  if exponent == 2047 then
    if fraction == 0 then .infinite negative else .nan
  else if exponent == 0 then .finite ⟨negative, fraction, 0⟩
  else .finite ⟨negative, fraction + Nat.pow 2 52, exponent - 1⟩

/-- The magnitude in units of `10 ^ -places`, rounded. -/
def Binary.scaled (b : Binary) (places : Nat) : Nat :=
  if 1074 ≤ b.shift then b.mantissa * Nat.pow 10 places * Nat.pow 2 (b.shift - 1074)
  else roundHalfEven (b.mantissa * Nat.pow 10 places) (Nat.pow 2 (1074 - b.shift))

def decimal (places units : Nat) : String :=
  if places == 0 then toString units
  else
    let low := toString (units % Nat.pow 10 places)
    let zeros := String.ofList (List.replicate (places - low.length) '0')
    toString (units / Nat.pow 10 places) ++ "." ++ zeros ++ low

def sign (negative : Bool) : String :=
  if negative then "-" else ""

/-- Negative zero keeps its sign. -/
def text (places : Nat) (x : Float) : String :=
  match classify x with
  | .finite b => sign b.negative ++ decimal places (b.scaled places)
  | .infinite negative => sign negative ++ "inf"
  | .nan => "NaN"

end Fixed

end AirStation
