import AirStation.Text
import AirStation.Text.Hex

/-! Stored data and the JSON text it is read from. A number written with a fraction,
with an exponent, or too large for a 64-bit word is a real; so is a negative zero.
The reader consumes its text character by character, and every part of it hands on
what it has not read. -/

namespace AirStation

inductive Datum where
  | null
  | bool (b : Bool)
  | int (n : Int)
  | real (x : Float)
  | text (s : String)
  | list (items : List Datum)
  | record (fields : List (String × Datum))

namespace Datum

def isBlank (c : Char) : Bool :=
  c == ' ' || c == '\n' || c == '\r' || c == '\t'

def skipBlanks (cs : List Char) : List Char :=
  cs.dropWhile isBlank

/-- The value of `ds * 10 ^ e`, nearest to the written decimal. -/
def decimal (negative : Bool) (mantissa : Nat) (e : Int) : Float :=
  let x := if e < 0 then Float.ofScientific mantissa true e.natAbs
    else Float.ofScientific mantissa false e.natAbs
  if negative then -x else x

def exponent? : List Char → Option (Int × List Char)
  | '+' :: cs => unsigned 1 cs
  | '-' :: cs => unsigned (-1) cs
  | cs => unsigned 1 cs
where
  unsigned (sign : Int) (cs : List Char) : Option (Int × List Char) :=
    let (ds, rest) := Digits.span cs
    if ds.isEmpty then none else some (sign * Digits.value ds, rest)

def integer (negative : Bool) (n : Nat) : Datum :=
  if negative then
    if n == 0 || Nat.pow 2 63 < n then .real (decimal true n 0) else .int (-(n : Int))
  else if n < Nat.pow 2 64 then .int n else .real (decimal false n 0)

/-- The digits behind a point, or none where there is no point. -/
def fraction? : List Char → Option (Option (List Char) × List Char)
  | '.' :: cs =>
    let (ds, rest) := Digits.span cs
    if ds.isEmpty then none else some (some ds, rest)
  | cs => some (none, cs)

def scale? : List Char → Option (Option Int × List Char)
  | 'e' :: cs | 'E' :: cs => (exponent? cs).map fun (e, rest) => (some e, rest)
  | cs => some (none, cs)

def unsigned? (negative : Bool) (cs : List Char) : Option (Datum × List Char) := do
  let (whole, rest) := Digits.span cs
  if whole.isEmpty || (whole.length > 1 && whole.head? == some '0') then none
  let (places, rest) ← fraction? rest
  let (scale, rest) ← scale? rest
  match places, scale with
  | none, none => pure (integer negative (Digits.value whole), rest)
  | _, _ =>
    let places := places.getD []
    let e := scale.getD 0 - places.length
    pure (.real (decimal negative (Digits.value (whole ++ places)) e), rest)

def number? : List Char → Option (Datum × List Char)
  | '-' :: cs => unsigned? true cs
  | cs => unsigned? false cs

def unit? : List Char → Option (Nat × List Char)
  | a :: b :: c :: d :: rest => do
    let ds ← [a, b, c, d].mapM Hex.value?
    pure (ds.foldl (16 * · + ·) 0, rest)
  | _ => none

/-- The character of a `\u` escape. One beyond the first plane takes two of them. -/
def escaped? (cs : List Char) : Option (Char × List Char) := do
  let (high, rest) ← unit? cs
  if 0xD800 ≤ high && high < 0xDC00 then
    match rest with
    | '\\' :: 'u' :: more => do
      let (low, rest) ← unit? more
      if 0xDC00 ≤ low && low < 0xE000 then
        pure (Char.ofNat (0x10000 + (high - 0xD800) * 0x400 + (low - 0xDC00)), rest)
      else none
    | _ => none
  else if 0xDC00 ≤ high && high < 0xE000 then none
  else pure (Char.ofNat high, rest)

def simpleEscape? : Char → Option Char
  | '"' => some '"'
  | '\\' => some '\\'
  | '/' => some '/'
  | 'b' => some (Char.ofNat 8)
  | 'f' => some (Char.ofNat 12)
  | 'n' => some '\n'
  | 'r' => some '\r'
  | 't' => some '\t'
  | _ => none

/-- The characters up to the closing quote; the fuel bounds their number. -/
def string? : Nat → List Char → Option (List Char × List Char)
  | 0, _ | _, [] => none
  | _ + 1, '"' :: rest => some ([], rest)
  | fuel + 1, '\\' :: 'u' :: cs => do
    let (c, rest) ← escaped? cs
    let (tail, rest) ← string? fuel rest
    pure (c :: tail, rest)
  | fuel + 1, '\\' :: e :: cs => do
    let c ← simpleEscape? e
    let (tail, rest) ← string? fuel cs
    pure (c :: tail, rest)
  | fuel + 1, c :: cs => do
    if c.toNat < 0x20 then none
    let (tail, rest) ← string? fuel cs
    pure (c :: tail, rest)

/-- Of two fields with one name the later one counts. -/
def insert (field : String × Datum) (later : List (String × Datum)) : List (String × Datum) :=
  if later.any (·.1 == field.1) then later else field :: later

mutual

/-- One value at the head of the text; the fuel bounds the parts it has. -/
def value? : Nat → List Char → Option (Datum × List Char)
  | 0, _ => none
  | fuel + 1, cs =>
    match skipBlanks cs with
    | 'n' :: 'u' :: 'l' :: 'l' :: rest => some (.null, rest)
    | 't' :: 'r' :: 'u' :: 'e' :: rest => some (.bool true, rest)
    | 'f' :: 'a' :: 'l' :: 's' :: 'e' :: rest => some (.bool false, rest)
    | '"' :: rest => (string? (rest.length + 1) rest).map fun (s, rest) =>
        (.text (String.ofList s), rest)
    | '[' :: rest =>
      match skipBlanks rest with
      | ']' :: rest => some (.list [], rest)
      | rest => (items? fuel rest).map fun (xs, rest) => (.list xs, rest)
    | '\x7b' :: rest =>
      match skipBlanks rest with
      | '\x7d' :: rest => some (.record [], rest)
      | rest => (fields? fuel rest).map fun (fs, rest) => (.record fs, rest)
    | cs => number? cs

/-- The values of a list up to its closing bracket. -/
def items? : Nat → List Char → Option (List Datum × List Char)
  | 0, _ => none
  | fuel + 1, cs => do
    let (x, rest) ← value? fuel cs
    match skipBlanks rest with
    | ',' :: rest => (items? fuel rest).map fun (xs, rest) => (x :: xs, rest)
    | ']' :: rest => some ([x], rest)
    | _ => none

/-- The fields of a record up to its closing brace. -/
def fields? : Nat → List Char → Option (List (String × Datum) × List Char)
  | 0, _ => none
  | fuel + 1, cs => do
    let (key, rest) ← match skipBlanks cs with
      | '"' :: rest => string? (rest.length + 1) rest
      | _ => none
    let (x, rest) ← match skipBlanks rest with
      | ':' :: rest => value? fuel rest
      | _ => none
    let field := (String.ofList key, x)
    match skipBlanks rest with
    | ',' :: rest => (fields? fuel rest).map fun (fs, rest) => (insert field fs, rest)
    | '\x7d' :: rest => some ([field], rest)
    | _ => none

end

/-- The datum a text holds, if it holds exactly one. -/
def read? (s : String) : Option Datum := do
  let cs := s.toList
  let (d, rest) ← value? (2 * cs.length + 1) cs
  if (skipBlanks rest).isEmpty then some d else none

def field? (fields : List (String × Datum)) (name : String) : Option Datum :=
  (fields.find? (·.1 == name)).map (·.2)

end Datum

end AirStation
