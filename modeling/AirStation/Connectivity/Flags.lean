/-! The connectivity bitset. Four bits have a meaning; others may be set but are
left out of every snapshot. -/

namespace AirStation

structure Flags where
  bits : UInt32
  deriving DecidableEq, Inhabited

namespace Flags

def none : Flags := ⟨0⟩
/-- Associated and holding an address. -/
def linkUp : Flags := ⟨1⟩
/-- The reconnect budget ran out. Only a new address takes it back. -/
def linkFailed : Flags := ⟨2⟩
/-- A broker session stands. -/
def brokerUp : Flags := ⟨4⟩
/-- A one-shot request to tear the broker session down. -/
def mustDisconnect : Flags := ⟨8⟩

def all : Flags := ⟨15⟩

def union (f g : Flags) : Flags := ⟨f.bits ||| g.bits⟩
def inter (f g : Flags) : Flags := ⟨f.bits &&& g.bits⟩
def diff (f g : Flags) : Flags := ⟨f.bits &&& ~~~g.bits⟩

def contains (f g : Flags) : Bool := f.inter g == g
def meets (f g : Flags) : Bool := f.inter g != none

/-- The bits that have a meaning. -/
def known (f : Flags) : Flags := f.inter all

def names : List (Flags × String) :=
  [(linkUp, "LINK_UP"), (linkFailed, "LINK_FAILED"), (brokerUp, "BROKER_UP"),
    (mustDisconnect, "MUST_DISCONNECT")]

/-- The names of the set bits in bit order, as they stand in log lines. -/
def describe (f : Flags) : String :=
  let set := (names.filter fun (g, _) => f.contains g).map (·.2)
  "ConnectivityFlags(" ++ (if set.isEmpty then "0x0" else " | ".intercalate set) ++ ")"

end Flags

end AirStation
