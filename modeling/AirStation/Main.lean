import AirStation.Simulation.Station

/-! The simulator as a program. The simulated station lives in real time, one step a
millisecond, and logs to the error stream. An argument names the least severe level
that is logged: error, warn, info, debug or trace; without one it is info. -/

namespace AirStation.Main

open Simulation

def levelOf? (s : String) : Option Level :=
  [Level.error, .warn, .info, .debug, .trace].find? (·.name == s.toUpper)

def log (level : Level) (n : Notice) : IO Unit := do
  if n.level.rank ≤ level.rank then IO.eprintln s!"[{n.level.name}] {n.text}"

/-- Lives from the given moment on. -/
partial def live (level : Level) (now : Millis) (s : Station simulator) : IO Unit := do
  let (s, journal) := Timed.moment now (Station.tick now) s #[]
  journal.forM fun (_, n) => log level n
  IO.sleep 1
  live level (now + 1) s

def run (level : Level) : IO Unit := do
  log level opening
  live level 0 (Station.fresh simulator)

end AirStation.Main

def main (args : List String) : IO Unit :=
  AirStation.Main.run ((args.head?.bind AirStation.Main.levelOf?).getD .info)
