import AirStation.Acquisition
import AirStation.Proofs.Activity

/-! An acquisition task that is watched. A task's phase carries what belongs to it, so that
some of what could go wrong with a state and loose fields beside it cannot be written down.
Here the fields are loose: a bare state, a frame and a failure that may be there or not, and
the reading of the cycle at hand; and each call of a step is entered in a list when it is
made. What one step may do is said once, as a relation between the books before and after
it, with a case for each outcome. -/

namespace AirStation.Acquisition

/-- The phase without what it carries. -/
inductive State where
  | idle
  | requesting
  | awaitingResponse
  | validating
  | storing
  | sleeping
  | failed
  deriving DecidableEq

/-- What a step calls. The call of the slot is one operation under its lock, however many
attempts the lock takes. -/
inductive Call where
  | request
  | receive
  | validate
  | lock
  | sleep (length : Millis)
  deriving DecidableEq

/-- The books of a task. -/
structure Ledger (F ρ : Type) where
  state : State := .idle
  frame : Option F := none
  reading : ρ
  stats : Stats := {}
  failure : Option LockExhausted := none
  calls : List Call := []

namespace Ledger

variable {F ρ : Type}

def call (c : Call) (l : Ledger F ρ) : Ledger F ρ := { l with calls := l.calls ++ [c] }

/-- The cycle is to store the zero reading. -/
def degrade [Zero ρ] (e : SensorError) (l : Ledger F ρ) : Ledger F ρ :=
  { l with state := .storing, stats := l.stats.countFailure e, reading := 0 }

end Ledger

structure Watched (δ F ρ : Type) where
  device : δ
  ledger : Ledger F ρ

namespace Watched

variable {δ F ρ : Type} {S : Sensor δ F ρ}

/-- A task before its first cycle. -/
def fresh [Zero ρ] (d : δ) : Watched δ F ρ := ⟨d, { reading := 0 }⟩

/-- The watched task and its slot. -/
abbrev Post (δ F ρ : Type) := Watched δ F ρ × Slot ρ

def devicePart : Part (Post δ F ρ) δ :=
  ⟨fun s => s.1.device, fun d s => ({ s.1 with device := d }, s.2)⟩

def write (f : Ledger F ρ → Ledger F ρ) : Act (Post δ F ρ) Unit :=
  modify fun s => ({ s.1 with ledger := f s.1.ledger }, s.2)

/-- Ends a step with the books brought up to date. -/
def turn (f : Ledger F ρ → Ledger F ρ) : Act (Post δ F ρ) (StepProgress S) := do
  write f
  pure (.done ())

def degrade [Zero ρ] (e : SensorError) : Act (Post δ F ρ) (StepProgress S) := do
  note (.degraded e)
  turn (.degrade e)

def received [Zero ρ] :
    Progress S.receive.Paused (Except SensorError F) → Act (Post δ F ρ) (StepProgress S)
  | .paused p => pure (.paused (.receiving p))
  | .done (.ok frame) => turn fun l => { l with state := .validating, frame := some frame }
  | .done (.error e) => degrade e

/-- Takes the frame away and validates it, if there is one. -/
def validated (S : Sensor δ F ρ) : Act (Post δ F ρ) (Except SensorError ρ) := do
  let (w, _) ← get
  write fun l => { l with frame := none }
  match w.ledger.frame with
  | some frame => do
    write (.call .validate)
    pure (S.validate w.device frame)
  | none => pure (.error (.readFailed S.part "validate frame" "no frame received"))

def stored (r : ρ) :
    Progress RetryBudget (Except LockExhausted Unit) → Act (Post δ F ρ) (StepProgress S)
  | .paused budget => pure (.paused (.storing r budget))
  | .done (.ok ()) => turn fun l => { l with state := .sleeping }
  | .done (.error e) => do
    note (.slotLost S.part e)
    turn fun l => { l with state := .failed, failure := some e }

def storing (pace : Pace) (r : ρ) :
    Activity LockDemand.Reply (Post δ F ρ) (Except LockExhausted Unit) :=
  (Slot.withLockRetrying pace.lockLimit pace.lockRetries (Slot.storing r)).on .snd

def start [Measured ρ] (pace : Pace) : Act (Post δ F ρ) (StepProgress S) := do
  let (w, _) ← get
  match w.ledger.state with
  | .idle => turn fun l => { l with state := .requesting, frame := none, reading := 0 }
  | .requesting => do
    write (.call .request)
    match ← S.request.on devicePart with
    | .ok () => turn fun l => { l with state := .awaitingResponse }
    | .error e => degrade e
  | .awaitingResponse => do
    write (.call .receive)
    received (← S.receive.start.on devicePart)
  | .validating => do
    match ← validated S with
    | .ok r => do
      note (.measured S.part (Measured.reading r))
      turn fun l => { l with state := .storing, reading := r }
    | .error e => degrade e
  | .storing => do
    write (.call .lock)
    stored w.ledger.reading (← (storing pace w.ledger.reading).start)
  | .sleeping => do
    write (.call (.sleep pace.interval))
    pure (.paused .resting)
  | .failed => pure (.done ())

def resume [Measured ρ] (pace : Pace) :
    (w : Waiting S) → (w.demand pace).Reply → Act (Post δ F ρ) (StepProgress S)
  | .receiving p, reply => do received (← (S.receive.resume p reply).on devicePart)
  | .storing r budget, reply => do stored r (← (storing pace r).resume budget reply)
  | .resting, _ => turn fun l => { l with state := .idle, stats.cycles := l.stats.cycles + 1 }

/-- The step of a watched task. -/
def step [Measured ρ] (S : Sensor δ F ρ) (pace : Pace) :
    Activity Demand.Reply (Post δ F ρ) Unit where
  Paused := Waiting S
  demand := Waiting.demand pace
  start := start pace
  resume := resume pace

/-- The failure that a run reports once the task has failed, with the one it would make up
if none was recorded. -/
def cause (pace : Pace) (w : Watched δ F ρ) : LockExhausted :=
  w.ledger.failure.getD ⟨RetryBudget.succ pace.lockRetries⟩

/-- What may happen besides: the device becomes whatever it likes and others take the lock
of the slot, but none of them writes to it. -/
def Aside (s u : Post δ F ρ) : Prop := u.1.ledger = s.1.ledger ∧ u.2.state = s.2.state

end Watched

/-! ### What one step does to the books -/

/-- A step of a task that pauses so long between its cycles, by its outcome. -/
inductive Strides {F ρ : Type} [Zero ρ] (interval : Millis) :
    Ledger F ρ → SlotState ρ → Ledger F ρ → SlotState ρ → Prop where
  | begins {l : Ledger F ρ} {s : SlotState ρ} : l.state = .idle →
      Strides interval l s { l with state := .requesting, frame := none, reading := 0 } s
  | requested {l : Ledger F ρ} {s : SlotState ρ} : l.state = .requesting →
      Strides interval l s { l.call .request with state := .awaitingResponse } s
  | unrequested {l : Ledger F ρ} {s : SlotState ρ} (e : SensorError) : l.state = .requesting →
      Strides interval l s ((l.call .request).degrade e) s
  | received {l : Ledger F ρ} {s : SlotState ρ} (f : F) : l.state = .awaitingResponse →
      Strides interval l s { l.call .receive with state := .validating, frame := some f } s
  | unreceived {l : Ledger F ρ} {s : SlotState ρ} (e : SensorError) :
      l.state = .awaitingResponse → Strides interval l s ((l.call .receive).degrade e) s
  | valid {l : Ledger F ρ} {s : SlotState ρ} {f : F} (r : ρ) : l.state = .validating →
      l.frame = some f →
      Strides interval l s
        { l.call .validate with state := .storing, frame := none, reading := r } s
  | invalid {l : Ledger F ρ} {s : SlotState ρ} {f : F} (e : SensorError) :
      l.state = .validating → l.frame = some f →
      Strides interval l s (({ l.call .validate with frame := none } : Ledger F ρ).degrade e) s
  | frameless {l : Ledger F ρ} {s : SlotState ρ} (e : SensorError) : l.state = .validating →
      l.frame = none → Strides interval l s (l.degrade e) s
  | stored {l : Ledger F ρ} {s : SlotState ρ} : l.state = .storing →
      Strides interval l s { l.call .lock with state := .sleeping } (s.store l.reading)
  | lost {l : Ledger F ρ} {s : SlotState ρ} (e : LockExhausted) : l.state = .storing →
      Strides interval l s { l.call .lock with state := .failed, failure := some e } s
  | slept {l : Ledger F ρ} {s : SlotState ρ} : l.state = .sleeping →
      Strides interval l s { l.call (.sleep interval) with
        state := .idle, stats.cycles := l.stats.cycles + 1 } s
  | stays {l : Ledger F ρ} {s : SlotState ρ} : l.state = .failed → Strides interval l s l s

namespace Watched

variable {δ F ρ : Type} [Measured ρ] {S : Sensor δ F ρ} {pace : Pace}

/-- Where a step stands that began with these books: it waits in the state it began in, with
its call entered, or it is over. -/
def Stands (pace : Pace) (l : Ledger F ρ) (s : SlotState ρ) : StepProgress S → Post δ F ρ → Prop
  | .paused (.receiving _), x =>
    l.state = .awaitingResponse ∧ x.1.ledger = l.call .receive ∧ x.2.state = s
  | .paused (.storing r _), x =>
    l.state = .storing ∧ r = l.reading ∧ x.1.ledger = l.call .lock ∧ x.2.state = s
  | .paused .resting, x =>
    l.state = .sleeping ∧ x.1.ledger = l.call (.sleep pace.interval) ∧ x.2.state = s
  | .done (), x => Strides pace.interval l s x.1.ledger x.2.state

variable {l : Ledger F ρ} {s : SlotState ρ}

theorem received_stands (q : Progress S.receive.Paused (Except SensorError F))
    (hl : l.state = .awaitingResponse) {x : Post δ F ρ} (hx : x.1.ledger = l.call .receive)
    (hs : x.2.state = s) (js : Array Notice) :
    Stands pace l s (received (S := S) q x js).1.1 (received (S := S) q x js).1.2 := by
  obtain ⟨⟨d, _⟩, ⟨held, _⟩⟩ := x
  cases hx
  cases hs
  match q with
  | .paused p => exact ⟨hl, rfl, rfl⟩
  | .done (.ok f) => exact .received f hl
  | .done (.error e) => exact .unreceived e hl

theorem start_requesting {l : Ledger F ρ} (hl : l.state = .requesting) (d : δ) (slot : Slot ρ)
    (js : Array Notice) :
    (step S pace).start (⟨d, l⟩, slot) js =
      (match (S.request d js).1.1 with
        | .ok () => turn fun l => { l with state := .awaitingResponse }
        | .error e => degrade e : Act _ (StepProgress S))
      (⟨(S.request d js).1.2, l.call .request⟩, slot) (S.request d js).2 := by
  simp only [step, start, Act.bind_apply, Act.get_apply, hl]
  rfl

theorem start_validating {l : Ledger F ρ} (hl : l.state = .validating) (d : δ) (slot : Slot ρ)
    (js : Array Notice) :
    (step S pace).start (⟨d, l⟩, slot) js =
      (match (validated S (⟨d, l⟩, slot) js).1.1 with
        | .ok r => do
          note (.measured S.part (Measured.reading r))
          turn fun l => { l with state := .storing, reading := r }
        | .error e => degrade e : Act _ (StepProgress S))
      (validated S (⟨d, l⟩, slot) js).1.2 (validated S (⟨d, l⟩, slot) js).2 := by
  simp only [step, start, Act.bind_apply, Act.get_apply, hl]

omit [Measured ρ] in
theorem validated_apply (d : δ) (l : Ledger F ρ) (slot : Slot ρ) (js : Array Notice) :
    validated S (⟨d, l⟩, slot) js =
      match l.frame with
      | some f => ((S.validate d f, (⟨d, { l.call .validate with frame := none }⟩, slot)), js)
      | none => ((.error (.readFailed S.part "validate frame" "no frame received"),
          (⟨d, l⟩, slot)), js) := by
  obtain ⟨state, _ | f, reading, stats, failure, calls⟩ := l <;> rfl

theorem start_stands (w : Watched δ F ρ) (slot : Slot ρ) (js : Array Notice) :
    Stands pace w.ledger slot.state ((step S pace).start (w, slot) js).1.1
      ((step S pace).start (w, slot) js).1.2 := by
  obtain ⟨d, l⟩ := w
  cases hl : l.state with
  | idle =>
    simp only [step, start, Act.bind_apply, Act.get_apply, hl]
    exact .begins hl
  | requesting =>
    rw [start_requesting hl]
    cases (S.request d js).1.1 with
    | ok u => exact .requested hl
    | error e => exact .unrequested e hl
  | awaitingResponse =>
    simp only [step, start, Act.bind_apply, Act.get_apply, hl]
    exact received_stands _ hl rfl rfl _
  | validating =>
    rw [start_validating hl, validated_apply]
    cases hf : l.frame with
    | none => exact .frameless _ hl hf
    | some f =>
      cases hv : S.validate d f with
      | ok r =>
        simp only [hv]
        exact .valid r hl hf
      | error e =>
        simp only [hv]
        exact .invalid e hl hf
  | storing =>
    simp only [step, start, Act.bind_apply, Act.get_apply, hl]
    exact ⟨hl, rfl, rfl, rfl⟩
  | sleeping =>
    simp only [step, start, Act.bind_apply, Act.get_apply, hl]
    exact ⟨hl, rfl, rfl⟩
  | failed =>
    simp only [step, start, Act.bind_apply, Act.get_apply, hl]
    exact .stays hl

/-- The lock comes, or it does not and is asked for again or given up. -/
theorem stored_stands (r : ρ) (b : RetryBudget) (reply : Timed Unit) (hl : l.state = .storing)
    (hr : r = l.reading) {x : Post δ F ρ} (hx : x.1.ledger = l.call .lock) (hs : x.2.state = s)
    (js : Array Notice) :
    Stands pace l s ((step S pace).resume (.storing r b) reply x js).1.1
      ((step S pace).resume (.storing r b) reply x js).1.2 := by
  obtain ⟨⟨d, _⟩, ⟨held, _⟩⟩ := x
  cases hx
  cases hs
  cases hr
  cases reply with
  | ready u => exact .stored hl
  | expired =>
    rcases b.recordFailure_cases with ⟨hrec, -⟩ | ⟨hrec, -⟩
    · simp only [step, resume, storing, Activity.on, Slot.withLockRetrying, Act.bind_apply,
        Act.on_apply, Act.note_apply, hrec]
      exact ⟨hl, rfl, rfl, rfl⟩
    · simp only [step, resume, storing, Activity.on, Slot.withLockRetrying, Act.bind_apply,
        Act.on_apply, Act.note_apply, hrec]
      exact .lost _ hl

theorem resume_stands (w : Waiting S) {x y : Post δ F ρ} (h : Stands pace l s (.paused w) x)
    (hm : Aside x y) (reply : (w.demand pace).Reply) (js : Array Notice) :
    Stands pace l s ((step S pace).resume w reply y js).1.1
      ((step S pace).resume w reply y js).1.2 := by
  obtain ⟨hledger, hslot⟩ := hm
  cases w with
  | receiving p =>
    obtain ⟨hl, hx, hs⟩ := h
    let out := S.receive.resume p reply y.1.device js
    exact received_stands (x := devicePart.put out.1.2 y) out.1.1 hl (hledger.trans hx)
      (hslot.trans hs) out.2
  | storing r b =>
    obtain ⟨hl, hr, hx, hs⟩ := h
    exact stored_stands r b reply hl hr (hledger.trans hx) (hslot.trans hs) js
  | resting =>
    obtain ⟨hl, hx, hs⟩ := h
    obtain ⟨⟨d, _⟩, ⟨held, _⟩⟩ := y
    cases hledger.trans hx
    cases hslot.trans hs
    exact .slept hl

end Watched

end AirStation.Acquisition
