import Mathlib.Logic.Function.Basic
import AirStation.Proofs.Entries
import AirStation.Telemetry.Store

/-! Calls on the slots of one store. Any number of them are under way at the same time, so
whatever tasks there are, each makes its calls one after another among these. Between two
looks at a lock somebody outside may take it or give it back, and the time of a wait may be
up at any moment. A log keeps what the looks found, in the order of time. -/

namespace AirStation

/-- The readings of a quantity. -/
abbrev Quantity.Value : Quantity → Type
  | .co2 => CarbonDioxide
  | .dust => Particulates
  | .pressure => Atmosphere

instance (q : Quantity) : Zero q.Value :=
  match q with
  | .co2 => inferInstanceAs (Zero CarbonDioxide)
  | .dust => inferInstanceAs (Zero Particulates)
  | .pressure => inferInstanceAs (Zero Atmosphere)

namespace Store

/-! ### The slots of a store -/

def part : (q : Quantity) → Part Store (Slot q.Value)
  | .co2 => co2Part
  | .dust => dustPart
  | .pressure => pressurePart

/-- What the slot of a quantity holds. -/
def contents (st : Store) (q : Quantity) : SlotState q.Value := ((part q).get st).state

variable {q r : Quantity} (st : Store)

theorem held_eq (q : Quantity) : st.held q = ((part q).get st).held := by cases q <;> rfl

theorem tryLock_eq (q : Quantity) : tryLock q = Slot.tryLock.on (part q) := by cases q <;> rfl

@[simp] theorem part_get_put (s : Slot q.Value) : (part q).get ((part q).put s st) = s := by
  cases q <;> rfl

theorem part_get_put_of_ne (h : r ≠ q) (s : Slot q.Value) :
    (part r).get ((part q).put s st) = (part r).get st := by
  cases q <;> cases r <;> first | exact absurd rfl h | rfl

@[simp] theorem part_put_get (q : Quantity) : (part q).put ((part q).get st) st = st := by
  cases q <;> rfl

@[simp] theorem part_put_put (s t : Slot q.Value) :
    (part q).put s ((part q).put t st) = (part q).put s st := by
  cases q <;> rfl

theorem setHeld_eq (held : Bool) (q : Quantity) :
    st.setHeld held q = (part q).put ⟨held, st.contents q⟩ st := by
  cases q <;> rfl

theorem contents_put (s : Slot q.Value) :
    contents ((part q).put s st) = Function.update st.contents q s.state := by
  funext r
  by_cases h : r = q
  · subst h
    rw [Function.update_self, contents, part_get_put]
  · rw [Function.update_of_ne h, contents, part_get_put_of_ne st h, contents]

theorem held_put (s : Slot q.Value) :
    held ((part q).put s st) = Function.update st.held q s.held := by
  funext r
  by_cases h : r = q
  · subst h
    rw [Function.update_self, held_eq, part_get_put]
  · rw [Function.update_of_ne h, held_eq, part_get_put_of_ne st h, held_eq]

/-- A lock that is held is not to be had, and a free one is taken. -/
theorem tryLock_apply (q : Quantity) (js : Array Notice) :
    tryLock q st js = if st.held q then ((none, st), js)
      else ((some (), (part q).put ⟨true, st.contents q⟩ st), js) := by
  rw [tryLock_eq, held_eq]
  by_cases h : ((part q).get st).held = true
  · rw [if_pos h]
    simp [Slot.tryLock, h]
  · rw [if_neg h]
    simp [Slot.tryLock, h, contents]

end Store

namespace Telemetry

/-! ### Calls -/

variable {α β : Type}

/-- A call on a store: a use of one slot with one wait for its lock, a use of one slot with
more waits, or a copy of all slots. -/
inductive Call (α : Type) where
  | once (q : Quantity) (limit : Millis) (f : SlotState q.Value → α × SlotState q.Value)
  | retrying (q : Quantity) (limit : Millis) (retries : UInt8)
      (f : SlotState q.Value → α × SlotState q.Value)
  | copies (limit : Millis)

/-- What a call returns. -/
inductive Outcome (α : Type) where
  | answered (r : Except LockTimeout α)
  | tried (r : Except LockExhausted α)
  | copied (s : Snapshot)

/-- The activity on one slot as one on the store. -/
def onSlot (q : Quantity) (A : Activity LockDemand.Reply (Slot q.Value) β) :
    Activity StoreDemand.Reply Store β where
  Paused := A.Paused
  demand p := ⟨q, (A.demand p).limit⟩
  start := A.start.on (Store.part q)
  resume p reply := (A.resume p reply).on (Store.part q)

def Call.activity : Call α → Activity StoreDemand.Reply Store (Outcome α)
  | .once q limit f => (onSlot q (Slot.withLock limit f)).andThen fun r => pure (.answered r)
  | .retrying q limit retries f =>
    (onSlot q (Slot.withLockRetrying limit retries f)).andThen fun r => pure (.tried r)
  | .copies limit => (Store.snapshot limit).andThen fun s => pure (.copied s)

/-- The slot whose lock a paused call waits for. -/
def Call.quantity (c : Call α) (p : c.activity.Paused) : Quantity :=
  (c.activity.demand p).quantity

/-- What a call makes of a slot's contents where it has the lock. -/
inductive Call.Runs : Call α → (q : Quantity) → SlotState q.Value → SlotState q.Value → Prop where
  | once {q : Quantity} {limit : Millis} {f : SlotState q.Value → α × SlotState q.Value}
      (s : SlotState q.Value) : Runs (.once q limit f) q s (f s).2
  | retrying {q : Quantity} {limit : Millis} {retries : UInt8}
      {f : SlotState q.Value → α × SlotState q.Value} (s : SlotState q.Value) :
      Runs (.retrying q limit retries f) q s (f s).2
  | copies {limit : Millis} (q : Quantity) (s : SlotState q.Value) : Runs (.copies limit) q s s

/-- What a call finds: the lock held, the time up, or the lock free; then it has made the
slot's contents before into those after and has given the lock back. -/
inductive Sight where
  | busy (q : Quantity)
  | late (q : Quantity)
  | ran (q : Quantity) (before after : SlotState q.Value)

/-- One wait for a lock is over: each look but the last found it held, and at the last it was
free and `f` ran, or else the time was up. -/
inductive Settles (q : Quantity) (f : SlotState q.Value → β × SlotState q.Value) :
    List Sight → Option β → Prop where
  | ran (n : Nat) (s : SlotState q.Value) :
      Settles q f (.replicate n (.busy q) ++ [.ran q s (f s).2]) (some (f s).1)
  | late (n : Nat) : Settles q f (.replicate n (.busy q) ++ [.late q]) none

/-- What a call has found by the time it returns. -/
inductive Earned : Call α → List Sight → Outcome α → Prop where
  | ok {q : Quantity} {limit : Millis} {f : SlotState q.Value → α × SlotState q.Value}
      {ss : List Sight} {a : α} : Settles q f ss (some a) →
      Earned (.once q limit f) ss (.answered (.ok a))
  | timeout {q : Quantity} {limit : Millis} {f : SlotState q.Value → α × SlotState q.Value}
      {ss : List Sight} : Settles q f ss none →
      Earned (.once q limit f) ss (.answered (.error {}))
  | retried {q : Quantity} {limit : Millis} {retries : UInt8}
      {f : SlotState q.Value → α × SlotState q.Value} {failed : List (List Sight)}
      {last : List Sight} {a : α} : (∀ ss ∈ failed, Settles q f ss none) →
      (retries ≠ 255 → failed.length ≤ retries.toNat) → Settles q f last (some a) →
      Earned (.retrying q limit retries f) (failed.flatten ++ last) (.tried (.ok a))
  | exhausted {q : Quantity} {limit : Millis} {retries : UInt8}
      {f : SlotState q.Value → α × SlotState q.Value} {failed : List (List Sight)}
      {e : LockExhausted} : (∀ ss ∈ failed, Settles q f ss none) → retries ≠ 255 →
      failed.length = retries.toNat + 1 → e.attempts.toNat = failed.length →
      Earned (.retrying q limit retries f) failed.flatten (.tried (.error e))
  | copied {limit : Millis} {s : Snapshot} {ss₁ ss₂ ss₃ : List Sight} :
      Settles .co2 Slot.reading ss₁ s.co2 → Settles .dust Slot.reading ss₂ s.dust →
      Settles .pressure Slot.reading ss₃ s.pressure →
      Earned (.copies limit) (ss₁ ++ ss₂ ++ ss₃) (.copied s)

/-- What a call has found while it still waits. -/
inductive Waits : (c : Call α) → c.activity.Paused → List Sight → Prop where
  | once {q : Quantity} {limit : Millis} {f : SlotState q.Value → α × SlotState q.Value}
      (n : Nat) : Waits (.once q limit f) () (.replicate n (.busy q))
  | retrying {q : Quantity} {limit : Millis} {retries : UInt8}
      {f : SlotState q.Value → α × SlotState q.Value} {failed : List (List Sight)}
      {budget : RetryBudget} (n : Nat) : (∀ ss ∈ failed, Settles q f ss none) →
      (retries ≠ 255 → failed.length ≤ retries.toNat) → budget.max = retries →
      budget.failures.toNat = min failed.length 255 →
      Waits (.retrying q limit retries f) budget (failed.flatten ++ .replicate n (.busy q))
  | co2 {limit : Millis} (n : Nat) :
      Waits (.copies limit) Store.Copying.co2 (.replicate n (.busy .co2))
  | dust {limit : Millis} {ss : List Sight} {c : Option (SlotSnapshot CarbonDioxide)} (n : Nat) :
      Settles .co2 Slot.reading ss c →
      Waits (.copies limit) (Store.Copying.dust c) (ss ++ .replicate n (.busy .dust))
  | pressure {limit : Millis} {ss₁ ss₂ : List Sight} {c : Option (SlotSnapshot CarbonDioxide)}
      {d : Option (SlotSnapshot Particulates)} (n : Nat) :
      Settles .co2 Slot.reading ss₁ c → Settles .dust Slot.reading ss₂ d →
      Waits (.copies limit) (Store.Copying.pressure c d)
        (ss₁ ++ ss₂ ++ .replicate n (.busy .pressure))

/-! ### What a reply does to a call -/

/-- Where a call stands after what it has found. -/
def Call.Stands (c : Call α) (ss : List Sight) :
    Progress c.activity.Paused (Outcome α) → Prop
  | .paused p => Waits c p ss
  | .done o => Earned c ss o

section Begins

variable {q : Quantity} {limit : Millis} {retries : UInt8}
  {f : SlotState q.Value → α × SlotState q.Value} {ss ss₁ ss₂ : List Sight}
  {c : Option (SlotSnapshot CarbonDioxide)} {d : Option (SlotSnapshot Particulates)}

theorem append_busy (ss : List Sight) (n : Nat) (q : Quantity) :
    ss ++ .replicate n (.busy q) ++ [.busy q] = ss ++ .replicate (n + 1) (.busy q) := by
  rw [List.append_assoc, List.replicate_succ']

/-- One more wait after some that were in vain. -/
theorem Waits.again {failed : List (List Sight)} {budget : RetryBudget}
    (hfailed : ∀ ss ∈ failed, Settles q f ss none)
    (hle : retries ≠ 255 → failed.length ≤ retries.toNat) (hmax : budget.max = retries)
    (hcount : budget.failures.toNat = min failed.length 255) :
    Waits (.retrying q limit retries f) budget failed.flatten := by
  have h : Waits (.retrying q limit retries f) budget
      (failed.flatten ++ .replicate 0 (.busy q)) := .retrying 0 hfailed hle hmax hcount
  simpa using h

theorem Waits.dust_begins (hc : Settles .co2 Slot.reading ss c) :
    Waits (.copies limit : Call α) (Store.Copying.dust c) ss := by
  have h : Waits (.copies limit : Call α) (Store.Copying.dust c)
      (ss ++ .replicate 0 (.busy .dust)) := .dust 0 hc
  simpa using h

theorem Waits.pressure_begins (hc : Settles .co2 Slot.reading ss₁ c)
    (hd : Settles .dust Slot.reading ss₂ d) :
    Waits (.copies limit : Call α) (Store.Copying.pressure c d) (ss₁ ++ ss₂) := by
  have h : Waits (.copies limit : Call α) (Store.Copying.pressure c d)
      (ss₁ ++ ss₂ ++ .replicate 0 (.busy .pressure)) := .pressure 0 hc hd
  simpa using h

/-- The waits in vain with one more. -/
theorem Settles.concat_late {failed : List (List Sight)}
    (h : ∀ ss ∈ failed, Settles q f ss none) (n : Nat) :
    ∀ ss ∈ failed ++ [.replicate n (.busy q) ++ [.late q]], Settles q f ss none := by
  intro ss hss
  rcases List.mem_append.1 hss with hold | hnew
  · exact h ss hold
  · rw [List.mem_singleton.1 hnew]
    exact .late n

/-- When its time is up a call waits again as long as its budget lasts, and the store is left
as it is. -/
theorem retrying_resume_expired (budget : RetryBudget) (st : Store) (js : Array Notice) :
    let A := (Call.retrying q limit retries f).activity
    (A.resume budget (.expired : Timed Unit) st js).1 = (.paused budget.consume, st) ∧
        (RetryBudget.succ budget.failures).toNat ≤ budget.max.toNat ∨
      (A.resume budget (.expired : Timed Unit) st js).1 =
          (.done (.tried (.error ⟨RetryBudget.succ budget.failures⟩)), st) ∧
        budget.max.toNat < (RetryBudget.succ budget.failures).toNat := by
  intro A
  rcases budget.recordFailure_cases with ⟨hrec, hin⟩ | ⟨hrec, hout⟩
  · refine .inl ⟨?_, hin⟩
    simp [A, Call.activity, onSlot, Activity.andThen, Activity.finish, Slot.withLockRetrying, hrec]
  · refine .inr ⟨?_, hout⟩
    simp [A, Call.activity, onSlot, Activity.andThen, Activity.finish, Slot.withLockRetrying, hrec]

/-- A wait in vain counts once: the call waits again, or its budget has run out. -/
theorem Waits.retrying_expired {failed : List (List Sight)} {budget : RetryBudget} (n : Nat)
    (hfailed : ∀ ss ∈ failed, Settles q f ss none)
    (hle : retries ≠ 255 → failed.length ≤ retries.toNat) (hmax : budget.max = retries)
    (hcount : budget.failures.toNat = min failed.length 255) (st : Store) (js : Array Notice) :
    let A := (Call.retrying q limit retries f).activity
    (A.resume budget (.expired : Timed Unit) st js).1.2 = st ∧
      (Call.retrying q limit retries f).Stands
        (failed.flatten ++ (.replicate n (.busy q) ++ [.late q]))
        (A.resume budget (.expired : Timed Unit) st js).1.1 := by
  intro A
  let failed' := failed ++ [.replicate n (.busy q) ++ [.late q]]
  have hfailed' : ∀ ss ∈ failed', Settles q f ss none := Settles.concat_late hfailed n
  have hlen : failed'.length = failed.length + 1 := by simp [failed']
  have hflat : failed.flatten ++ (.replicate n (.busy q) ++ [.late q]) = failed'.flatten := by
    simp [failed']
  have hcount' : (RetryBudget.succ budget.failures).toNat = min failed'.length 255 := by
    rw [RetryBudget.toNat_succ, hcount, hlen]
    omega
  rw [hflat]
  rcases retrying_resume_expired budget st js with ⟨hres, hin⟩ | ⟨hres, hout⟩
  · rw [hres]
    refine ⟨rfl, .again hfailed' ?_ hmax hcount'⟩
    intro hne
    have hlt := RetryBudget.toNat_lt_of_ne hne
    rw [hmax, hcount'] at hin
    omega
  · rw [hres]
    rw [hmax, hcount'] at hout
    have hne : retries ≠ 255 := by
      rintro rfl
      exact absurd hout (Nat.not_lt.2 (Nat.min_le_right _ _))
    have hall : failed'.length = retries.toNat + 1 := by
      have hfew := hle hne
      omega
    refine ⟨rfl, .exhausted hfailed' hne hall ?_⟩
    change (RetryBudget.succ budget.failures).toNat = failed'.length
    omega

end Begins

variable {c : Call α} {p : c.activity.Paused} {ss : List Sight}

theorem Call.start_stands (c : Call α) (st : Store) (js : Array Notice) :
    (c.activity.start st js).1.2 = st ∧ c.Stands [] (c.activity.start st js).1.1 := by
  cases c with
  | once q limit f => exact ⟨Store.part_put_get st q, .once 0⟩
  | retrying q limit retries f =>
    refine ⟨Store.part_put_get st q, ?_⟩
    exact .retrying 0 (List.forall_mem_nil _) (fun _ => Nat.zero_le _) rfl rfl
  | copies limit => exact ⟨rfl, .co2 0⟩

/-- A look that finds the lock held leaves a call waiting. -/
theorem Waits.busy (h : Waits c p ss) : Waits c p (ss ++ [.busy (c.quantity p)]) := by
  cases h with
  | once n => exact append_busy [] n _ ▸ .once (n + 1)
  | retrying n hfailed hle hmax hcount =>
    exact append_busy _ n _ ▸ .retrying (n + 1) hfailed hle hmax hcount
  | co2 n => exact append_busy [] n _ ▸ .co2 (n + 1)
  | dust n hc => exact append_busy _ n _ ▸ .dust (n + 1) hc
  | pressure n hc hd => exact append_busy _ n _ ▸ .pressure (n + 1) hc hd

/-- With the lock a call runs once on the contents, gives the lock back and goes on. -/
theorem Waits.ready (h : Waits c p ss) (st : Store) (js : Array Notice) :
    ∃ s, c.Runs (c.quantity p) (st.contents (c.quantity p)) s ∧
      (c.activity.resume p (.ready () : Timed Unit) st js).1.2 =
        (Store.part (c.quantity p)).put ⟨false, s⟩ st ∧
      c.Stands (ss ++ [.ran (c.quantity p) (st.contents (c.quantity p)) s])
        (c.activity.resume p (.ready () : Timed Unit) st js).1.1 := by
  cases h with
  | once n => exact ⟨_, .once _, rfl, .ok (.ran n _)⟩
  | retrying n hfailed hle _ _ =>
    refine ⟨_, .retrying _, rfl, ?_⟩
    rw [List.append_assoc]
    exact .retried hfailed hle (.ran n _)
  | co2 n => exact ⟨_, .copies _ _, rfl, .dust_begins (.ran n _)⟩
  | dust n hc =>
    refine ⟨_, .copies _ _, rfl, ?_⟩
    rw [List.append_assoc]
    exact .pressure_begins hc (.ran n _)
  | pressure n hc hd =>
    refine ⟨_, .copies _ _, rfl, ?_⟩
    rw [List.append_assoc]
    exact .copied hc hd (.ran n _)

/-- Without the lock in time a call leaves the store as it is. -/
theorem Waits.expired (h : Waits c p ss) (st : Store) (js : Array Notice) :
    (c.activity.resume p (.expired : Timed Unit) st js).1.2 = st ∧
      c.Stands (ss ++ [.late (c.quantity p)])
        (c.activity.resume p (.expired : Timed Unit) st js).1.1 := by
  cases h with
  | once n => exact ⟨Store.part_put_get st _, .timeout (.late n)⟩
  | retrying n hfailed hle hmax hcount =>
    rw [List.append_assoc]
    exact Waits.retrying_expired n hfailed hle hmax hcount st js
  | co2 n => exact ⟨rfl, .dust_begins (.late n)⟩
  | dust n hc =>
    rw [List.append_assoc]
    exact ⟨rfl, .pressure_begins hc (.late n)⟩
  | pressure n hc hd =>
    rw [List.append_assoc]
    exact ⟨rfl, .copied hc hd (.late n)⟩

end Telemetry

end AirStation
