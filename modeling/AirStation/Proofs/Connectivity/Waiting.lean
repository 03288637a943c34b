import AirStation.Proofs.Connectivity.Flags
import AirStation.Rig.Drive
import AirStation.Proofs.Activity

/-! The wait for a flag. The waiter looks at the flags once, and after that only when the
latch was set. While it is parked one invariant holds: a flag of its mask is up only if the
latch is set. Raising a flag that is not up yet sets the latch, lowering a flag takes none
up, and a look that finds nothing leaves no flag of the mask up. So a look finds something
just if a flag of the mask is up at that moment, whatever set the latch and whenever. -/

namespace AirStation

/-- A change of the flags by some task. -/
inductive Change where
  | raise (f : Flags)
  | lower (f : Flags)

namespace Change

def apply : Change → Connectivity → Connectivity
  | .raise f, c => c.raise f
  | .lower f, c => c.lower f

/-- The change as the bitset sees it. -/
def onFlags : Change → Flags → Flags
  | .raise f, g => g.union f
  | .lower f, g => g.diff f

/-- The change under a scripted clock. -/
def happen (x : Change) : Act (Connectivity × Rig.Clock Change) Unit :=
  modify fun s => (x.apply s.1, s.2)

end Change

/-- The flags after a batch of changes. -/
def Flags.after (xs : List Change) (f : Flags) : Flags := xs.foldl (fun f x => x.onFlags f) f

namespace Connectivity

/-- The shared state after a batch of changes. -/
def after (xs : List Change) (c : Connectivity) : Connectivity :=
  xs.foldl (fun c x => x.apply c) c

variable {limit : Millis} {mask : Flags} {c d : Connectivity}

/-! ### The invariant of a parked waiter -/

/-- A flag of the mask is up only if the latch is set. -/
def Wakes (mask : Flags) (c : Connectivity) : Prop :=
  c.snapshot.meets mask = true → c.changed = true

theorem Wakes.apply (h : Wakes mask c) (x : Change) : Wakes mask (x.apply c) := by
  intro hup
  cases x with
  | lower f => exact h (Flags.meets_of_diff hup)
  | raise f =>
    change (c.changed || !c.flags.contains f) = true
    cases hf : c.flags.contains f with
    | false => exact Bool.or_true _
    | true =>
      have hsame : (c.raise f).flags = c.flags := Flags.union_of_contains hf
      have hbefore : c.snapshot.meets mask = true := by
        rw [snapshot, ← hsame]
        exact hup
      rw [h hbefore, Bool.true_or]

/-- A look takes the latch, and it finds something just if a flag of the mask is up. -/
theorem Wakes.look_apply (h : Wakes mask c) (js : Array Notice) :
    look mask c js =
      ((if c.snapshot.meets mask then some () else none, { c with changed := false }), js) := by
  obtain ⟨flags, changed, budget⟩ := c
  cases changed with
  | true => rfl
  | false =>
    have hdown : ¬ (snapshot ⟨flags, false, budget⟩).meets mask = true := fun hup => by
      have := h hup
      cases this
    rw [if_neg hdown]
    rfl

/-- What a waiter that is parked may find: it has begun and found nothing, the flags were
changed, or it has looked and found nothing. -/
inductive Parked (limit : Millis) (mask : Flags) : Connectivity → Prop where
  | begins {c d : Connectivity} (js : Array Notice) :
      ((waitFor limit mask).start c js).1 = (.paused (), d) → Parked limit mask d
  | changes {c : Connectivity} (x : Change) : Parked limit mask c → Parked limit mask (x.apply c)
  | looks {c d : Connectivity} (js : Array Notice) : Parked limit mask c →
      (look mask c js).1 = (none, d) → Parked limit mask d

theorem start_apply (c : Connectivity) (js : Array Notice) :
    (waitFor limit mask).start c js =
      ((if c.snapshot.meets mask then .done c.snapshot else .paused (), c), js) := rfl

theorem Parked.wakes (h : Parked limit mask c) : Wakes mask c := by
  induction h with
  | begins js h =>
    rw [start_apply] at h
    split at h
    next hup => cases h
    next hdown =>
      cases h
      exact fun hup => absurd hup hdown
  | changes x _ ih => exact ih.apply x
  | @looks c d js _ h ih =>
    rw [ih.look_apply] at h
    split at h
    next hup => cases h
    next hdown =>
      cases h
      exact fun hup => absurd hup hdown

/-! ### A wait under a script -/

/-- Changes come to the flags and the latch only. -/
theorem after_eq (xs : List Change) (c : Connectivity) :
    c.after xs = { c with flags := c.flags.after xs, changed := (c.after xs).changed } := by
  induction xs generalizing c with
  | nil => rfl
  | cons x xs ih =>
    cases x with
    | raise f => exact ih (c.raise f)
    | lower f => exact ih (c.lower f)

theorem Wakes.after (h : Wakes mask c) (xs : List Change) : Wakes mask (c.after xs) := by
  induction xs generalizing c with
  | nil => exact h
  | cons x xs ih => exact ih (h.apply x)

theorem forM_happen (xs : List Change) (c : Connectivity) (k : Rig.Clock Change)
    (js : Array Notice) :
    (xs.forM Change.happen : Act _ PUnit) (c, k) js = ((⟨⟩, (c.after xs, k)), js) := by
  induction xs generalizing c with
  | nil => rfl
  | cons x xs ih => exact ih (x.apply c)

/-- Where a wait that finds nothing at first is over: at the first moment at which the time is
up or a flag of the mask is, else with the script. The flags are those of that moment. -/
def ending (mask : Flags) : List (Rig.Stage Change) → Flags → Flags × List (Rig.Stage Change)
  | [], f => (f, [])
  | stage :: rest, f =>
    let g := f.after stage.events
    if stage.expires || g.known.meets mask then (g, rest) else ending mask rest g

/-- One stage of a wait: its events happen, and unless the time is up then the waiter looks. -/
theorem retry_cons (stage : Rig.Stage Change) (rest : List (Rig.Stage Change)) (c : Connectivity)
    (k : Rig.Clock Change) (js : Array Notice) :
    Rig.Clock.retry .snd Change.happen ((look mask).on .fst) (stage :: rest) (c, k) js =
      if stage.expires then ((.expired, (c.after stage.events, { k with stages := rest })), js)
      else
        match look mask (c.after stage.events) js with
        | ((some u, d), js) => ((.ready u, (d, { k with stages := rest })), js)
        | ((none, d), js) =>
          Rig.Clock.retry .snd Change.happen ((look mask).on .fst) rest
            (d, { k with stages := rest }) js := by
  rw [Rig.Clock.retry, Act.bind_apply, Act.modify_apply, Act.bind_apply, Part.snd, forM_happen]
  cases stage.expires with
  | true => rfl
  | false =>
    rcases hlook : look mask (c.after stage.events) js with ⟨⟨_ | u, d⟩, js'⟩ <;>
      simp only [Bool.false_eq_true, if_false, Act.bind_apply, Act.on_apply, Part.fst, hlook,
        Act.pure_apply]

/-- The stages go by up to the end of the wait, and what the events of these stages do is all
that happens to the flags. -/
theorem Wakes.retry (h : Wakes mask c) (stages : List (Rig.Stage Change)) (k : Rig.Clock Change)
    (js : Array Notice) :
    ∃ r changed, Rig.Clock.retry .snd Change.happen ((look mask).on .fst) stages
        (c, { k with stages }) js =
      ((r, ({ c with flags := (ending mask stages c.flags).1, changed },
        { k with stages := (ending mask stages c.flags).2 })), js) := by
  induction stages generalizing c with
  | nil => exact ⟨_, _, rfl⟩
  | cons stage rest ih =>
    have hafter := h.after stage.events
    obtain ⟨latch, hc⟩ : ∃ latch, c.after stage.events =
        { c with flags := c.flags.after stage.events, changed := latch } := ⟨_, after_eq _ _⟩
    rw [retry_cons, ending]
    rw [hc] at hafter ⊢
    cases stage.expires with
    | true => exact ⟨_, _, rfl⟩
    | false =>
      rw [if_neg Bool.false_ne_true, Bool.false_or, hafter.look_apply]
      cases hup : (c.flags.after stage.events).known.meets mask with
      | true =>
        rw [snapshot, hup]
        exact ⟨_, _, rfl⟩
      | false =>
        rw [snapshot, hup]
        exact ih (c := { c with flags := c.flags.after stage.events, changed := false })
          fun hmeets => absurd hmeets (by simp [snapshot, hup])

/-- A waiter that finds no flag of its mask up asks the clock once for its limit. The first
look of the wait takes a latch that was set before. -/
theorem serveFlags_apply (limit : Millis) (hdown : ¬ c.snapshot.meets mask = true)
    (stages : List (Rig.Stage Change)) (calls : Array Rig.Call) (sleeps : Option Nat)
    (js : Array Notice) :
    ∃ r changed, Rig.serveFlags .fst .snd Change.happen ⟨limit, mask⟩
        (c, ⟨stages, calls, sleeps, none⟩) js =
      ((some r, ({ c with flags := (ending mask stages c.flags).1, changed },
        ⟨(ending mask stages c.flags).2, calls.push (.timeout limit), sleeps, none⟩)), js) := by
  -- The latch may be set from before: the first look takes it and finds nothing.
  have hparked : Wakes mask c := fun hup => absurd hup hdown
  have hlooked : Wakes mask { c with changed := false } := fun hup => absurd hup hdown
  obtain ⟨r, changed, hretry⟩ :=
    hlooked.retry stages ⟨stages, calls.push (.timeout limit), sleeps, none⟩ js
  have hask : Rig.Clock.ask .snd (.timeout limit) (c, ⟨stages, calls, sleeps, none⟩) js =
      ((true, (c, (⟨stages, calls.push (.timeout limit), sleeps, none⟩ : Rig.Clock Change))), js) :=
    rfl
  have hlook (k : Rig.Clock Change) : (look mask).on .fst (c, k) js =
      ((none, ({ c with changed := false }, k)), js) := by
    rw [Act.on_apply, Part.fst, hparked.look_apply, if_neg hdown]
  refine ⟨r, changed, ?_⟩
  rw [Rig.serveFlags, Rig.Clock.timeout, Act.bind_apply, hask, if_pos rfl, Act.bind_apply, hlook]
  simp only [Act.bind_apply, Act.get_apply, Act.pure_apply]
  exact congrArg (fun out => ((some out.1.1, out.1.2), out.2)) hretry

/-- A wait is over at once, and asks the clock for nothing, if a flag of the mask is up.
Otherwise a script of changes decides just where it is over, whatever the latch was; it gives
the flags as they are then, and all that has happened to them is what the script did. However
the demand is met, a look of the parked waiter ends the wait just if a flag of the mask is up
at that moment, the flags stay as they are, and while the latch is not set no flag of the mask
is up. -/
theorem waitFor_exact (limit : Millis) (mask : Flags) :
    (∀ (c : Connectivity) (stages : List (Rig.Stage Change)) (calls : Array Rig.Call)
      (sleeps : Option Nat) (js : Array Notice) (n : Nat), ∃ changed,
      ((waitFor limit mask).on .fst).perform (Rig.serveFlags .fst .snd Change.happen) (n + 1)
          (c, ⟨stages, calls, sleeps, none⟩) js =
        if c.snapshot.meets mask then ((.done c.snapshot, (c, ⟨stages, calls, sleeps, none⟩)), js)
        else
          ((.done (ending mask stages c.flags).1.known,
            ({ c with flags := (ending mask stages c.flags).1, changed },
              ⟨(ending mask stages c.flags).2, calls.push (.timeout limit), sleeps, none⟩)), js)) ∧
    ∀ c, Parked limit mask c →
      (∀ js, look mask c js =
        ((if c.snapshot.meets mask then some () else none, { c with changed := false }), js)) ∧
      (∀ r js, (waitFor limit mask).resume () r c js = ((.done c.snapshot, c), js)) ∧
      (c.changed = false → c.snapshot.meets mask = false) := by
  constructor
  · intro c stages calls sleeps js n
    have hstart : ((waitFor limit mask).on .fst).start
        (c, (⟨stages, calls, sleeps, none⟩ : Rig.Clock Change)) js =
          ((if c.snapshot.meets mask then .done c.snapshot else .paused (),
            (c, ⟨stages, calls, sleeps, none⟩)), js) := rfl
    cases hup : c.snapshot.meets mask with
    | true =>
      rw [hup] at hstart
      exact ⟨true, Activity.perform_done hstart (n + 1)⟩
    | false =>
      obtain ⟨r, changed, hserve⟩ :=
        serveFlags_apply limit (ne_true_of_eq_false hup) stages calls sleeps js
      rw [hup] at hstart
      exact ⟨changed, Activity.perform_replied hstart hserve rfl n⟩
  · intro c hc
    refine ⟨hc.wakes.look_apply, fun _ _ => rfl, fun hlatch => ?_⟩
    rw [← Bool.not_eq_true]
    intro hup
    rw [hc.wakes hup] at hlatch
    cases hlatch

/-- The latch is set when the wait begins, a flag outside the mask comes up, the flag of the
mask comes up and goes again within one batch: none of this ends the wait. The flag's coming
up to stay does, and the stage after it is left. -/
theorem waitFor_exact_woken :
    (∃ changed, ((waitFor 10 .mustDisconnect).on .fst).perform
        (Rig.serveFlags .fst .snd Change.happen) 1
        ((ofMaxRetries 2).raise .brokerUp,
          ⟨[⟨[.raise .linkUp], false⟩, ⟨[.raise .mustDisconnect, .lower .mustDisconnect], false⟩,
            ⟨[.raise .mustDisconnect], false⟩, ⟨[.lower .mustDisconnect], false⟩],
            #[], none, none⟩) #[] =
      ((.done ⟨13⟩, ({ ofMaxRetries 2 with flags := ⟨13⟩, changed },
        ⟨[⟨[.lower .mustDisconnect], false⟩], #[.timeout 10], none, none⟩)), #[])) ∧
    Parked 10 .mustDisconnect ((ofMaxRetries 2).raise .brokerUp) ∧
      look .mustDisconnect ((ofMaxRetries 2).raise .brokerUp) #[] =
        ((none, { ofMaxRetries 2 with flags := .brokerUp }), #[]) :=
  have hparked : Parked 10 .mustDisconnect ((ofMaxRetries 2).raise .brokerUp) :=
    .begins (c := (ofMaxRetries 2).raise .brokerUp) #[] rfl
  ⟨(waitFor_exact 10 .mustDisconnect).1 _ _ #[] none #[] 0,
    hparked, ((waitFor_exact 10 .mustDisconnect).2 _ hparked).1 #[]⟩

end Connectivity

end AirStation
