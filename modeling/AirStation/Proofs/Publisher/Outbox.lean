import AirStation.Proofs.Publisher.Copies
import AirStation.Proofs.Publisher.Ghost

/-! What a publishing cycle sends. Each slot whose lock the cycle obtained gives one reading,
the last one that was stored before; both metrics of a sensor are made of that one. A metric
with a reading has a letter if its whole topic and its whole value are short enough. The calls
to the broker are the letters in the order of the metrics, up to and including the first that
is refused; whatever is stored or goes on meanwhile, the rest of the letters stay as they
are. -/

namespace AirStation

/-- The reading's value, if it is of that quantity. -/
def Reading.value? : (q : Quantity) → Reading → Option q.Value
  | .co2, .co2 v => some v
  | .dust, .dust v => some v
  | .pressure, .pressure v => some v
  | _, _ => none

namespace Store

/-- The store once a reading was stored in its slot. -/
def keep (st : Store) : Reading → Store
  | .co2 v => co2Part.put ⟨false, st.co2.state.store v⟩ st
  | .dust v => dustPart.put ⟨false, st.dust.state.store v⟩ st
  | .pressure v => pressurePart.put ⟨false, st.pressure.state.store v⟩ st

theorem value_keep (st : Store) (r : Reading) (q : Quantity) :
    ((st.keep r).contents q).value = (r.value? q).or (st.contents q).value := by
  cases q <;> cases r <;> rfl

end Store

namespace Publisher

open Activity

/-! ### Letters -/

/-- A topic and a payload. -/
abbrev Letter := String × Bytes

/-- The value of a metric as text, in full. -/
def Metric.text (unit : PressureUnit) : (m : Metric) → m.source.Value → String
  | .pm25, (d : Particulates) => toString d.pm25
  | .pm100, (d : Particulates) => toString d.pm100
  | .co2, (c : CarbonDioxide) => toString c.ppm
  | .pressure, (p : Atmosphere) => Fixed.text 0 (unit.ofPascals p.pascals)
  | .temperature, (p : Atmosphere) => Fixed.text 1 p.celsius

/-- The letter of a metric with a reading, if both of its texts are short enough. -/
def letter (cfg : PublisherConfig) (m : Metric) (v : m.source.Value) : Option Letter :=
  let topic := cfg.topics.path ++ cfg.topics.deviceId ++ m.suffix
  let payload := Metric.text cfg.unit m v
  if topic.utf8ByteSize ≤ 64 ∧ payload.utf8ByteSize ≤ 16 then some (topic, payload.toUTF8.toList)
  else none

/-- The letters of the metrics whose readings were taken. -/
def outbox (cfg : PublisherConfig) (taken : (q : Quantity) → Option q.Value) : List Letter :=
  Metric.all.filterMap fun m => (taken m.source).bind (letter cfg m)

/-- The value in the copy of a slot, if there is one. -/
def copied? (snap : Snapshot) : (q : Quantity) → Option q.Value
  | .co2 => snap.co2.map (·.value)
  | .dust => snap.dust.map (·.value)
  | .pressure => snap.pressure.map (·.value)

theorem value?_eq (unit : PressureUnit) (snap : Snapshot) (m : Metric) :
    value? unit snap m = (copied? snap m.source).map (Metric.text unit m) := by
  obtain ⟨c, d, p⟩ := snap
  cases m with
  | pm25 | pm100 => cases d <;> rfl
  | co2 => cases c <;> rfl
  | pressure | temperature => cases p <;> rfl

/-- What becomes of a metric is its letter, or the reason why there is none. -/
theorem message_eq (cfg : PublisherConfig) (snap : Snapshot) (m : Metric) :
    (copied? snap m.source).bind (letter cfg m) =
      (message cfg snap m).toOption.map fun sent => (sent.1, sent.2.toUTF8.toList) := by
  unfold message
  rw [value?_eq]
  cases copied? snap m.source with
  | none => rfl
  | some v =>
    have htopic : topic cfg.topics m = cfg.topics.path ++ cfg.topics.deviceId ++ m.suffix := rfl
    have hlong : topicCapacity = 64 := rfl
    have hroom : payloadCapacity = 16 := rfl
    simp only [Option.map_some, Option.bind_some, letter, ← htopic, hlong, hroom]
    by_cases hp : (Metric.text cfg.unit m v).utf8ByteSize ≤ 16
    · rw [if_neg (Nat.not_lt.2 hp)]
      by_cases ht : (topic cfg.topics m).utf8ByteSize ≤ 64
      · rw [if_pos ⟨ht, hp⟩, if_neg (Nat.not_lt.2 ht)]
        rfl
      · rw [if_neg fun h => ht h.1, if_pos (Nat.lt_of_not_le ht)]
        rfl
    · rw [if_neg fun h => hp h.2, if_pos (Nat.lt_of_not_le hp)]
      rfl

/-! ### Calls to the broker -/

/-- A call to publish, with the broker's answer. -/
structure Posting where
  letter : Letter
  answer : Except BrokerError Unit
  deriving DecidableEq

/-- A broker's own state with the calls to publish beside it. -/
structure Posted (β : Type) where
  desk : β
  postings : List Posting

variable {β : Type}

/-- The hub without the calls. -/
def Posted.hubPart : Part (Hub (Posted β)) (Hub β) where
  get h := ⟨h.net, h.store, h.desk.desk⟩
  put g h := ⟨g.net, g.store, { h.desk with desk := g.desk }⟩

end Publisher

open Publisher in
/-- The broker with each call to publish entered. -/
def Broker.posted {β : Type} (b : Broker β) : Broker (Posted β) where
  start := b.start.on Posted.hubPart
  stop := b.stop.on Posted.hubPart
  publish topic payload := do
    let answer ← (b.publish topic payload).on Posted.hubPart
    modify fun h => { h with desk.postings := h.desk.postings ++ [⟨(topic, payload), answer⟩] }
    pure answer

namespace Publisher

open Activity

variable {β E : Type} {cfg : PublisherConfig} {b : Broker β}

/-- The letters are posted in order, up to and including the first that is refused. -/
inductive Posts : List Letter → List Posting → Prop where
  | nil : Posts [] []
  | accepted {letters : List Letter} {calls : List Posting} (l : Letter) :
      Posts letters calls → Posts (l :: letters) (⟨l, .ok ()⟩ :: calls)
  | refused (l : Letter) (letters : List Letter) (e : BrokerError) :
      Posts (l :: letters) [⟨l, .error e⟩]

theorem posted_publish (l : Letter) (h : Hub (Posted β)) (js : Array Notice) :
    ∃ answer h' js', b.posted.publish l.1 l.2 h js = ((answer, h'), js') ∧
      h'.desk.postings = h.desk.postings ++ [⟨l, answer⟩] :=
  ⟨_, _, _, rfl, rfl⟩

theorem publishAll_posts (cfg : PublisherConfig) (b : Broker β) (snap : Snapshot)
    (ms : List Metric) (s : Site (Posted β)) (js : Array Notice) :
    ∃ calls, (publishAll cfg b.posted snap ms s js).1.2.2.desk.postings =
        s.2.desk.postings ++ calls ∧
      Posts (ms.filterMap fun m => (copied? snap m.source).bind (letter cfg m)) calls := by
  induction ms generalizing s js with
  | nil => exact ⟨[], (List.append_nil _).symm, .nil⟩
  | cons m rest ih =>
    rw [List.filterMap_cons, message_eq]
    cases hm : message cfg snap m with
    | error notice =>
      rw [publishAll_without hm]
      exact ih s (js.push notice)
    | ok sent =>
      obtain ⟨answer, h, js', hcall, hentered⟩ :=
        posted_publish (b := b) (sent.1, sent.2.toUTF8.toList) s.2 js
      cases answer with
      | error e =>
        rw [publishAll_refused hm hcall]
        exact ⟨_, hentered, .refused _ _ e⟩
      | ok u =>
        rw [publishAll_accepted hm hcall]
        obtain ⟨calls, hcalls, hposts⟩ := ih (s.1, h) (js'.push (.published sent.1 sent.2))
        refine ⟨_, ?_, .accepted _ hposts⟩
        rw [hcalls, hentered, List.append_assoc, List.singleton_append]

/-! ### Readings taken -/

/-- What may happen while a cycle waits. -/
inductive Happening where
  /-- A reading is stored in its slot. -/
  | stored (r : Reading)
  /-- Anything else, with the readings left as they are. -/
  | aside

/-- The calls to publish are the cycle's own, and so are its watches. -/
def Happens (e : Happening) (s t : Site (Posted β)) : Prop :=
  t.1 = s.1 ∧ t.2.desk.postings = s.2.desk.postings ∧
    match e with
    | .stored r => t.2.store.contents = (s.2.store.keep r).contents
    | .aside => t.2.store.contents = s.2.store.contents

/-- The reading that a record shows to have been taken from a slot, where it held `last` at
first: the last one stored before the slot's lock was granted, the zero reading if there is
none. Nothing is taken if the lock was refused. -/
def taken (q : Quantity) : Option q.Value → Log Happening β → Option q.Value
  | _, [] => none
  | last, .happened (.stored r) :: log => taken q ((r.value? q).or last) log
  | last, .replied _ (.lock d) r _ :: log =>
    if d.quantity = q then
      match r with
      | .ready () => some (last.getD 0)
      | .expired => none
    else taken q last log
  | last, _ :: log => taken q last log

/-- What the slot holds when a record begins. -/
def before (s : Site β) (q : Quantity) : Option q.Value := (s.2.store.contents q).value

/-- The locks that were waited for. -/
def locks (log : Log E β) : List StoreDemand :=
  log.filterMap fun
    | .replied _ (.lock d) _ _ => some d
    | _ => none

section Taking

variable {happens : Happening → Site (Posted β) → Site (Posted β) → Prop}
  (hsub : ∀ e s t, happens e s t → Happens e s t) {q : Quantity} {s t u : Site (Posted β)}
  {log : Log Happening (Posted β)}

include hsub

theorem taken_passes {es : List Happening} (h : Passes happens es s u) :
    taken q (before s q) (es.map .happened ++ log) = taken q (before u q) log := by
  induction h with
  | nil s => rfl
  | @cons e es s t u hhap _ ih =>
    rw [← ih]
    obtain ⟨-, -, hstore⟩ := hsub e s t hhap
    cases e with
    | stored r =>
      have hbefore : before t q = (r.value? q).or (before s q) := by
        rw [before, hstore, Store.value_keep, before]
      rw [hbefore]
      rfl
    | aside =>
      have hbefore : before t q = before s q := by rw [before, hstore, before]
      rw [hbefore]
      rfl

theorem taken_awaits {told : List Notice} {early : Log Happening (Posted β)}
    (h : Awaits cfg happens s told early u) :
    taken q (before s q) (early ++ log) = taken q (before u q) log := by
  cases h with
  | atOnce => rfl
  | waited r _ h =>
    rw [List.cons_append, List.append_assoc]
    exact taken_passes hsub h

/-- The wait for a slot's lock settles what is taken from it. -/
theorem taken_try (x : Try Happening (Posted β)) (h : Passes happens x.meanwhile s x.found)
    (told : List Notice) :
    taken q (before s q) (x.log cfg q told ++ log) = (x.copy q).map (·.value) := by
  rw [Try.log, List.append_assoc, taken_passes hsub h, Try.copy]
  cases x.reply with
  | ready => simp [taken, SlotState.snapshot, SlotState.valueOrZero, before]
  | expired => simp [taken]

theorem taken_try_of_ne (x : Try Happening (Posted β)) (h : Passes happens x.meanwhile s x.found)
    {r : Quantity} (hr : r ≠ q) (told : List Notice) :
    taken q (before s q) (x.log cfg r told ++ log) = taken q (before (x.left r) q) log := by
  have hbefore : before x.found q = before (x.left r) q := by simp [before]
  rw [Try.log, List.append_assoc, taken_passes hsub h, hbefore]
  simp [taken, hr]

omit hsub in
theorem locks_try (x : Try E β) (q : Quantity) (told : List Notice) (log : Log E β) :
    locks (x.log cfg q told ++ log) = ⟨q, cfg.lockLimit⟩ :: locks log := by
  simp [locks, Try.log, List.filterMap_append]

omit hsub in
theorem locks_awaits {E β : Type} {happens : E → Site β → Site β → Prop} {s u : Site β}
    {told : List Notice} {early : Log E β} (h : Awaits cfg happens s told early u)
    (log : Log E β) : locks (early ++ log) = locks log := by
  cases h with
  | atOnce => rfl
  | waited r _ h => simp [locks, List.filterMap_append]

/-- A cycle that publishes waits for each lock once, and it publishes what it has taken. What
is kept at its waits it finds kept when it begins to publish. -/
theorem recorded_publishes {γ : Type} (g : Posted β → γ)
    (hkept : ∀ e s t, happens e s t → g t.2.desk = g s.2.desk)
    (h : (cycle cfg b.posted).Recorded happens s log .publish t) :
    ∃ seen snap m told, locks log = Quantity.all.map (⟨·, cfg.lockLimit⟩) ∧
      (∀ q, copied? snap q = taken q (before s q) log) ∧ g m.2.desk = g s.2.desk ∧
      copied cfg b.posted seen (.done snap) m #[] = ((.done .publish, t), told) := by
  cases cycles_of_recorded h with
  | acts _ _ hne _ => exact absurd rfl hne
  | @publishes early x y z u t told hearly hd hx hy hz hcopied =>
    have hdesk : g (z.left .pressure).2.desk = g s.2.desk :=
      kept_of_publishes (f := fun s => g s.2.desk) hkept
        (fun x q => congrArg g (x.left_desk q)) hearly hx hy hz
    refine ⟨_, _, _, told, ?_, ?_, hdesk, hcopied⟩
    · rw [locks_awaits hearly, locks_try, locks_try, ← List.append_nil (z.log cfg .pressure _),
        locks_try]
      rfl
    · intro q
      rw [taken_awaits hsub hearly]
      cases q with
      | co2 =>
        rw [taken_try hsub x hx]
        rfl
      | dust =>
        rw [taken_try_of_ne hsub x hx (by decide), taken_try hsub y hy]
        rfl
      | pressure =>
        rw [taken_try_of_ne hsub x hx (by decide), taken_try_of_ne hsub y hy (by decide),
          ← List.append_nil (z.log cfg .pressure _), taken_try hsub z hz]
        rfl

end Taking

/-! ### What is sent -/

theorem settled_desk (seen : Flags) (s : Site β) : (settled seen s).2.desk = s.2.desk := by
  unfold settled
  split <;> rfl

/-- The record of a publishing cycle from `s` to `t` agrees with the calls it made. -/
structure Sends (cfg : PublisherConfig) (s : Site (Posted β)) (log : Log Happening (Posted β))
    (t : Site (Posted β)) : Prop where
  /-- Each slot's lock was waited for once. -/
  locks : locks log = Quantity.all.map (⟨·, cfg.lockLimit⟩)
  posts : ∃ calls, t.2.desk.postings = s.2.desk.postings ++ calls ∧
    Posts (outbox cfg fun q => taken q (before s q) log) calls

/-- Whatever the broker answers and whatever happens meanwhile, a cycle is over after four waits
at most, and if it published it has sent just the letters of the readings it took. Entering the
calls changes nothing else. -/
theorem publishing_sends (cfg : PublisherConfig) (b : Broker β) (s : Site (Posted β)) :
    b.posted.Shows Posted.desk b ∧
      (∀ js, (cycle cfg b.posted).EndsWithin 4 ((cycle cfg b.posted).start s js).1.1) ∧
      ∀ log t, (cycle cfg b.posted).Recorded Happens s log .publish t → Sends cfg s log t := by
  refine ⟨⟨fun _ _ => rfl, fun _ _ => rfl, fun _ _ _ _ => rfl⟩, cycle_endsWithin s, ?_⟩
  intro log t h
  obtain ⟨seen, snap, m, told, hlocks, htaken, hkept, hcopied⟩ :=
    recorded_publishes (fun _ _ _ => id) Posted.postings (fun _ _ _ hhap => hhap.2.1) h
  refine ⟨hlocks, ?_⟩
  rw [copied_apply] at hcopied
  obtain ⟨calls, hcalls, hposts⟩ := publishAll_posts cfg b snap Metric.all
    ((watch cfg.staleAfter snap m.1 #[]).1.2, m.2) (watch cfg.staleAfter snap m.1 #[]).2
  refine ⟨calls, ?_, ?_⟩
  · have ht : settled seen _ = t := congrArg (·.1.2) hcopied
    rw [← ht, settled_desk, hcalls, hkept]
  · simp only [outbox, ← htaken]
    exact hposts

/-! ### A reading that is stored in time and one that comes too late -/

/-- A broker that takes short payloads only. -/
def terse : Broker Unit where
  start := pure ()
  stop := pure ()
  publish _ payload := pure (if payload.length ≤ 2 then .ok () else .error .queueFull)

def idle : Site (Posted Unit) := .ready .empty ⟨(), []⟩

/-- A reading of dust is stored, its lock is granted alone, and another one is stored. -/
theorem recorded_idle :
    ∃ log t, (cycle {} terse.posted).Recorded Happens idle log .publish t ∧
      taken .dust (before idle .dust) log = some ⟨12, 310⟩ ∧
      t.2.desk.postings = [⟨("sensors/dust/pm25", [49, 50]), .ok ()⟩,
        ⟨("sensors/dust/pm100", [51, 49, 48]), .error .queueFull⟩] := by
  let early : Reading := .dust ⟨12, 310⟩
  let late : Reading := .dust ⟨9, 9⟩
  let first : Site (Posted Unit) := .ready (Store.empty.keep early) ⟨(), []⟩
  let second : Site (Posted Unit) := .ready ((Store.empty.keep early).keep late) ⟨(), []⟩
  have hearly : Happens (.stored early) idle first := ⟨rfl, rfl, rfl⟩
  have hlate : Happens (.stored late) first second := ⟨rfl, rfl, rfl⟩
  have hcycles : Cycles {} terse.posted Happens idle _ .publish _ :=
    .publishes (x := ⟨[], first, .expired⟩) (y := ⟨[], first, .ready ()⟩)
      (z := ⟨[.stored late], second, .expired⟩)
      (.waited .expired (by decide) (.cons hearly (.nil _))) (by decide) (.nil _) (.nil _)
      (.cons hlate (.nil _)) (copied_apply _ _ _ _)
  refine ⟨_, _, recorded_of_cycles hcycles, ?_, ?_⟩
  · rfl
  · decide +kernel

theorem publishing_sends_idle :
    ∃ log t, (cycle {} terse.posted).Recorded Happens idle log .publish t ∧
      Sends {} idle log t ∧
      t.2.desk.postings = [⟨("sensors/dust/pm25", [49, 50]), .ok ()⟩,
        ⟨("sensors/dust/pm100", [51, 49, 48]), .error .queueFull⟩] := by
  obtain ⟨log, t, h, -, hpostings⟩ := recorded_idle
  exact ⟨log, t, h, (publishing_sends {} terse idle).2.2 log t h, hpostings⟩

end Publisher

end AirStation
