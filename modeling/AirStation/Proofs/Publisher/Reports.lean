import AirStation.Proofs.Publisher.Copies
import AirStation.Proofs.Publisher.Staleness
import AirStation.Uplink.Command

/-! What the publisher reports of stale slots, over cycle after cycle. A slot is observed in
the cycles that publish and get its lock, and the revision observed is the one the slot has at
that moment; all else that a cycle does leaves the watches alone and is silent about them. So
the reports about a slot follow from its observations alone. -/

namespace AirStation

open Staleness

namespace Staleness

/-- The notice by which a report is given. -/
def Report.notice (q : Quantity) (threshold : UInt8) : Report → Notice
  | .stale => .readingsStale q threshold
  | .resumed => .readingsResumed q

/-- The watch after an observation, if there is one. -/
def enter (threshold : UInt8) (w : Staleness) : Option UInt32 → Option Report × Staleness
  | none => (none, w)
  | some r => w.observe r threshold

theorem tracks_enter {threshold : UInt8} {revisions : List UInt32} {w : Staleness}
    (h : Tracks threshold revisions w) (o : Option UInt32) :
    Tracks threshold (revisions ++ o.toList) (enter threshold w o).2 ∧
      (enter threshold w o).1 = change (decide (Stale threshold revisions))
        (decide (Stale threshold (revisions ++ o.toList))) := by
  cases o with
  | none =>
    rw [Option.toList_none, List.append_nil]
    refine ⟨h, ?_⟩
    cases decide (Stale threshold revisions) <;> rfl
  | some r => exact ⟨tracks_observe h r, observe_report h r⟩

end Staleness

/-- The watch of one slot. -/
def Watches.of (w : Watches) : Quantity → Staleness
  | .co2 => w.co2
  | .dust => w.dust
  | .pressure => w.pressure

/-- Whether a notice is about a slot being stale or not. -/
def Notice.reports (q : Quantity) : Notice → Bool
  | .readingsStale p _ | .readingsResumed p => p = q
  | _ => false

@[simp] theorem Notice.reports_notice (p q : Quantity) (threshold : UInt8) (report : Report) :
    (report.notice p threshold).reports q = decide (p = q) := by
  cases report <;> rfl

/-- The reports about a slot among some notices. -/
def reportsOf (q : Quantity) (told : List Notice) : List Notice := told.filter (Notice.reports q)

theorem reportsOf_append (q : Quantity) (told later : List Notice) :
    reportsOf q (told ++ later) = reportsOf q told ++ reportsOf q later :=
  List.filter_append ..

/-- The action keeps a part of the state and gives no reports. -/
def Silent {σ γ α : Type} (kept : σ → γ) (a : Act σ α) : Prop :=
  ∀ s js, kept (a s js).1.2 = kept s ∧
    ∀ q, reportsOf q (a s js).2.toList = reportsOf q js.toList

namespace Silent

variable {σ γ α δ : Type} {kept : σ → γ}

theorem pure (x : α) : Silent kept (pure x : Act σ α) := fun _ _ => ⟨rfl, fun _ => rfl⟩

theorem note {n : Notice} (h : ∀ q, n.reports q = false) : Silent kept (note n) := by
  intro s js
  refine ⟨rfl, fun q => ?_⟩
  rw [Act.note_apply, Array.toList_push, reportsOf_append]
  simp [reportsOf, h q]

theorem modify {m : σ → σ} (h : ∀ s, kept (m s) = kept s) :
    Silent kept (modify m : Act σ PUnit) :=
  fun s _ => ⟨h s, fun _ => rfl⟩

theorem bind {a : Act σ α} {k : α → Act σ δ} (ha : Silent kept a) (hk : ∀ x, Silent kept (k x)) :
    Silent kept (a >>= k) := by
  intro s js
  obtain ⟨hkept, hreports⟩ := ha s js
  obtain ⟨hkept', hreports'⟩ := hk (a s js).1.1 (a s js).1.2 (a s js).2
  exact ⟨hkept'.trans hkept, fun q => (hreports' q).trans (hreports q)⟩

theorem snd {β γ : Type} {kept : β → γ} {a : Act β α} (ha : Silent kept a) :
    Silent Prod.fst (a.on (Part.snd : Part (σ × β) β)) :=
  fun s js => ⟨rfl, (ha s.2 js).2⟩

end Silent

namespace Publisher

open Activity

variable {β : Type} {cfg : PublisherConfig} {b : Broker β} {q : Quantity} {s t u : Site β}

/-! ### The watches in a cycle -/

/-- The revision in the copy of a slot, if there is one. -/
def revision? (snap : Snapshot) : Quantity → Option UInt32
  | .co2 => snap.co2.map (·.revision)
  | .dust => snap.dust.map (·.revision)
  | .pressure => snap.pressure.map (·.revision)

/-- A copy is entered in the slot's own watch. -/
theorem observe_apply {ρ : Type} (threshold : UInt8) (p : Quantity) (part : Part Watches Staleness)
    (hput : ∀ w, part.put (part.get w) w = w) (copy : Option (SlotSnapshot ρ)) (w : Watches)
    (js : Array Notice) :
    let entered := enter threshold (part.get w) (copy.map (·.revision))
    ∃ js', observe threshold p part copy w js = (((), part.put entered.2 w), js') ∧
      ∀ q, reportsOf q js'.toList = reportsOf q js.toList ++
        if p = q then entered.1.toList.map (Report.notice q threshold) else [] := by
  cases copy with
  | none => exact ⟨js, by simp [observe, enter, hput], by simp [enter]⟩
  | some s =>
    simp only [observe, enter, Option.map_some, Act.bind_apply, Act.get_apply, Act.set_apply]
    generalize (part.get w).observe s.revision threshold = entered
    obtain ⟨report, watch⟩ := entered
    cases report with
    | none => exact ⟨js, rfl, by simp⟩
    | some report =>
      refine ⟨js.push (report.notice p threshold), by cases report <;> rfl, fun q => ?_⟩
      rw [Array.toList_push, reportsOf_append]
      by_cases hp : p = q
      · simp [reportsOf, hp]
      · simp [reportsOf, hp]

theorem watch_apply (threshold : UInt8) (snap : Snapshot) (w : Watches) (js : Array Notice)
    (q : Quantity) :
    let entered := enter threshold (w.of q) (revision? snap q)
    (watch threshold snap w js).1.2.of q = entered.2 ∧
      reportsOf q (watch threshold snap w js).2.toList =
        reportsOf q js.toList ++ entered.1.toList.map (Report.notice q threshold) := by
  let co2 := (enter threshold w.co2 (snap.co2.map (·.revision))).2
  let dust := (enter threshold w.dust (snap.dust.map (·.revision))).2
  let pressure := (enter threshold w.pressure (snap.pressure.map (·.revision))).2
  obtain ⟨js₁, hco2, hreports₁⟩ := observe_apply threshold .co2
    ⟨Watches.co2, fun x w => { w with co2 := x }⟩ (fun _ => rfl) snap.co2 w js
  obtain ⟨js₂, hdust, hreports₂⟩ := observe_apply threshold .dust
    ⟨Watches.dust, fun x w => { w with dust := x }⟩ (fun _ => rfl) snap.dust
    { w with co2 := co2 } js₁
  obtain ⟨js₃, hpressure, hreports₃⟩ := observe_apply threshold .pressure
    ⟨Watches.pressure, fun x w => { w with pressure := x }⟩ (fun _ => rfl) snap.pressure
    { w with co2 := co2, dust := dust } js₂
  have hwatch : watch threshold snap w js = (((), ⟨co2, dust, pressure⟩), js₃) := by
    rw [watch, Act.bind_apply, hco2, Act.bind_apply, hdust, hpressure]
  rw [hwatch]
  refine ⟨by cases q <;> rfl, ?_⟩
  rw [hreports₃, hreports₂, hreports₁]
  cases q <;> simp [revision?, Watches.of]

/-- The broker's calls give no reports. -/
structure Reticent (b : Broker β) : Prop where
  start : Silent (fun _ => ()) b.start
  stop : Silent (fun _ => ()) b.stop
  publish (topic : String) (payload : Bytes) : Silent (fun _ => ()) (b.publish topic payload)

theorem message_notice {snap : Snapshot} {m : Metric} {n : Notice}
    (h : message cfg snap m = .error n) : n.reports q = false := by
  unfold message at h
  cases hv : value? cfg.unit snap m with
  | none =>
    simp only [hv] at h
    cases h
    rfl
  | some payload =>
    simp only [hv] at h
    split at h
    · cases h
      rfl
    split at h
    · cases h
      rfl
    · cases h

theorem silent_publishAll (cfg : PublisherConfig) (hb : Reticent b) (snap : Snapshot)
    (ms : List Metric) :
    Silent Prod.fst (publishAll cfg b snap ms) := by
  induction ms with
  | nil => exact .pure ()
  | cons m rest ih =>
    rw [publishAll]
    cases hm : message cfg snap m with
    | error notice => exact .bind (.note fun q => message_notice hm) fun _ => ih
    | ok sent =>
      refine .bind (.snd (hb.publish sent.1 sent.2.toUTF8.toList)) fun answer => ?_
      cases answer with
      | error e => exact .note fun _ => rfl
      | ok _ => exact .bind (.note fun _ => rfl) fun _ => ih

theorem settled_watches (seen : Flags) (s : Site β) : (settled seen s).1 = s.1 := by
  unfold settled
  split <;> rfl

theorem silent_settle (seen : Flags) (action : Action) :
    Silent Prod.fst (settle seen action : Act (Site β) CycleProgress) := by
  intro s js
  rw [settle_apply]
  exact ⟨settled_watches seen s, fun _ => rfl⟩

/-- A cycle that does not publish. -/
theorem silent_act (cfg : PublisherConfig) (hb : Reticent b) {seen : Flags}
    (h : decide seen ≠ .publish) :
    Silent Prod.fst (act cfg b (.done seen)) := by
  rw [act]
  refine .bind (.note fun _ => rfl) fun _ => ?_
  cases hd : decide seen with
  | stopBroker =>
    refine .bind (.note fun _ => rfl) fun _ => ?_
    refine .bind (.snd hb.stop) fun _ => ?_
    exact .bind (.modify fun _ => rfl) fun _ => silent_settle seen _
  | startBroker =>
    refine .bind (.note fun _ => rfl) fun _ => ?_
    exact .bind (.snd hb.start) fun _ => silent_settle seen _
  | publish => exact absurd hd h
  | idle => exact silent_settle seen .idle

/-! ### Cycles on record -/

/-- Anything may happen while a cycle waits, but the watches are the publisher's own. -/
def Spares (_ : Unit) (s t : Site β) : Prop := t.1 = s.1

/-- The revisions of a slot as they were when its lock was granted. -/
def observed (q : Quantity) (log : Log Unit β) : List UInt32 :=
  log.filterMap fun
    | .replied found (.lock d) r _ =>
      match r with
      | .ready () => if d.quantity = q then some (found.2.store.contents q).revision else none
      | .expired => none
    | _ => none

/-- The reports about a slot on record. -/
def told (q : Quantity) (log : Log Unit β) : List Notice := reportsOf q (log.flatMap Moment.told)

theorem observed_append (log rest : Log Unit β) :
    observed q (log ++ rest) = observed q log ++ observed q rest :=
  List.filterMap_append

theorem told_append (log rest : Log Unit β) : told q (log ++ rest) = told q log ++ told q rest := by
  rw [told, List.flatMap_append, reportsOf_append]
  rfl

theorem told_happened (es : List Unit) : told q (es.map .happened : Log Unit β) = [] := by
  have hnone : (es.map .happened : Log Unit β).flatMap Moment.told = [] := by
    rw [List.flatMap_eq_nil_iff]
    simp [Moment.told]
  rw [told, hnone]
  rfl

/-- The wait for the flags observes no slot. -/
theorem awaits_reports {notices : List Notice} {early : Log Unit β}
    (h : Awaits cfg Spares s notices early u) :
    u.1 = s.1 ∧ observed q early = [] ∧ told q early = reportsOf q notices := by
  cases h with
  | atOnce _ => exact ⟨rfl, by simp [observed], by simp [told, Moment.told]⟩
  | @waited es _ r _ hes =>
    refine ⟨hes.kept fun _ _ _ => id, by simp [observed], ?_⟩
    rw [← List.singleton_append, told_append, told_append, told_happened]
    simp [told, Moment.told, reportsOf]

/-- The wait for a lock observes the slot if the lock is granted. -/
theorem try_reports (x : Try Unit β) (p : Quantity) (notices : List Notice) :
    observed q (x.log cfg p notices) =
        (if p = q then ((x.copy p).map (·.revision)).toList else []) ∧
      told q (x.log cfg p notices) = reportsOf q notices := by
  constructor
  · by_cases hp : p = q
    · subst hp
      obtain ⟨es, found, r⟩ := x
      cases r <;> simp [observed, Try.log, Try.copy, SlotState.snapshot]
    · obtain ⟨es, found, r⟩ := x
      cases r <;> simp [observed, Try.log, hp]
  · rw [Try.log, told_append, told_happened]
    simp [told, Moment.told]

/-- A cycle observes a slot once at most, and reports what the watch then says. -/
theorem cycle_reports (hb : Reticent b) {log : Log Unit β} {action : Action}
    (h : (cycle cfg b).Recorded Spares s log action t) (q : Quantity) :
    ∃ o, observed q log = o.toList ∧ t.1.of q = (enter cfg.staleAfter (s.1.of q) o).2 ∧
      told q log =
        (enter cfg.staleAfter (s.1.of q) o).1.toList.map (Report.notice q cfg.staleAfter) := by
  cases cycles_of_recorded h with
  | @acts log u t action notices hearly hd hne hact =>
    obtain ⟨hwatches, hobserved, htold⟩ := awaits_reports (q := q) hearly
    obtain ⟨hkept, hsilent⟩ := silent_act cfg hb (hd.trans_ne hne) u #[]
    rw [hact] at hkept hsilent
    refine ⟨none, hobserved, ?_, htold.trans (hsilent q)⟩
    rw [hkept, hwatches]
    rfl
  | @publishes early x y z u t notices hearly hd hx hy hz hcopied =>
    let snap : Snapshot := ⟨x.copy .co2, y.copy .dust, z.copy .pressure⟩
    obtain ⟨-, hearlier, hquiet⟩ := awaits_reports (q := q) hearly
    have hkept : (z.left .pressure).1 = s.1 :=
      kept_of_publishes (fun _ _ _ => id) (fun x q => x.left_watches q) hearly hx hy hz
    rw [copied_apply] at hcopied
    obtain ⟨hof, hreports⟩ := watch_apply cfg.staleAfter snap (z.left .pressure).1 #[] q
    obtain ⟨hsame, hsilent⟩ := silent_publishAll cfg hb snap Metric.all
      ((watch cfg.staleAfter snap (z.left .pressure).1 #[]).1.2, (z.left .pressure).2)
      (watch cfg.staleAfter snap (z.left .pressure).1 #[]).2
    rw [hkept] at hof hreports
    refine ⟨revision? snap q, ?_, ?_, ?_⟩
    · simp only [observed_append, hearlier, (try_reports _ _ _).1]
      cases q <;> simp [revision?, snap]
    · have ht : settled _ _ = t := congrArg (·.1.2) hcopied
      rw [← ht, settled_watches, hsame, ← hof, hkept]
    · have hnotices : (publishAll _ _ _ _ _ _).2 = notices := congrArg (·.2) hcopied
      simp only [told_append, hquiet, (try_reports _ _ _).2]
      rw [← hnotices, hsilent, hkept, hreports]
      simp [reportsOf, Notice.reports]

/-! ### Cycle after cycle -/

/-- Cycles of the publisher on end, each on record. Between two of them anything may happen
again. -/
inductive Repeats (cfg : PublisherConfig) (b : Broker β) :
    Site β → List (Log Unit β) → Site β → Prop where
  | done (s : Site β) : Repeats cfg b s [] s
  | cycle {s t u v : Site β} {log : Log Unit β} {logs : List (Log Unit β)} {action : Action} :
      Spares () s t → (cycle cfg b).Recorded Spares t log action u →
      Repeats cfg b u logs v → Repeats cfg b s (log :: logs) v

theorem Repeats.split {earlier later : List (Log Unit β)}
    (h : Repeats cfg b s (earlier ++ later) t) :
    ∃ u, Repeats cfg b s earlier u ∧ Repeats cfg b u later t := by
  induction earlier generalizing s with
  | nil => exact ⟨s, .done s, h⟩
  | cons log earlier ih =>
    cases h with
    | cycle hspares hrecorded hrest =>
      obtain ⟨u, hearlier, hlater⟩ := ih hrest
      exact ⟨u, .cycle hspares hrecorded hearlier, hlater⟩

/-- What a run of cycles observes and reports, and how it leaves the watch. -/
theorem repeats_reports (hb : Reticent b) {logs : List (Log Unit β)} (h : Repeats cfg b s logs t)
    {seen : List UInt32} (hs : Tracks cfg.staleAfter seen (s.1.of q)) :
    Tracks cfg.staleAfter (seen ++ observed q logs.flatten) (t.1.of q) ∧
      (reports cfg.staleAfter seen).map (Report.notice q cfg.staleAfter) ++ told q logs.flatten =
        (reports cfg.staleAfter (seen ++ observed q logs.flatten)).map
          (Report.notice q cfg.staleAfter) := by
  induction h generalizing seen with
  | done s => simpa [observed, told, reportsOf] using hs
  | @cycle s t u v log logs action hspares hrecorded _ ih =>
    obtain ⟨o, hobserved, hof, htold⟩ := cycle_reports hb hrecorded q
    rw [hspares] at hof htold
    obtain ⟨htracks, hreport⟩ := tracks_enter hs o
    rw [← hof] at htracks
    obtain ⟨hend, htell⟩ := ih htracks
    rw [List.flatten_cons, observed_append, told_append, hobserved, ← List.append_assoc]
    refine ⟨hend, ?_⟩
    rw [← htell, reports_next, htold, hreport, List.map_append, List.append_assoc]

/-- From fresh watches on, the reports about a slot are those due for its observations. -/
theorem fresh_reports (hb : Reticent b) {logs : List (Log Unit β)} (hs : s.1 = {})
    (h : Repeats cfg b s logs t) :
    Tracks cfg.staleAfter (observed q logs.flatten) (t.1.of q) ∧
      told q logs.flatten = (reports cfg.staleAfter (observed q logs.flatten)).map
        (Report.notice q cfg.staleAfter) := by
  have hfresh : Tracks cfg.staleAfter [] (s.1.of q) := by
    rw [hs]
    cases q <;> exact tracks_fresh _
  simpa [reports] using repeats_reports hb h hfresh

/-- What a run of cycles from fresh watches to `t` reports about a slot. -/
structure ReportsStaleness (cfg : PublisherConfig) (q : Quantity) (logs : List (Log Unit β))
    (t : Site β) : Prop where
  marked : (t.1.of q).reported = true ↔ Stale cfg.staleAfter (observed q logs.flatten)
  /-- A cycle observes the slot once at most, and reports just what the observation changes. -/
  each : ∀ earlier log later, logs = earlier ++ log :: later →
    (observed q log).length ≤ 1 ∧
      told q log = (change (Decidable.decide (Stale cfg.staleAfter (observed q earlier.flatten)))
        (Decidable.decide (Stale cfg.staleAfter (observed q (earlier.flatten ++ log))))).toList.map
          (Report.notice q cfg.staleAfter)
  /-- The reports begin with a stale slot and alternate. -/
  alternate : ∃ given : List Report,
    told q logs.flatten = given.map (Report.notice q cfg.staleAfter) ∧
      (Report.resumed :: given).IsChain (· ≠ ·)
  never : cfg.staleAfter = 0 → told q logs.flatten = []

/-- Over any number of cycles, whatever the broker does and whatever happens meanwhile, the
reports about a slot are faithful to what was observed of it, and nothing else counts. -/
theorem staleness_reported (hb : Reticent b) {logs : List (Log Unit β)} (hs : s.1 = {})
    (h : Repeats cfg b s logs t) (q : Quantity) :
    ReportsStaleness cfg q logs t ∧
      ∀ {s' t' : Site β} {logs' : List (Log Unit β)}, s'.1 = {} → Repeats cfg b s' logs' t' →
        observed q logs'.flatten = observed q logs.flatten →
          told q logs'.flatten = told q logs.flatten ∧
            (t'.1.of q).reported = (t.1.of q).reported := by
  obtain ⟨htracks, htold⟩ := fresh_reports (q := q) hb hs h
  refine ⟨⟨?_, ?_, ⟨_, htold, reports_alternate ..⟩, ?_⟩, ?_⟩
  · rw [htracks.reported, decide_eq_true_iff]
  · rintro earlier log later rfl
    obtain ⟨u, hearlier, hlater⟩ := h.split
    cases hlater with
    | cycle hspares hrecorded _ =>
      obtain ⟨o, hobserved, -, hreports⟩ := cycle_reports hb hrecorded q
      rw [hspares] at hreports
      rw [observed_append, hobserved, hreports, (tracks_enter (fresh_reports hb hs hearlier).1 o).2]
      refine ⟨?_, rfl⟩
      cases o <;> simp
  · intro hzero
    rw [htold, hzero, reports_zero]
    rfl
  · intro s' t' logs' hs' h' hsame
    obtain ⟨htracks', hgiven⟩ := fresh_reports (q := q) hb hs' h'
    rw [hgiven, htold, htracks'.reported, htracks.reported, hsame]
    exact ⟨rfl, rfl⟩

/-! ### A slot that nobody writes to -/

theorem silent_offer (c : Uplink.Command) :
    Silent (fun _ => ()) (Uplink.Desk.offer c) := by
  refine .bind (fun _ _ => ⟨rfl, fun _ => rfl⟩) fun h => ?_
  cases h.desk.queue.offer c with
  | none => exact .pure _
  | some queue => exact .bind (fun _ _ => ⟨rfl, fun _ => rfl⟩) fun _ => .pure _

/-- The command queue gives no reports. -/
theorem reticent_uplink : Reticent Uplink.broker where
  start := by
    refine .bind (silent_offer .start) fun answer => ?_
    cases answer with
    | ok _ => exact .pure ()
    | error e => exact .note fun _ => rfl
  stop := .modify fun _ => rfl
  publish topic payload := by
    change Silent _ (Uplink.publish topic payload)
    unfold Uplink.publish
    split
    · exact .pure _
    · exact silent_offer _

def unattended : Site Uplink.Desk := .ready .empty {}

/-- In a cycle of its own the slot of dust is found as it was. -/
theorem recorded_unattended (cfg : PublisherConfig) (w : Watches) :
    ∃ log t, (cycle cfg Uplink.broker).Recorded Spares (w, unattended.2) log .publish t ∧
      observed .dust log = [0] := by
  have hup : decide unattended.2.net.snapshot = .publish := by decide
  have hcalm : unattended.2.net.snapshot.meets .mustDisconnect = false := by decide
  have hcycles : Cycles cfg Uplink.broker Spares (w, unattended.2) _ .publish _ :=
    .publishes (x := ⟨[], (w, unattended.2), .expired⟩)
      (y := ⟨[], (w, unattended.2), .ready ()⟩) (z := ⟨[], (w, unattended.2), .expired⟩)
      (.waited .expired hcalm (.nil _)) hup (.nil _) (.nil _) (.nil _) (copied_apply _ _ _ _)
  exact ⟨_, _, recorded_of_cycles hcycles, rfl⟩

theorem staleness_reported_unattended :
    ∃ logs t, Repeats { staleAfter := 1 } Uplink.broker unattended logs t ∧
      ReportsStaleness { staleAfter := 1 } .dust logs t ∧ (t.1.of .dust).reported = true := by
  obtain ⟨first, u, hfirst, hone⟩ := recorded_unattended { staleAfter := 1 } {}
  obtain ⟨second, t, hsecond, htwo⟩ := recorded_unattended { staleAfter := 1 } u.1
  have hrepeats : Repeats { staleAfter := 1 } Uplink.broker unattended [first, second] t :=
    .cycle rfl hfirst (.cycle (t := (u.1, unattended.2)) rfl hsecond (.done t))
  have hfaithful := (staleness_reported reticent_uplink rfl hrepeats .dust).1
  refine ⟨_, t, hrepeats, hfaithful, hfaithful.marked.2 ?_⟩
  simp only [List.flatten_cons, List.flatten_nil, observed_append, hone, htwo]
  decide

end Publisher

end AirStation
