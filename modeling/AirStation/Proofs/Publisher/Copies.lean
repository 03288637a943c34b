import AirStation.Proofs.Activity.Records
import AirStation.Proofs.Publisher.Cycle
import AirStation.Proofs.Telemetry.Calls

/-! A cycle of the publisher on record. A cycle that publishes waits four times: for the
flags, and then for the lock of each slot in turn. What it copies of a slot is what the slot
holds at the moment its lock is granted; the rest of the cycle follows from the copies alone.
A cycle that does anything else waits for the flags at most. -/

namespace AirStation.Publisher

open Activity

variable {β E : Type} {cfg : PublisherConfig} {b : Broker β}
  {happens : E → Site β → Site β → Prop} {s t u : Site β}

/-- The link and the session are up. -/
def Site.ready (store : Store) (desk : β) : Site β :=
  ({}, ⟨⟨⟨5⟩, false, .ofMax 3⟩, store, desk⟩)

/-- The record of a cycle. -/
abbrev Log (E β : Type) := Record E Demand.Reply (Site β)

/-! ### One slot -/

/-- One wait for a slot's lock: what happens meanwhile, and what is found and replied then. -/
structure Try (E β : Type) where
  meanwhile : List E
  found : Site β
  reply : Timed Unit

namespace Try

def log (cfg : PublisherConfig) (q : Quantity) (x : Try E β) (told : List Notice) : Log E β :=
  x.meanwhile.map .happened ++ [.replied x.found (.lock ⟨q, cfg.lockLimit⟩) x.reply told]

/-- The copy of the slot, if its lock was granted. -/
def copy (q : Quantity) (x : Try E β) : Option (SlotSnapshot q.Value) :=
  match x.reply with
  | .ready () => some (x.found.2.store.contents q).snapshot
  | .expired => none

/-- A lock that was granted is given back, with what the slot holds left alone. -/
def left (q : Quantity) (x : Try E β) : Site β :=
  match x.reply with
  | .ready () => (x.found.1, { x.found.2 with
      store := (Store.part q).put ⟨false, x.found.2.store.contents q⟩ x.found.2.store })
  | .expired => x.found

variable (q : Quantity) (x : Try E β)

@[simp] theorem left_watches : (x.left q).1 = x.found.1 := by
  unfold left
  split <;> rfl

@[simp] theorem left_desk : (x.left q).2.desk = x.found.2.desk := by
  unfold left
  split <;> rfl

@[simp] theorem left_contents : (x.left q).2.store.contents = x.found.2.store.contents := by
  unfold left
  split
  · exact (Store.contents_put _ _).trans (Function.update_eq_self _ _)
  · rfl

end Try

/-! With the lock the slot is copied and the lock given back. -/

section Replies

variable (seen : Flags) (x : Try E β) (c : Option (SlotSnapshot CarbonDioxide))
  (d : Option (SlotSnapshot Particulates))

theorem resume_co2 : (cycle cfg b).resume (.copying seen .co2) x.reply x.found #[] =
    ((.paused (.copying seen (.dust (x.copy .co2))), x.left .co2), #[]) := by
  obtain ⟨es, found, r⟩ := x
  cases r <;> rfl

theorem resume_dust : (cycle cfg b).resume (.copying seen (.dust c)) x.reply x.found #[] =
    ((.paused (.copying seen (.pressure c (x.copy .dust))), x.left .dust), #[]) := by
  obtain ⟨es, found, r⟩ := x
  cases r <;> rfl

theorem resume_pressure :
    (cycle cfg b).resume (.copying seen (.pressure c d)) x.reply x.found #[] =
      copied cfg b seen (.done ⟨c, d, x.copy .pressure⟩) (x.left .pressure) #[] := by
  obtain ⟨es, found, r⟩ := x
  cases r <;> rfl

end Replies

/-- A wait for a lock on record. -/
theorem unfolds_copying_iff {seen : Flags} {p : Store.Copying} {log : Log E β} {action : Action} :
    (cycle cfg b).Unfolds happens (.paused (.copying seen p)) s log action t ↔
      ∃ (x : Try E β) (rest : Log E β),
        let next := (cycle cfg b).resume (.copying seen p) x.reply x.found #[]
        Passes happens x.meanwhile s x.found ∧
          log = x.log cfg p.quantity next.2.toList ++ rest ∧
          (cycle cfg b).Unfolds happens next.1.1 next.1.2 rest action t := by
  refine unfolds_paused_iff.trans ⟨?_, ?_⟩
  · rintro ⟨es, u, hes, r, rest, rfl, hrest⟩
    refine ⟨⟨es, u, r⟩, rest, hes, ?_, hrest⟩
    simp [Try.log, cycle, Waiting.demand]
  · rintro ⟨⟨es, u, r⟩, rest, hes, rfl, hrest⟩
    refine ⟨es, u, hes, r, rest, ?_, hrest⟩
    simp [Try.log, cycle, Waiting.demand]

/-! ### The rest of the cycle -/

section Messages

variable {snap : Snapshot} {m : Metric} {rest : List Metric} {js js' : Array Notice} {h : Hub β}

theorem publishAll_without {n : Notice} (hm : message cfg snap m = .error n) :
    publishAll cfg b snap (m :: rest) s js = publishAll cfg b snap rest s (js.push n) := by
  rw [publishAll, hm]
  rfl

theorem publishAll_accepted {sent : String × String} (hm : message cfg snap m = .ok sent)
    (hcall : b.publish sent.1 sent.2.toUTF8.toList s.2 js = ((.ok (), h), js')) :
    publishAll cfg b snap (m :: rest) s js =
      publishAll cfg b snap rest (s.1, h) (js'.push (.published sent.1 sent.2)) := by
  rw [publishAll, hm]
  simp only [Act.bind_apply, Act.on_apply, Part.snd, hcall]
  rfl

theorem publishAll_refused {sent : String × String} {e : BrokerError}
    (hm : message cfg snap m = .ok sent)
    (hcall : b.publish sent.1 sent.2.toUTF8.toList s.2 js = ((.error e, h), js')) :
    publishAll cfg b snap (m :: rest) s js = (((), (s.1, h)), js'.push (.rejected e sent.1)) := by
  rw [publishAll, hm]
  simp only [Act.bind_apply, Act.on_apply, Part.snd, hcall]
  rfl

end Messages

/-- With the copies the watches are brought up to date, and then the metrics are published. -/
theorem copied_apply (seen : Flags) (snap : Snapshot) (s : Site β) (js : Array Notice) :
    let watched := watch cfg.staleAfter snap s.1 js
    let sent := publishAll cfg b snap Metric.all (watched.1.2, s.2) watched.2
    copied cfg b seen (.done snap) s js = ((.done .publish, settled seen sent.1.2), sent.2) := by
  simp [copied, settle_apply, Part.fst]

/-! ### A whole cycle -/

/-- Before it acts a cycle waits for the flags, unless it is to disconnect anyway; then it
leaves these notices. -/
inductive Awaits (cfg : PublisherConfig) (happens : E → Site β → Site β → Prop) (s : Site β)
    (told : List Notice) : Log E β → Site β → Prop where
  | atOnce : s.2.net.snapshot.meets .mustDisconnect = true →
      Awaits cfg happens s told [.began s told] s
  | waited {es : List E} {u : Site β} (r : Timed Unit) :
      s.2.net.snapshot.meets .mustDisconnect = false → Passes happens es s u →
      Awaits cfg happens s told
        (.began s [] :: (es.map .happened ++
          [.replied u (.flags ⟨cfg.pollInterval, .mustDisconnect⟩) r told])) u

/-- A recorded cycle. One that publishes goes through the slots and ends with what it makes of
the copies; any other acts at once. -/
inductive Cycles (cfg : PublisherConfig) (b : Broker β) (happens : E → Site β → Site β → Prop)
    (s : Site β) : Log E β → Action → Site β → Prop where
  | acts {log : Log E β} {u t : Site β} {action : Action} {told : Array Notice} :
      Awaits cfg happens s told.toList log u →
      decide u.2.net.snapshot = action → action ≠ .publish →
      act cfg b (.done u.2.net.snapshot) u #[] = ((.done action, t), told) →
      Cycles cfg b happens s log action t
  | publishes {early : Log E β} {x y z : Try E β} {u t : Site β} {told : Array Notice} :
      Awaits cfg happens s [.decided u.2.net.snapshot .publish] early u →
      decide u.2.net.snapshot = .publish →
      Passes happens x.meanwhile u x.found →
      Passes happens y.meanwhile (x.left .co2) y.found →
      Passes happens z.meanwhile (y.left .dust) z.found →
      copied cfg b u.2.net.snapshot (.done ⟨x.copy .co2, y.copy .dust, z.copy .pressure⟩)
        (z.left .pressure) #[] = ((.done .publish, t), told) →
      Cycles cfg b happens s
        (early ++ (x.log cfg .co2 [] ++ (y.log cfg .dust [] ++ z.log cfg .pressure told.toList)))
        .publish t

theorem unfolds_publishing_iff {seen : Flags} {log : Log E β} {action : Action} :
    (cycle cfg b).Unfolds happens (.paused (.copying seen .co2)) s log action t ↔
      ∃ (x y z : Try E β) (told : Array Notice), Passes happens x.meanwhile s x.found ∧
        Passes happens y.meanwhile (x.left .co2) y.found ∧
        Passes happens z.meanwhile (y.left .dust) z.found ∧
        copied cfg b seen (.done ⟨x.copy .co2, y.copy .dust, z.copy .pressure⟩)
          (z.left .pressure) #[] = ((.done action, t), told) ∧
        log = x.log cfg .co2 [] ++ (y.log cfg .dust [] ++ z.log cfg .pressure told.toList) := by
  constructor
  · intro h
    obtain ⟨x, _, hx, rfl, hdust⟩ := unfolds_copying_iff.1 h
    rw [resume_co2] at hdust ⊢
    obtain ⟨y, _, hy, rfl, hpressure⟩ := unfolds_copying_iff.1 hdust
    rw [resume_dust] at hpressure ⊢
    obtain ⟨z, _, hz, rfl, hend⟩ := unfolds_copying_iff.1 hpressure
    rw [resume_pressure] at hend ⊢
    obtain ⟨m, -, hcopied⟩ := copied_done cfg b seen
      ⟨x.copy .co2, y.copy .dust, z.copy .pressure⟩ (z.left .pressure) #[]
    rw [hcopied] at hend
    obtain ⟨rfl, rfl, rfl⟩ := unfolds_done_iff.1 hend
    refine ⟨x, y, z, _, hx, hy, hz, Prod.ext hcopied rfl, ?_⟩
    rw [List.append_nil]
    rfl
  · rintro ⟨x, y, z, told, hx, hy, hz, hcopied, rfl⟩
    refine unfolds_copying_iff.2 ⟨x, _, hx, by rw [resume_co2]; rfl, ?_⟩
    rw [resume_co2]
    refine unfolds_copying_iff.2 ⟨y, _, hy, by rw [resume_dust]; rfl, ?_⟩
    rw [resume_dust]
    refine unfolds_copying_iff.2 ⟨z, [], hz, ?_, ?_⟩
    · rw [resume_pressure, hcopied, List.append_nil]
      rfl
    · rw [resume_pressure, hcopied]
      exact .done _ _

/-- A cycle that does not publish is over once it has acted. -/
theorem act_done (cfg : PublisherConfig) (b : Broker β) {seen : Flags}
    (h : decide seen ≠ .publish) (s : Site β) (js : Array Notice) :
    ∃ t, (act cfg b (.done seen) s js).1 = (.done (decide seen), t) := by
  cases hd : decide seen with
  | stopBroker =>
    obtain ⟨js', hact⟩ := act_stop cfg b hd s js
    exact ⟨_, hact⟩
  | startBroker =>
    obtain ⟨js', hact⟩ := act_start cfg b hd s js
    exact ⟨_, hact⟩
  | publish => exact absurd hd h
  | idle => exact ⟨_, act_idle cfg b hd s js⟩

theorem act_told {seen : Flags} (h : decide seen = .publish) (s : Site β) :
    act cfg b (.done seen) s #[] =
      ((.paused (.copying seen .co2), s), #[.decided seen .publish]) := by
  refine Prod.ext (act_publish cfg b h s #[]) ?_
  simp [act, h, copying, Activity.on, Store.snapshot, copied]

/-- A cycle once it has seen the flags. -/
theorem cycles_of_acted {action : Action} {early rest : Log E β}
    (hearly : Awaits cfg happens s
      (act cfg b (.done u.2.net.snapshot) u #[]).2.toList early u)
    (h : (cycle cfg b).Unfolds happens (act cfg b (.done u.2.net.snapshot) u #[]).1.1
      (act cfg b (.done u.2.net.snapshot) u #[]).1.2 rest action t) :
    Cycles cfg b happens s (early ++ rest) action t := by
  by_cases hd : decide u.2.net.snapshot = .publish
  · rw [act_told hd] at hearly h
    obtain ⟨x, y, z, told, hx, hy, hz, hcopied, rfl⟩ := unfolds_publishing_iff.1 h
    obtain rfl : action = .publish := by
      rw [copied_apply] at hcopied
      exact (Progress.done.inj (congrArg (·.1.1) hcopied)).symm
    exact .publishes hearly hd hx hy hz hcopied
  · obtain ⟨v, hv⟩ := act_done cfg b hd u #[]
    rw [hv] at h
    obtain ⟨rfl, rfl, rfl⟩ := unfolds_done_iff.1 h
    rw [List.append_nil]
    exact .acts hearly rfl hd (Prod.ext hv rfl)

theorem cycle_start (s : Site β) : (cycle cfg b).start s #[] =
    if s.2.net.snapshot.meets .mustDisconnect then act cfg b (.done s.2.net.snapshot) s #[]
    else ((.paused .flags, s), #[]) := by
  change act cfg b ((awaiting cfg).start s #[]).1.1 s #[] = _
  rw [awaiting_start]
  split <;> rfl

/-- Every recorded cycle is one of these. -/
theorem cycles_of_recorded {log : Log E β} {action : Action}
    (h : (cycle cfg b).Recorded happens s log action t) :
    Cycles cfg b happens s log action t := by
  obtain ⟨h⟩ := h
  rw [cycle_start] at h ⊢
  by_cases hm : s.2.net.snapshot.meets .mustDisconnect = true
  · rw [if_pos hm] at h ⊢
    exact cycles_of_acted (.atOnce hm) h
  · rw [if_neg hm] at h ⊢
    obtain ⟨es, u, hes, r, rest, rfl, hrest⟩ := unfolds_paused_iff.1 h
    have hresume : (cycle cfg b).resume .flags r u #[] =
        act cfg b (.done u.2.net.snapshot) u #[] := rfl
    rw [hresume] at hrest ⊢
    have hcycle := cycles_of_acted (.waited r (eq_false_of_ne_true hm) hes) hrest
    rwa [List.cons_append, List.append_assoc, List.singleton_append] at hcycle

/-- And each of these is on record. -/
theorem recorded_of_cycles {log : Log E β} {action : Action}
    (h : Cycles cfg b happens s log action t) :
    (cycle cfg b).Recorded happens s log action t := by
  obtain ⟨early, rest, u, rfl, hearly, hrest⟩ : ∃ early rest u, log = early ++ rest ∧
      Awaits cfg happens s (act cfg b (.done u.2.net.snapshot) u #[]).2.toList early u ∧
      (cycle cfg b).Unfolds happens (act cfg b (.done u.2.net.snapshot) u #[]).1.1
        (act cfg b (.done u.2.net.snapshot) u #[]).1.2 rest action t := by
    cases h with
    | @acts log u t action told hearly hd hne hact =>
      refine ⟨log, [], u, (List.append_nil _).symm, ?_, ?_⟩
      · rwa [hact]
      · rw [hact]
        exact .done _ _
    | @publishes early x y z u t told hearly hd hx hy hz hcopied =>
      refine ⟨early, _, u, rfl, ?_, ?_⟩
      · rwa [act_told hd]
      · rw [act_told hd]
        exact unfolds_publishing_iff.2 ⟨x, y, z, told, hx, hy, hz, hcopied, rfl⟩
  cases hearly with
  | atOnce hm =>
    have hstart : (cycle cfg b).start s #[] = act cfg b (.done s.2.net.snapshot) s #[] := by
      rw [cycle_start, if_pos hm]
    rw [← hstart] at hrest ⊢
    exact .intro hrest
  | @waited es u r hm hes =>
    have hstart : (cycle cfg b).start s #[] = ((.paused .flags, s), #[]) := by
      rw [cycle_start, if_neg (by simp [hm])]
      rfl
    have hrun : (cycle cfg b).Unfolds happens ((cycle cfg b).start s #[]).1.1
        ((cycle cfg b).start s #[]).1.2 (es.map .happened ++ .replied u
          (.flags ⟨cfg.pollInterval, .mustDisconnect⟩) r
          (act cfg b (.done u.2.net.snapshot) u #[]).2.toList :: rest) action t := by
      rw [hstart]
      exact unfolds_paused_iff.2 ⟨es, u, hes, r, rest, rfl, hrest⟩
    have hrecorded := Recorded.intro hrun
    rw [hstart] at hrecorded
    rwa [List.cons_append, List.append_assoc, List.singleton_append]

/-- What neither the happenings touch nor the giving back of a lock is, once the slots are
copied, as it was at first. -/
theorem kept_of_publishes {γ : Type} {f : Site β → γ}
    (hkept : ∀ e s t, happens e s t → f t = f s)
    (hleft : ∀ (x : Try E β) q, f (x.left q) = f x.found) {told : List Notice}
    {early : Log E β} {x y z : Try E β} (hearly : Awaits cfg happens s told early u)
    (hx : Passes happens x.meanwhile u x.found)
    (hy : Passes happens y.meanwhile (x.left .co2) y.found)
    (hz : Passes happens z.meanwhile (y.left .dust) z.found) : f (z.left .pressure) = f s := by
  have hawaited : f u = f s := by
    cases hearly with
    | atOnce => rfl
    | waited r _ hes => exact hes.kept hkept
  calc f (z.left .pressure) = f z.found := hleft z .pressure
    _ = f y.found := (hz.kept hkept).trans (hleft y .dust)
    _ = f x.found := (hy.kept hkept).trans (hleft x .co2)
    _ = f s := (hx.kept hkept).trans hawaited

/-- Whatever it is replied and whatever becomes of the state, a cycle has at most four waits. -/
theorem cycle_endsWithin (s : Site β) (js : Array Notice) :
    (cycle cfg b).EndsWithin 4 ((cycle cfg b).start s js).1.1 := by
  have hpressure (seen : Flags) (c : Option (SlotSnapshot CarbonDioxide))
      (d : Option (SlotSnapshot Particulates)) :
      (cycle cfg b).EndsWithin 1 (.paused (.copying seen (.pressure c d))) := by
    refine .resume fun r s js => ?_
    change (cycle cfg b).EndsWithin 0 (copied cfg b seen (.done _) _ _).1.1
    rw [copied_apply]
    exact .done _ _
  have hdust (seen : Flags) (c : Option (SlotSnapshot CarbonDioxide)) :
      (cycle cfg b).EndsWithin 2 (.paused (.copying seen (.dust c))) :=
    .resume fun _ _ _ => hpressure seen c _
  have hco2 (seen : Flags) : (cycle cfg b).EndsWithin 3 (.paused (.copying seen .co2)) :=
    .resume fun _ _ _ => hdust seen _
  have hact (seen : Flags) (s : Site β) (js : Array Notice) :
      (cycle cfg b).EndsWithin 3 (act cfg b (.done seen) s js).1.1 := by
    by_cases hd : decide seen = .publish
    · rw [act_publish cfg b hd]
      exact hco2 seen
    · obtain ⟨t, ht⟩ := act_done cfg b hd s js
      rw [ht]
      exact .done _ _
  change (cycle cfg b).EndsWithin 4 (act cfg b ((awaiting cfg).start s js).1.1 s js).1.1
  rw [awaiting_start]
  split
  · exact (hact _ s js).mono (by omega)
  · exact .resume fun _ u js => hact u.2.net.snapshot u js

end AirStation.Publisher
