import AirStation.Acquisition
import AirStation.Frame.Co2
import AirStation.Proofs.Acquisition.Exchange
import AirStation.Rig.Port

/-! Where the readings in a slot come from. The acquisition task of a serial sensor takes
step after step on a watched line, with any replies, while input comes, the port behaves
as it likes and the slot has other users. Whatever the task stores is accounted for by the
exchange of the cycle at hand: it is decoded from the bytes that the reads of that cycle
delivered after the dropping of earlier input, or it is the zero reading. -/

namespace AirStation.Acquisition

open Serial Serial.Line

variable {ρ P : Type} [SerialPort P]

/-- The sensor of a codec on a watched line. -/
abbrev lineSensor (P : Type) [SerialPort P] (c : Codec ρ) (policy : ReadPolicy) :
    Sensor (Line P) (Frame c.size) ρ :=
  Uart.sensor (Line P) c policy

/-- A task on a watched line and its slot, between two steps or where a step waits. The
trace of the line is that of the cycle at hand. -/
structure Stage (P : Type) [SerialPort P] (c : Codec ρ) (policy : ReadPolicy) where
  site : Site (Line P) (Frame c.size) ρ
  waiting : Option (Waiting (lineSensor P c policy))

namespace Stage

variable {c : Codec ρ} {policy : ReadPolicy}

def line (s : Stage P c policy) : Line P := s.site.1.device

def phase (s : Stage P c policy) : Phase (Frame c.size) ρ := s.site.1.phase

def slot (s : Stage P c policy) : Slot ρ := s.site.2

def withLine (l : Line P) (s : Stage P c policy) : Stage P c policy :=
  { s with site := ({ s.site.1 with device := l }, s.site.2) }

/-- A task before its first cycle. -/
def fresh (l : Line P) (stats : Stats) (slot : Slot ρ) : Stage P c policy :=
  ⟨(⟨l, .idle, stats⟩, slot), none⟩

/-- A cycle begins with an empty trace. -/
def onset (s : Stage P c policy) : Site (Line P) (Frame c.size) ρ :=
  match s.phase with
  | .idle => ({ s.site.1 with device.trace := [] }, s.site.2)
  | _ => s.site

/-- What a step waits for, if it does. -/
def waitingOf : StepProgress (lineSensor P c policy) → Option (Waiting (lineSensor P c policy))
  | .paused w => some w
  | .done () => none

/-- The replies that a line has for a wait, and the line after them. The lock of the slot
and the pause between two cycles are no matter of the line. -/
def Hears (pace : Pace) : (w : Waiting (lineSensor P c policy)) → (w.demand pace).Reply →
    Line P → Line P → Prop
  | .receiving r, reply, l, l' => Reads (FrameRead.frame r).room reply l l'
  | .storing _ _, _, l, l' | .resting, _, l, l' => l' = l

variable [Measured ρ]

/-- The task goes on: it begins a step, or a step that waits gets its reply. -/
inductive Goes (pace : Pace) : Stage P c policy → Stage P c policy → Prop where
  | begins {s : Stage P c policy} {p : StepProgress (lineSensor P c policy)}
      {site : Site (Line P) (Frame c.size) ρ} (js : Array Notice) : s.waiting = none →
      ((step (lineSensor P c policy) pace).start s.onset js).1 = (p, site) →
      Goes pace s ⟨site, waitingOf p⟩
  | resumes {s : Stage P c policy} {l : Line P} {p : StepProgress (lineSensor P c policy)}
      {site : Site (Line P) (Frame c.size) ρ} (w : Waiting (lineSensor P c policy))
      (reply : (w.demand pace).Reply) (js : Array Notice) : s.waiting = some w →
      Hears pace w reply s.line l →
      ((step (lineSensor P c policy) pace).resume w reply (s.withLine l).site js).1 = (p, site) →
      Goes pace s ⟨site, waitingOf p⟩

/-- What happens besides: input comes, the port changes, the slot has other users. -/
inductive Undergoes : Stage P c policy → Stage P c policy → Prop where
  | input {s : Stage P c policy} (bs : Bytes) : Undergoes s (s.withLine (s.line.come bs))
  | port {s : Stage P c policy} (p : P) : Undergoes s (s.withLine { s.line with port := p })
  | slot {s : Stage P c policy} (x : Slot ρ) : Undergoes s { s with site := (s.site.1, x) }

/-- What becomes of a task by steps of any number. -/
inductive Reachable (pace : Pace) : Stage P c policy → Prop where
  | fresh (l : Line P) (stats : Stats) (slot : Slot ρ) : Reachable pace (.fresh l stats slot)
  | goes {s t : Stage P c policy} : Reachable pace s → Goes pace s t → Reachable pace t
  | undergoes {s t : Stage P c policy} : Reachable pace s → Undergoes s t → Reachable pace t

/-! ### The invariant -/

/-- What a phase and its wait have to do with the line. -/
inductive Keeps (c : Codec ρ) (policy : ReadPolicy) :
    Phase (Frame c.size) ρ → Option (Waiting (lineSensor P c policy)) → Line P → Prop where
  | idle (l : Line P) : Keeps c policy .idle none l
  | requesting {l : Line P} : (∀ e ∈ l.trace, ∃ bs, e = .came bs) →
      Keeps c policy .requesting none l
  | awaiting {l : Line P} {t : Trace} : Since l t → Sent c t → t.delivered = [] →
      t.emptyReads = 0 → Keeps c policy .awaitingResponse none l
  | receiving {l : Line P} {t : Trace} {r : FrameRead c.size} : Since l t → Sent c t →
      FrameRead.Tracks policy t r → r.frame.isComplete = false →
      Keeps c policy .awaitingResponse (some (.receiving r)) l
  | validating {l : Line P} {t : Trace} {f : Frame c.size} : Since l t → Sent c t →
      FrameRead.Gathered policy t f → Keeps c policy (.validating f) none l
  | storing {l : Line P} {t : Trace} {r : ρ} : Since l t → Accounts c policy t r →
      Keeps c policy (.storing r) none l
  | locking {l : Line P} {t : Trace} {r : ρ} (budget : RetryBudget) : Since l t →
      Accounts c policy t r → Keeps c policy (.storing r) (some (.storing r budget)) l
  | sleeping (l : Line P) : Keeps c policy .sleeping none l
  | resting (l : Line P) : Keeps c policy .sleeping (some .resting) l
  | failed (cause : LockExhausted) (l : Line P) : Keeps c policy (.failed cause) none l

/-- The invariant of a stage. -/
def Kept (s : Stage P c policy) : Prop := Keeps c policy s.phase s.waiting s.line

/-- Either the slot is as it was, or it holds a reading that the exchange accounts for. -/
def Stores (s t : Stage P c policy) : Prop :=
  t.slot = s.slot ∨ ∃ r trace, t.slot = ⟨false, s.slot.state.store r⟩ ∧
    Since t.line trace ∧ Accounts c policy trace r

/-! ### Steps -/

variable {pace : Pace} {l : Line P} {stats : Stats} {slot : Slot ρ} {js : Array Notice}
  {p : StepProgress (lineSensor P c policy)} {site : Site (Line P) (Frame c.size) ρ} {t : Trace}

/-- A step that receives ends with the frame, or waits for more of it. -/
theorem receiving_keeps {q : Progress (FrameRead c.size) (FrameRead.Result c.size)}
    (hs : Since l t) (hsent : Sent c t) (hq : FrameRead.Stands policy t q)
    (h : (received (S := lineSensor P c policy) (q.map id fun x => .ok x.1)
      (⟨l, .awaitingResponse, stats⟩, slot) js).1 = (p, site)) :
    Keeps c policy site.1.phase (waitingOf p) site.1.device ∧ site.2 = slot := by
  cases q with
  | paused r =>
    cases h
    exact ⟨.receiving hs hsent hq.1 hq.2, rfl⟩
  | done x =>
    cases h
    exact ⟨.validating hs hsent hq, rfl⟩

theorem start_requesting (l : Line P) (stats : Stats) (slot : Slot ρ) (js : Array Notice) :
    (step (lineSensor P c policy) pace).start (⟨l, .requesting, stats⟩, slot) js =
      (match (Uart.request c l js).1.1 with
        | .ok () => enter .awaitingResponse
        | .error e => degrade e : Act _ (StepProgress (lineSensor P c policy)))
      (⟨(Uart.request c l js).1.2, .requesting, stats⟩, slot) (Uart.request c l js).2 := rfl

theorem request_keeps (hl : ∀ e ∈ l.trace, ∃ bs, e = .came bs)
    (h : ((step (lineSensor P c policy) pace).start (⟨l, .requesting, stats⟩, slot) js).1 =
      (p, site)) :
    Keeps c policy site.1.phase (waitingOf p) site.1.device ∧ site.2 = slot := by
  obtain ⟨t, port, hline, ⟨hdel, harr, hcount⟩, honce, hres⟩ := request_apply c l js
  have hsince : Since (Uart.request c l js).1.2 t := {
    split := ⟨l.trace, by rw [hline], hl⟩
    once := honce
    balance := by rw [hline, hdel, harr]; rfl }
  rw [start_requesting] at h
  rcases hres with ⟨hok, hsent⟩ | ⟨⟨e, herr⟩, hflush⟩
  · rw [hok] at h
    cases h
    exact ⟨.awaiting hsince hsent hdel hcount, rfl⟩
  · rw [herr] at h
    cases h
    exact ⟨.storing hsince (accounts_of_unsent hflush), rfl⟩

theorem start_validating (f : Frame c.size) (l : Line P) (stats : Stats) (slot : Slot ρ)
    (js : Array Notice) :
    (step (lineSensor P c policy) pace).start (⟨l, .validating f, stats⟩, slot) js =
      (match Uart.validate c f with
        | .ok r => do
          note (.measured c.part (Measured.reading r))
          enter (.storing r)
        | .error e => degrade e : Act _ (StepProgress (lineSensor P c policy)))
      (⟨l, .validating f, stats⟩, slot) js := rfl

theorem validate_keeps {f : Frame c.size} (hs : Since l t) (hsent : Sent c t)
    (hf : FrameRead.Gathered policy t f)
    (h : ((step (lineSensor P c policy) pace).start (⟨l, .validating f, stats⟩, slot) js).1 =
      (p, site)) :
    Keeps c policy site.1.phase (waitingOf p) site.1.device ∧ site.2 = slot := by
  rw [start_validating] at h
  cases hv : Uart.validate c f with
  | ok r =>
    rw [hv] at h
    cases h
    exact ⟨.storing hs (accounts_of_validate_ok hsent hf hv), rfl⟩
  | error e =>
    rw [hv] at h
    cases h
    exact ⟨.storing hs (accounts_of_validate_error hsent hf hv), rfl⟩

/-- Beginning a step keeps the invariant and leaves the slot alone. -/
theorem begins_keeps {s : Stage P c policy} (hk : Kept s) (hw : s.waiting = none)
    (h : ((step (lineSensor P c policy) pace).start s.onset js).1 = (p, site)) :
    Keeps c policy site.1.phase (waitingOf p) site.1.device ∧ site.2 = s.slot := by
  obtain ⟨⟨⟨l, phase, stats⟩, slot⟩, waiting⟩ := s
  cases hw
  cases hk with
  | idle =>
    cases h
    exact ⟨.requesting (by simp [onset, phase]), rfl⟩
  | requesting hl => exact request_keeps hl h
  | awaiting hs hsent hdel hcount =>
    let q : Progress (FrameRead c.size) (FrameRead.Result c.size) :=
      FrameRead.proceed ⟨.empty, .ofMax policy.retries⟩
    have hstart : (step (lineSensor P c policy) pace).start
        (⟨l, .awaitingResponse, stats⟩, slot) js =
      received (Activity.finish (Uart.received c) q l js).1.1
        (⟨(Activity.finish (Uart.received c) q l js).1.2, .awaitingResponse, stats⟩, slot)
        (Activity.finish (Uart.received c) q l js).2 := rfl
    simp only [onset, phase, hstart, finish_received] at h
    exact receiving_keeps hs hsent (FrameRead.start_stands hdel hcount) h
  | validating hs hsent hf => exact validate_keeps hs hsent hf h
  | storing hs hacc =>
    cases h
    exact ⟨.locking _ hs hacc, rfl⟩
  | sleeping =>
    cases h
    exact ⟨.resting l, rfl⟩
  | failed cause =>
    cases h
    exact ⟨.failed cause l, rfl⟩

/-- A lock that is not to be had leaves everything as it is, except that the task may fail. -/
theorem lock_expired {r : ρ} {budget : RetryBudget}
    (h : ((step (lineSensor P c policy) pace).resume (.storing r budget) (.expired : Timed Unit)
      (⟨l, .storing r, stats⟩, slot) js).1 = (p, site)) :
    ∃ b, (p = .paused (.storing r b) ∧ site = (⟨l, .storing r, stats⟩, slot)) ∨
      ∃ e : Exhausted, p = .done () ∧ site = (⟨l, .failed ⟨e.failures⟩, stats⟩, slot) := by
  simp only [step, resume, storing, Activity.on, Slot.withLockRetrying, Act.bind_apply,
    Act.on_apply, Act.note_apply] at h
  cases hrec : budget.recordFailure with
  | mk out b =>
    refine ⟨b, ?_⟩
    rw [hrec] at h
    cases out with
    | ok u =>
      cases h
      exact .inl ⟨rfl, rfl⟩
    | error e =>
      cases h
      exact .inr ⟨e, rfl, rfl⟩

/-- A reply to a step that waits keeps the invariant, and what it stores is accounted for. -/
theorem resumes_keeps {s : Stage P c policy} (hk : Kept s)
    {w : Waiting (lineSensor P c policy)} {reply : (w.demand pace).Reply} {l' : Line P}
    (hw : s.waiting = some w) (hh : Hears pace w reply s.line l')
    (h : ((step (lineSensor P c policy) pace).resume w reply (s.withLine l').site js).1 =
      (p, site)) :
    Kept (⟨site, waitingOf p⟩ : Stage P c policy) ∧ Stores s ⟨site, waitingOf p⟩ := by
  obtain ⟨⟨⟨l, phase, stats⟩, slot⟩, waiting⟩ := s
  cases hw
  cases hk with
  | @receiving l t r hs hsent htracks hopen =>
    obtain ⟨q, js', hread, hq⟩ := FrameRead.resume_stands htracks hopen hh l' js
    have hres : (step (lineSensor P c policy) pace).resume (.receiving r) reply
        (⟨l', .awaitingResponse, stats⟩, slot) js =
      received (Activity.finish (Uart.received c) (r.resume reply l' js).1.1
          (r.resume reply l' js).1.2 (r.resume reply l' js).2).1.1
        (⟨(Activity.finish (Uart.received c) (r.resume reply l' js).1.1
          (r.resume reply l' js).1.2 (r.resume reply l' js).2).1.2, .awaitingResponse, stats⟩, slot)
        (Activity.finish (Uart.received c) (r.resume reply l' js).1.1
          (r.resume reply l' js).1.2 (r.resume reply l' js).2).2 := rfl
    simp only [withLine, hres, hread, finish_received] at h
    obtain ⟨hk, hslot⟩ := receiving_keeps (hs.read hh) (hsent.concat rfl) hq h
    exact ⟨hk, .inl hslot⟩
  | locking budget hs hacc =>
    cases hh
    cases reply with
    | ready u =>
      cases h
      exact ⟨.sleeping l, .inr ⟨_, _, rfl, hs, hacc⟩⟩
    | expired =>
      obtain ⟨b, ⟨rfl, rfl⟩ | ⟨e, rfl, rfl⟩⟩ := lock_expired h
      · exact ⟨.locking b hs hacc, .inl rfl⟩
      · exact ⟨.failed ⟨e.failures⟩ l, .inl rfl⟩
  | resting =>
    cases hh
    cases h
    exact ⟨.idle l, .inl rfl⟩

theorem goes_keeps {s u : Stage P c policy} (hk : Kept s) (hg : Goes pace s u) :
    Kept u ∧ Stores s u := by
  cases hg with
  | begins js hw h =>
    obtain ⟨hk, hslot⟩ := begins_keeps hk hw h
    exact ⟨hk, .inl hslot⟩
  | resumes w reply js hw hh h => exact resumes_keeps hk hw hh h

/-! ### What happens besides -/

theorem Keeps.come {phase : Phase (Frame c.size) ρ}
    {w : Option (Waiting (lineSensor P c policy))} (h : Keeps c policy phase w l) (bs : Bytes) :
    Keeps c policy phase w (l.come bs) := by
  cases h with
  | idle => exact .idle _
  | requesting hl =>
    refine .requesting fun e he => ?_
    rcases List.mem_append.1 he with he | he
    · exact hl e he
    · exact ⟨bs, List.mem_singleton.1 he⟩
  | awaiting hs hsent hdel hcount =>
    refine .awaiting (hs.come bs) (hsent.concat rfl) ?_ ?_
    · rw [Trace.delivered_concat, hdel]
      rfl
    · rw [Trace.emptyReads_concat, hcount]
      rfl
  | receiving hs hsent htracks hopen =>
    exact .receiving (hs.come bs) (hsent.concat rfl) (htracks.concat rfl rfl) hopen
  | validating hs hsent hf =>
    exact .validating (hs.come bs) (hsent.concat rfl) (hf.concat rfl rfl)
  | storing hs hacc => exact .storing (hs.come bs) (hacc.come bs)
  | locking budget hs hacc => exact .locking budget (hs.come bs) (hacc.come bs)
  | sleeping => exact .sleeping _
  | resting => exact .resting _
  | failed cause => exact .failed cause _

theorem Keeps.port {phase : Phase (Frame c.size) ρ}
    {w : Option (Waiting (lineSensor P c policy))} (h : Keeps c policy phase w l) (x : P) :
    Keeps c policy phase w { l with port := x } := by
  cases h with
  | idle => exact .idle _
  | requesting hl => exact .requesting hl
  | awaiting hs hsent hdel hcount => exact .awaiting (hs.port x) hsent hdel hcount
  | receiving hs hsent htracks hopen => exact .receiving (hs.port x) hsent htracks hopen
  | validating hs hsent hf => exact .validating (hs.port x) hsent hf
  | storing hs hacc => exact .storing (hs.port x) hacc
  | locking budget hs hacc => exact .locking budget (hs.port x) hacc
  | sleeping => exact .sleeping _
  | resting => exact .resting _
  | failed cause => exact .failed cause _

theorem undergoes_keeps {s u : Stage P c policy} (hk : Kept s) (hu : Undergoes s u) : Kept u := by
  cases hu with
  | input bs => exact hk.come bs
  | port x => exact hk.port x
  | slot x => exact hk

theorem reachable_kept {s : Stage P c policy} (h : Reachable pace s) : Kept s := by
  induction h with
  | fresh l stats slot => exact .idle l
  | goes _ hg ih => exact (goes_keeps ih hg).1
  | undergoes _ hu ih => exact undergoes_keeps ih hu

/-- Whatever a task of a serial sensor stores, the exchange of its cycle accounts for. -/
theorem stores_accounted {s u : Stage P c policy} (h : Reachable pace s) (hg : Goes pace s u) :
    u.slot = s.slot ∨ ∃ r trace, u.slot = ⟨false, s.slot.state.store r⟩ ∧
      Since u.line trace ∧ Accounts c policy trace r :=
  (goes_keeps (reachable_kept h) hg).2

/-! ### One reading on its way -/

/-- An answer of the carbon dioxide sensor. -/
def answer : Bytes := (Co2Frame.encode 800).toList

/-- The line of the sensor once it was asked. -/
def asked : Line Rig.Port where
  port := { written := #[Co2Frame.readCommand], discards := 1 }
  pending := []
  trace := [.dropped, .wrote Co2Frame.readCommand (.ok 9), .flushed (.ok ())]

/-- The line once the answer has come and was read. -/
def answered : Line Rig.Port :=
  { asked with trace := asked.trace ++ [.came answer, .read (.ready (.ok answer))] }

/-- The task of the sensor with an empty slot. -/
def on (l : Line Rig.Port) (phase : Phase (Frame 9) CarbonDioxide)
    (w : Option (Waiting (lineSensor Rig.Port Co2Frame.codec {}))) :
    Stage Rig.Port Co2Frame.codec {} :=
  ⟨(⟨l, phase, {}⟩, .empty), w⟩

/-- The wait for the answer's bytes. -/
def listening : Waiting (lineSensor Rig.Port Co2Frame.codec {}) :=
  .receiving (⟨.empty, .ofMax 20⟩ : FrameRead 9)

/-- The task has the reading and waits for the slot's lock. -/
def measured : Stage Rig.Port Co2Frame.codec {} :=
  on answered (.storing ⟨800⟩) (some (.storing ⟨800⟩ (.ofMax 20)))

/-- The reading is in the slot. -/
def stored : Stage Rig.Port Co2Frame.codec {} :=
  ⟨(⟨answered, .sleeping, {}⟩, ⟨false, ⟨some ⟨800⟩, 1⟩⟩), none⟩

theorem request_asked (js : Array Notice) :
    (Uart.request Co2Frame.codec (⟨{}, [], []⟩ : Line Rig.Port) js).1 = (.ok (), asked) := by
  let dropped : Line Rig.Port := ⟨{ discards := 1 }, [], [.dropped]⟩
  let written : Line Rig.Port :=
    ⟨asked.port, [], [.dropped, .wrote Co2Frame.readCommand (.ok 9)]⟩
  have hwrite : writeAll Co2Frame.readCommand dropped js = ((.ok (), written), js) := by
    rw [Co2Frame.readCommand, writeAll, Act.bind_apply]
    change writeAll [] written js = _
    rw [writeAll]
    rfl
  have hsend : send Co2Frame.readCommand (⟨{}, [], []⟩ : Line Rig.Port) js =
      ((.ok (), asked), js) := by
    rw [send, Act.bind_apply]
    change (writeAll Co2Frame.readCommand >>= _ : Act (Line Rig.Port) _) dropped js = _
    rw [Act.bind_apply, hwrite]
    rfl
  have hcodec : Co2Frame.codec.request = Co2Frame.readCommand := rfl
  rw [Uart.request, Act.bind_apply, hcodec, hsend]
  rfl

theorem goes_asked :
    Goes .co2 (on ⟨{}, [], []⟩ .requesting none) (on asked .awaitingResponse none) := by
  refine .begins (p := .done ()) #[] rfl ?_
  change ((step (lineSensor Rig.Port Co2Frame.codec {}) .co2).start
    (⟨⟨{}, [], []⟩, .requesting, {}⟩, .empty) #[]).1 = _
  rw [start_requesting, request_asked]
  rfl

theorem reachable_measured : Reachable .co2 measured := by
  have hidle : Reachable .co2 (on ⟨{}, [], []⟩ .idle none) := .fresh _ _ _
  have hasked : Reachable .co2 (on asked .awaitingResponse none) :=
    (hidle.goes (.begins #[] rfl rfl)).goes goes_asked
  have hlistening : Reachable .co2 (on asked .awaitingResponse (some listening)) :=
    hasked.goes (.begins #[] rfl rfl)
  have hread : Reachable .co2
      (on answered (.validating (.ofVector (Co2Frame.encode 800))) none) :=
    (hlistening.undergoes (.input answer)).goes
      (.resumes listening (.ready (.ok answer) : Timed (Except PortFault Bytes)) #[] rfl
        (.bytes answer [] (by decide) rfl) rfl)
  have hvalid : Reachable .co2 (on answered (.storing ⟨800⟩) none) :=
    hread.goes (.begins (p := .done ()) #[] rfl rfl)
  exact hvalid.goes (.begins #[] rfl rfl)

theorem goes_stored : Goes .co2 measured stored :=
  .resumes (s := measured) (.storing ⟨800⟩ (.ofMax 20)) (.ready () : Timed Unit) #[] rfl rfl rfl

theorem stores_accounted_measured :
    Reachable .co2 measured ∧ Goes .co2 measured stored ∧
      (stored.slot = measured.slot ∨
        ∃ r trace, stored.slot = ⟨false, measured.slot.state.store r⟩ ∧
          Since stored.line trace ∧ Accounts Co2Frame.codec {} trace r) :=
  ⟨reachable_measured, goes_stored, stores_accounted reachable_measured goes_stored⟩

end Stage

end AirStation.Acquisition
