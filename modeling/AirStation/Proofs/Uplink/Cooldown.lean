import AirStation.Proofs.Uplink.Joining

/-! How long a link that has failed is left alone. The task's wait is timed from when it is
begun, so after a loss that was refused before then the whole cooldown goes by. A loss that is
refused while the task waits does not start the wait over: what is left of it goes by, which may
be next to nothing. -/

namespace AirStation.Uplink.Link.Timeline

variable {access : Internet} {policy : LinkPolicy} {s t : Timeline} {p : Phase}
  {before after es : Log} {τ : Millis}

/-! ### The log in time -/

/-- What is logged is in the order of time, and none of it is to come. -/
structure Ordered (s : Timeline) : Prop where
  sorted : s.log.Pairwise (·.1 ≤ ·.1)
  past : ∀ x ∈ s.log, x.1 ≤ s.now

theorem fst_of_mem_stamp {now : Millis} {told : Array Notice} {x : Millis × Mark}
    (hx : x ∈ stamp now told) : x.1 = now := by
  obtain ⟨n, -, rfl⟩ := told_of_mem_stamp hx
  rfl

theorem ne_waits_of_mem_stamp {now : Millis} {told : Array Notice} {x : Millis × Mark}
    (hx : x ∈ stamp now told) (q : Phase) : x.2 ≠ .waits q := by
  obtain ⟨n, -, rfl⟩ := told_of_mem_stamp hx
  exact nofun

/-- A move logs what it does at its moment. -/
theorem Move.logs_now (h : Move access policy s t) :
    s.now ≤ t.now ∧ ∃ es, t.log = s.log ++ es ∧ ∀ x ∈ es, x.1 = s.now := by
  cases h with
  | passes length => exact ⟨Nat.le_add_right _ _, [], (List.append_nil _).symm, by simp⟩
  | aside => exact ⟨Nat.le_refl _, [], (List.append_nil _).symm, by simp⟩
  | reports | ends => exact ⟨Nat.le_refl _, _, rfl, fun _ => fst_of_mem_stamp⟩
  | goesOn =>
    exact ⟨Nat.le_refl _, _, rfl, List.forall_mem_append.2
      ⟨fun _ => fst_of_mem_stamp, List.forall_mem_singleton.2 rfl⟩⟩

theorem Reachable.ordered (h : Reachable access policy s) : Ordered s := by
  induction h with
  | powerOn =>
    refine ⟨List.pairwise_singleton _ _, fun x hx => ?_⟩
    obtain rfl := List.mem_singleton.1 hx
    exact Nat.le_refl 0
  | @move s t _ hm ih =>
    obtain ⟨hnow, es, hlog, hes⟩ := hm.logs_now
    constructor
    · have hsame : es.Pairwise (·.1 ≤ ·.1) :=
        List.pairwise_of_forall_mem_list fun x hx y hy =>
          Nat.le_of_eq ((hes x hx).trans (hes y hy).symm)
      rw [hlog]
      exact List.pairwise_append.2
        ⟨ih.sorted, hsame, fun x hx y hy => (hes y hy).symm ▸ ih.past x hx⟩
    · intro x hx
      rw [hlog] at hx
      rcases List.mem_append.1 hx with hx | hx
      · exact Nat.le_trans (ih.past x hx) hnow
      · exact hes x hx ▸ hnow

/-- The log before and after the task began to wait as it does, or as it did at last. -/
structure Waiting (s : Timeline) (p : Phase) (before after : Log) : Prop where
  log : s.log = before ++ (s.since, .waits p) :: after
  task : s.task = some p ∨ s.task = none
  last : ∀ x ∈ after, ∀ q, x.2 ≠ .waits q

/-- Notices do not end a wait. -/
theorem Waiting.notices (h : Waiting s p before after) (told : Array Notice)
    (hlog : t.log = s.log ++ stamp s.now told) (hsince : t.since = s.since)
    (htask : t.task = s.task ∨ t.task = none) :
    Waiting t p before (after ++ stamp s.now told) where
  log := by rw [hlog, hsince, h.log, List.append_assoc, List.cons_append]
  task := htask.elim (fun heq => heq ▸ h.task) .inr
  last := List.forall_mem_append.2 ⟨h.last, fun _ hx => ne_waits_of_mem_stamp hx⟩

theorem Move.waiting (h : Move access policy s t) (hw : Waiting s p before after) :
    ∃ q before after, Waiting t q before after := by
  cases h with
  | passes | aside =>
    exact ⟨_, _, _, hw.notices #[] (List.append_nil _).symm rfl (.inl rfl)⟩
  | @reports _ told => exact ⟨_, _, _, hw.notices told rfl rfl (.inl rfl)⟩
  | @ends _ _ _ told => exact ⟨_, _, _, hw.notices told rfl rfl (.inr rfl)⟩
  | @goesOn _ q _ _ told =>
    exact ⟨q, s.log ++ stamp s.now told, [], (List.append_assoc _ _ _).symm, .inl rfl, by simp⟩

theorem Reachable.waiting (h : Reachable access policy s) :
    ∃ p before after, Waiting s p before after := by
  induction h with
  | powerOn => exact ⟨.configuring, [], [], rfl, .inl rfl, by simp⟩
  | move _ hm ih =>
    obtain ⟨p, before, after, hw⟩ := ih
    exact hm.waiting hw

/-! ### The cooldown -/

/-- The task is parked since it last began to wait, as long as the cooldown at least. -/
structure Expired (cooldown now : Millis) (pre : Log) (began : Millis) (before after : Log) :
    Prop where
  log : pre = before ++ (began, .waits .parked) :: after
  last : ∀ x ∈ after, ∀ q, x.2 ≠ .waits q
  waited : began + max cooldown 1 ≤ now

theorem Reachable.expired (h : Reachable access policy s) :
    Always (fun pre x => x.2 = .told .linkRearmed →
      ∃ began before after, Expired policy.cooldown x.1 pre began before after) s.log := by
  induction h with
  | powerOn =>
    intro pre x post heq hx
    obtain ⟨-, rfl, -⟩ := split_singleton heq
    cases hx
  | @move s t hr hm ih =>
    obtain ⟨-, es, hlog, hes⟩ := hm.logs_now
    rw [hlog]
    refine ih.append fun pre x post heq hx => ?_
    have hin : x ∈ es := heq ▸ List.mem_append_right _ (.head _)
    have hnow : x.1 = s.now := hes x hin
    obtain ⟨htask, hrearms, rfl⟩ := hm.of_rearmed hlog (τ := x.1) (hx ▸ hin)
    obtain ⟨p, before, after, hw⟩ := hr.waiting
    obtain rfl : p = .parked := by
      rcases hw.task with h | h
      · exact Option.some.inj (h.symm.trans htask)
      · exact absurd (h.symm.trans htask) nofun
    -- What is entered before the notice is entered with it, and is no wait.
    have hpre : ∀ y ∈ pre, ∀ q, y.2 ≠ .waits q := by
      rcases split_append heq with ⟨later, hstamp, -⟩ | ⟨earlier, -, hwait⟩
      · exact fun y hy => ne_waits_of_mem_stamp (hstamp ▸ List.mem_append_left _ hy)
      · obtain ⟨-, rfl, -⟩ := split_singleton hwait
        cases hx
    exact ⟨s.since, before, after ++ pre, {
      log := by rw [hw.log, List.append_assoc, List.cons_append]
      last := List.forall_mem_append.2 ⟨hw.last, hpre⟩
      waited := hnow ▸ hrearms.waited }⟩

/-- A fresh sequence and the losses that were refused before. -/
structure Cooled (cooldown now : Millis) (pre : Log) (began : Millis) (before after : Log) :
    Prop extends Expired cooldown now pre began before after where
  /-- A loss refused before the wait is left alone for the whole cooldown. -/
  honoured : ∀ r, (r, .told .linkGivenUp) ∈ before → r + max cooldown 1 ≤ now
  /-- One refused during the wait is left alone for the rest of it. -/
  during : ∀ r, (r, .told .linkGivenUp) ∈ after → began ≤ r ∧ r ≤ now
  /-- Where the task begins anew as soon as it may, the losses that are left alone for the
  cooldown, if there is any, are those refused no later than the wait was begun. -/
  prompt : now = began + max cooldown 1 → ∀ r, (r, .told .linkGivenUp) ∈ pre →
    (r + cooldown ≤ now ↔ r ≤ began ∨ cooldown = 0)

/-- When a wait is due, the whole cooldown has gone by just since what happened no later than
the wait was begun, unless there is none. -/
theorem add_le_due_iff {r began cooldown : Nat} (h : r ≤ began + max cooldown 1) :
    r + cooldown ≤ began + max cooldown 1 ↔ r ≤ began ∨ cooldown = 0 := by
  omega

/-- Whenever the task begins anew, the cooldown has gone by since it began to wait. -/
theorem cooldown_from_wait (h : Reachable access policy s) (pre post : Log)
    (hs : s.log = pre ++ (τ, .told .linkRearmed) :: post) :
    ∃ began before after, Cooled policy.cooldown τ pre began before after := by
  obtain ⟨began, before, after, hexpired⟩ := h.expired pre _ post hs rfl
  have hsorted : (pre ++ (τ, .told .linkRearmed) :: post).Pairwise (·.1 ≤ ·.1) :=
    hs ▸ h.ordered.sorted
  obtain ⟨hpre, -, hlate⟩ := List.pairwise_append.1 hsorted
  have hpast {r : Millis} (hr : (r, .told .linkGivenUp) ∈ pre) : r ≤ τ :=
    hlate _ hr _ (.head _)
  obtain ⟨-, hafter, hbefore⟩ := List.pairwise_append.1 (hexpired.log ▸ hpre)
  refine ⟨began, before, after, hexpired, fun r hr => ?_, fun r hr => ⟨?_, ?_⟩, ?_⟩
  · have hearly : r ≤ began := hbefore _ hr _ (.head _)
    exact Nat.le_trans (Nat.add_le_add_right hearly _) hexpired.waited
  · exact List.rel_of_pairwise_cons hafter hr
  · exact hpast (hexpired.log ▸ List.mem_append_right _ (.tail _ hr))
  · rintro rfl r hr
    exact add_le_due_iff (hpast hr)

theorem cooldown_from_wait_rearmed :
    Reachable {} hasty rearmed ∧
      rearmed.log = (failed.log ++ [(1000, .told .cooldownOver)]) ++
        (1000, .told .linkRearmed) :: [(1000, .told .linkConnecting), (1000, .waits .parked)] ∧
      ∃ began before after,
        Cooled 1000 1000 (failed.log ++ [(1000, .told .cooldownOver)]) began before after :=
  ⟨reachable_rearmed, rfl, cooldown_from_wait reachable_rearmed _ _ rfl⟩

/-- Each fresh sequence comes the cooldown after the last loss that was refused, at the
earliest. -/
def Honoured (cooldown : Millis) (log : Log) : Prop :=
  ∀ pre t post, log = pre ++ (t, .told .linkRearmed) :: post →
    ∀ before r after, pre = before ++ (r, .told .linkGivenUp) :: after →
      (∀ x ∈ after, x.2 ≠ .told .linkGivenUp) → r + cooldown ≤ t

/-- The link is lost for good a moment before the wait is over, and the task begins anew at the
next. -/
theorem cooldown_cut_short :
    ¬ ∀ access policy s, Reachable access policy s → Honoured policy.cooldown s.log := by
  intro hall
  have hlate : 999 + 1000 ≤ 1000 := hall {} hasty rearmed reachable_rearmed
    (failed.log ++ [(1000, .told .cooldownOver)]) 1000
    [(1000, .told .linkConnecting), (1000, .waits .parked)] rfl
    tried 999 [(1000, .told .cooldownOver)] rfl (by simp)
  exact absurd hlate (by decide)

end AirStation.Uplink.Link.Timeline
