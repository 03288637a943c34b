import AirStation.Proofs.Connectivity.Events
import Mathlib.Data.List.DropRight

/-! The budget of reconnects against the whole history of the connectivity. The counter is
the number of attempts since it was last reset, as far as a byte goes; the link is given up
by the first loss that finds no attempt left, and stays given up until there is an address
again. A fresh sequence of reconnects resets the counter and nothing else. -/

namespace AirStation.Connectivity

/-! ### Histories -/

/-- What happens to the connectivity: an event of the link, with the answer it gets, a fresh
sequence of reconnects, an event of the broker session, or flags that the publisher clears. -/
inductive Happening where
  | link (e : LinkEvent) (answer : LinkAction)
  | rearmed
  | broker (e : BrokerEvent)
  | cleared (f : Flags)
  deriving DecidableEq

namespace Happening

/-- The radio is asked to connect, and that counts. -/
def isAttempt : Happening → Bool
  | link .starting _ | link .disconnected .connect => true
  | _ => false

/-- The link was lost and the radio is not asked to connect. -/
def isRefusal : Happening → Bool
  | link .disconnected .none => true
  | _ => false

def isAddress : Happening → Bool
  | link .gotAddress _ => true
  | _ => false

/-- The counter starts from zero. -/
def renews : Happening → Bool
  | link .gotAddress _ | rearmed => true
  | _ => false

/-- The link comes up or goes down. -/
def turnsLink : Happening → Bool
  | link .gotAddress _ | link .disconnected _ => true
  | _ => false

theorem turnsLink_of_isRefusal (x : Happening) (h : x.isRefusal = true) : x.turnsLink = true := by
  unfold isRefusal at h
  split at h
  · rfl
  · cases h

/-- Neither the counter nor the link has to do with it. -/
def isAside : Happening → Bool
  | link .lostAddress _ | broker _ | cleared _ => true
  | _ => false

end Happening

/-- All that has happened, the latest last. -/
abbrev History := List Happening

namespace History

/-- What has happened since the last happening of a kind. -/
def since (kind : Happening → Bool) (h : History) : History :=
  h.rtakeWhile fun x => !kind x

/-- Attempts since the counter was last reset. -/
def attempts (h : History) : Nat := (h.since Happening.renews).countP Happening.isAttempt

/-- The link was given up since there was last an address. -/
def givenUp (h : History) : Bool := (h.since Happening.isAddress).any Happening.isRefusal

/-- The last time the link came up or went down, it came up. -/
def linked (h : History) : Bool := (h.filter Happening.turnsLink).getLast?.any Happening.isAddress

variable (h : History) {x : Happening}

theorem since_concat_of_kind {kind : Happening → Bool} (hx : kind x = true) :
    since kind (h ++ [x]) = [] :=
  List.rtakeWhile_concat_neg _ _ _ (by simp [hx])

theorem since_concat {kind : Happening → Bool} (hx : kind x = false) :
    since kind (h ++ [x]) = since kind h ++ [x] :=
  List.rtakeWhile_concat_pos _ _ _ (by simp [hx])

theorem attempts_concat_of_renews (hx : x.renews = true) : attempts (h ++ [x]) = 0 := by
  rw [attempts, since_concat_of_kind h hx, List.countP_nil]

theorem attempts_concat (hx : x.renews = false) :
    attempts (h ++ [x]) = attempts h + if x.isAttempt then 1 else 0 := by
  rw [attempts, since_concat h hx, List.countP_append, List.countP_singleton, attempts]

theorem givenUp_concat_of_isAddress (hx : x.isAddress = true) : givenUp (h ++ [x]) = false := by
  rw [givenUp, since_concat_of_kind h hx, List.any_nil]

theorem givenUp_concat (hx : x.isAddress = false) :
    givenUp (h ++ [x]) = (givenUp h || x.isRefusal) := by
  rw [givenUp, since_concat h hx, List.any_append, List.any_cons, List.any_nil, Bool.or_false,
    givenUp]

theorem linked_concat :
    linked (h ++ [x]) = if x.turnsLink then x.isAddress else linked h := by
  unfold linked
  cases hx : x.turnsLink <;> simp [hx]

/-- As long as the counter is not reset, no attempt is forgotten. -/
theorem attempts_le_append {mid : History} (hmid : ∀ x ∈ mid, x.renews = false) :
    attempts h ≤ attempts (h ++ mid) := by
  induction mid generalizing h with
  | nil => rw [List.append_nil]
  | cons x mid ih =>
    have hx := attempts_concat h (hmid x List.mem_cons_self)
    have hrest := ih (h ++ [x]) fun y hy => hmid y (List.mem_cons_of_mem x hy)
    rw [List.append_cons]
    omega

end History

/-- All that has happened to a fresh connectivity, in whatever order, and what it has become. -/
inductive HasHistory (max : UInt8) : History → Connectivity → Prop where
  | fresh : HasHistory max [] (.ofMaxRetries max)
  | link {h : History} {c : Connectivity} (e : LinkEvent) (js : Array Notice) : HasHistory max h c →
      HasHistory max (h ++ [.link e (onLink e c js).1.1]) (onLink e c js).1.2
  | rearmed {h : History} {c : Connectivity} (js : Array Notice) : HasHistory max h c →
      HasHistory max (h ++ [.rearmed]) (rearm c js).1.2
  | broker {h : History} {c : Connectivity} (e : BrokerEvent) (js : Array Notice) :
      HasHistory max h c → HasHistory max (h ++ [.broker e]) (onBroker e c js).1.2
  | cleared {h : History} {c : Connectivity} {f : Flags} : f = .brokerUp ∨ f = .mustDisconnect →
      HasHistory max h c → HasHistory max (h ++ [.cleared f]) (c.lower f)

/-! ### What the connectivity keeps of its history -/

variable {max : UInt8} {h : History} {c : Connectivity}

/-- A connectivity that agrees with its history. -/
structure AgreesWith (max : UInt8) (h : History) (c : Connectivity) : Prop where
  max : c.budget.max = max
  retries : c.budget.failures.toNat = min h.attempts 255
  givenUp : c.has .linkFailed = h.givenUp
  linked : c.has .linkUp = h.linked

/-- There is an attempt left just if fewer were made than are allowed. -/
theorem AgreesWith.left_iff (hr : AgreesWith max h c) :
    c.budget.failures < c.budget.max ↔ h.attempts < max.toNat := by
  have hmax := UInt8.toNat_lt max
  rw [UInt8.lt_iff_toNat_lt, hr.max, hr.retries]
  omega

/-- The answer to a loss of the link. -/
theorem onLink_disconnected_answer (c : Connectivity) (js : Array Notice) :
    (onLink .disconnected c js).1.1 =
      if c.budget.failures < c.budget.max then .connect else .none := by
  simp [LinkEvent.onLink_apply, LinkEvent.connects]

theorem AgreesWith.aside {d : Connectivity} {x : Happening} (hr : AgreesWith max h c)
    (hx : x.isAside = true) (hbudget : d.budget = c.budget)
    (hup : d.has .linkUp = c.has .linkUp) (hfailed : d.has .linkFailed = c.has .linkFailed) :
    AgreesWith max (h ++ [x]) d := by
  have hkinds : x.renews = false ∧ x.isAttempt = false ∧ x.isRefusal = false ∧
      x.isAddress = false ∧ x.turnsLink = false := by
    revert hx
    cases x with
    | link e a => cases e <;> cases a <;> decide
    | rearmed => decide
    | broker e => exact fun _ => ⟨rfl, rfl, rfl, rfl, rfl⟩
    | cleared f => exact fun _ => ⟨rfl, rfl, rfl, rfl, rfl⟩
  obtain ⟨hrenews, hattempt, hrefusal, haddress, hturns⟩ := hkinds
  exact {
    max := hbudget ▸ hr.max
    retries := by
      rw [hbudget, History.attempts_concat h hrenews, hattempt]
      exact hr.retries
    givenUp := by
      rw [hfailed, History.givenUp_concat h haddress, hrefusal, Bool.or_false, hr.givenUp]
    linked := by
      rw [hup, History.linked_concat, hturns]
      exact hr.linked }

/-- One attempt more is counted. -/
theorem AgreesWith.consumed (hr : AgreesWith max h c) :
    c.budget.consume.failures.toNat = min (h.attempts + 1) 255 := by
  have hretries := hr.retries
  rw [RetryBudget.consume, RetryBudget.toNat_succ]
  omega

theorem AgreesWith.starting (hr : AgreesWith max h c) :
    AgreesWith max (h ++ [.link .starting .connect]) (LinkEvent.starting.after c) where
  max := hr.max
  retries := by
    rw [History.attempts_concat h (by decide)]
    exact hr.consumed
  givenUp := by
    rw [History.givenUp_concat h (by decide)]
    exact hr.givenUp.trans (Bool.or_false _).symm
  linked := by
    rw [History.linked_concat]
    exact hr.linked

theorem AgreesWith.gotAddress (hr : AgreesWith max h c) (a : LinkAction) :
    AgreesWith max (h ++ [.link .gotAddress a]) (LinkEvent.gotAddress.after c) where
  max := hr.max
  retries := by
    rw [History.attempts_concat_of_renews h (x := .link .gotAddress a) rfl]
    rfl
  givenUp := by
    rw [History.givenUp_concat_of_isAddress h (x := .link .gotAddress a) rfl, LinkEvent.after,
      has_raise_of_ne Flags.single_linkUp Flags.single_linkFailed (by decide)]
    exact has_lower_self Flags.single_linkFailed _
  linked := by
    rw [History.linked_concat]
    exact has_raise_self Flags.single_linkUp _

/-- The connectivity once the link is lost and nothing has been decided yet. -/
abbrev lost (c : Connectivity) : Connectivity := (c.lower .linkUp).raise .mustDisconnect

theorem has_linkUp_lost (c : Connectivity) : (lost c).has .linkUp = false := by
  rw [has_raise_of_ne Flags.single_mustDisconnect Flags.single_linkUp (by decide)]
  exact has_lower_self Flags.single_linkUp c

theorem has_linkFailed_lost (c : Connectivity) : (lost c).has .linkFailed = c.has .linkFailed := by
  simp (disch := decide) only [has_raise_of_ne, has_lower_of_ne]

/-- An attempt is left, and it is made. -/
theorem AgreesWith.reconnecting (hr : AgreesWith max h c)
    (hleft : c.budget.failures < c.budget.max) :
    AgreesWith max (h ++ [.link .disconnected .connect]) (LinkEvent.disconnected.after c) := by
  have hafter : LinkEvent.disconnected.after c = { lost c with budget := c.budget.consume } :=
    if_pos hleft
  rw [hafter]
  exact {
    max := hr.max
    retries := by
      rw [History.attempts_concat h (by decide)]
      exact hr.consumed
    givenUp := by
      rw [History.givenUp_concat h (by decide)]
      exact (has_linkFailed_lost c).trans (hr.givenUp.trans (Bool.or_false _).symm)
    linked := by
      rw [History.linked_concat]
      exact has_linkUp_lost c }

/-- No attempt is left, and the link is given up. -/
theorem AgreesWith.givingUp (hr : AgreesWith max h c)
    (hleft : ¬ c.budget.failures < c.budget.max) :
    AgreesWith max (h ++ [.link .disconnected .none]) (LinkEvent.disconnected.after c) := by
  have hafter : LinkEvent.disconnected.after c = (lost c).raise .linkFailed := if_neg hleft
  rw [hafter]
  exact {
    max := hr.max
    retries := by
      rw [History.attempts_concat h (by decide)]
      exact hr.retries
    givenUp := by
      rw [History.givenUp_concat h (by decide)]
      exact (has_raise_self Flags.single_linkFailed _).trans (Bool.or_true _).symm
    linked := by
      rw [History.linked_concat,
        has_raise_of_ne Flags.single_linkFailed Flags.single_linkUp (by decide)]
      exact has_linkUp_lost c }

theorem AgreesWith.rearmed (hr : AgreesWith max h c) :
    AgreesWith max (h ++ [.rearmed]) c.rearmBudget where
  max := hr.max
  retries := by
    rw [History.attempts_concat_of_renews h (by decide)]
    rfl
  givenUp := by
    rw [History.givenUp_concat h (by decide)]
    exact hr.givenUp.trans (Bool.or_false _).symm
  linked := by
    rw [History.linked_concat]
    exact hr.linked

theorem HasHistory.agreesWith (hh : HasHistory max h c) : AgreesWith max h c := by
  induction hh with
  | fresh =>
    exact {
      max := rfl
      retries := rfl
      givenUp := Flags.contains_none Flags.single_linkFailed
      linked := Flags.contains_none Flags.single_linkUp }
  | @link h c e js _ ih =>
    rw [e.onLink_state]
    cases e with
    | starting => exact ih.starting
    | gotAddress => exact ih.gotAddress _
    | lostAddress => exact ih.aside rfl rfl rfl rfl
    | disconnected =>
      rw [onLink_disconnected_answer]
      split
      next hleft => exact ih.reconnecting hleft
      next hleft => exact ih.givingUp hleft
  | rearmed js _ ih => exact ih.rearmed
  | @broker h c e js _ ih =>
    rw [e.onBroker_state]
    have hup := BrokerEvent.has_after_of_ne Flags.single_linkUp (by decide) (by decide) e c
    have hfailed := BrokerEvent.has_after_of_ne Flags.single_linkFailed (by decide) (by decide) e c
    have hbudget : (e.after c).budget = c.budget := by cases e <;> rfl
    exact ih.aside rfl hbudget hup hfailed
  | @cleared h c f hf _ ih =>
    have hsingle : f.Single := by
      rcases hf with rfl | rfl
      · exact Flags.single_brokerUp
      · exact Flags.single_mustDisconnect
    have hne : f ≠ .linkUp ∧ f ≠ .linkFailed := by rcases hf with rfl | rfl <;> decide
    exact ih.aside rfl rfl (has_lower_of_ne hsingle Flags.single_linkUp hne.1 c)
      (has_lower_of_ne hsingle Flags.single_linkFailed hne.2 c)

/-! ### What the history determines -/

/-- Every loss of the link was answered by the attempts made until then. -/
def AnsweredByAttempts (max : UInt8) (h : History) : Prop :=
  ∀ (pre : History) answer post, h = pre ++ .link .disconnected answer :: post →
    (answer = .connect ↔ pre.attempts < max.toNat)

theorem AnsweredByAttempts.concat {x : Happening} (ha : AnsweredByAttempts max h)
    (hx : ∀ answer, x = .link .disconnected answer →
      (answer = .connect ↔ h.attempts < max.toNat)) : AnsweredByAttempts max (h ++ [x]) := by
  intro pre answer post heq
  rcases post.eq_nil_or_concat' with rfl | ⟨post, y, rfl⟩
  · obtain ⟨rfl, hlast⟩ := List.append_inj' heq rfl
    exact hx answer (List.cons.inj hlast).1
  · have hinit : h ++ [x] = (pre ++ .link .disconnected answer :: post) ++ [y] := by
      rw [heq, List.append_assoc, List.cons_append]
    exact ha pre answer post (List.append_inj' hinit rfl).1

theorem HasHistory.answeredByAttempts (hh : HasHistory max h c) : AnsweredByAttempts max h := by
  induction hh with
  | fresh =>
    intro pre answer post heq
    simp at heq
  | @link h c e js hh ih =>
    refine ih.concat ?_
    intro answer heq
    obtain ⟨rfl, rfl⟩ := Happening.link.inj heq
    rw [onLink_disconnected_answer, ← hh.agreesWith.left_iff]
    split
    next hleft => simp [hleft]
    next hleft => simp [hleft]
  | rearmed js _ ih => exact ih.concat (by simp)
  | broker e js _ ih => exact ih.concat (by simp)
  | cleared hf _ ih => exact ih.concat (by simp)

/-- Once the link was given up, every loss is refused until the counter is reset. -/
theorem AnsweredByAttempts.refuses (ha : AnsweredByAttempts max h) (pre mid : History)
    (heq : h = pre ++ .link .disconnected .none :: mid) (hmid : ∀ x ∈ mid, x.renews = false) :
    .link .disconnected .connect ∉ mid := by
  intro hin
  obtain ⟨mid, rest, rfl⟩ := List.append_of_mem hin
  have hspent : max.toNat ≤ pre.attempts := by
    have hanswer := ha pre .none _ heq
    simpa using hanswer
  have hkept : pre.attempts ≤
      (pre ++ .link .disconnected .none :: mid : History).attempts := by
    refine History.attempts_le_append pre fun x hx => ?_
    rcases List.mem_cons.1 hx with rfl | hx
    · rfl
    · exact hmid x (List.mem_append_left _ hx)
  have hlater := ha (pre ++ .link .disconnected .none :: mid) .connect rest
    (by rw [heq, List.append_assoc, List.cons_append])
  have := hlater.1 rfl
  omega

/-- The history of a connectivity determines how far its counter is, which losses of the link it
has refused, which flags are up, and how it meets the next loss. -/
structure DeterminedByHistory (max : UInt8) (h : History) (c : Connectivity) : Prop where
  retries : c.retries.toNat = min h.attempts 255
  answers : AnsweredByAttempts max h
  refuses (pre mid : History) : h = pre ++ .link .disconnected .none :: mid →
    (∀ x ∈ mid, x.renews = false) → .link .disconnected .connect ∉ mid
  failed_iff : c.snapshot.contains .linkFailed = true ↔
    .link .disconnected .none ∈ h.since Happening.isAddress
  up_iff : c.snapshot.contains .linkUp = true ↔
    ∃ answer, (h.filter Happening.turnsLink).getLast? = some (.link .gotAddress answer)
  apart : ¬ (c.snapshot.contains .linkUp = true ∧ c.snapshot.contains .linkFailed = true)
  answer (js : Array Notice) : (onLink .disconnected c js).1.1 =
    if h.attempts < max.toNat then .connect else .none
  fails (js : Array Notice) : max.toNat ≤ h.attempts →
    (onLink .disconnected c js).1.2.snapshot.contains .linkFailed = true
  asks (js : Array Notice) :
    (onLink .disconnected c js).1.2.snapshot.contains .mustDisconnect = true

namespace History

theorem givenUp_iff : h.givenUp = true ↔
    .link .disconnected .none ∈ h.since Happening.isAddress := by
  rw [givenUp, List.any_eq_true]
  constructor
  · rintro ⟨x, hin, hx⟩
    obtain rfl : x = .link .disconnected .none := by
      unfold Happening.isRefusal at hx
      split at hx
      · rfl
      · cases hx
    exact hin
  · intro hin
    exact ⟨_, hin, rfl⟩

theorem linked_iff : h.linked = true ↔
    ∃ answer, (h.filter Happening.turnsLink).getLast? = some (.link .gotAddress answer) := by
  rw [linked, Option.any_eq_true]
  constructor
  · rintro ⟨x, hlast, hx⟩
    unfold Happening.isAddress at hx
    split at hx
    · exact ⟨_, hlast⟩
    · cases hx
  · rintro ⟨answer, hlast⟩
    exact ⟨_, hlast, rfl⟩

/-- Where the link was given up, it has not come up since. -/
theorem linked_of_givenUp (h : History) (hgiven : h.givenUp = true) : h.linked = false := by
  induction h using List.reverseRecOn with
  | nil => rfl
  | append_singleton h x ih =>
    rw [linked_concat]
    cases haddress : x.isAddress with
    | true =>
      rw [givenUp_concat_of_isAddress h haddress] at hgiven
      cases hgiven
    | false =>
      rw [givenUp_concat h haddress, Bool.or_eq_true] at hgiven
      split
      next hturns => rfl
      next hturns =>
        rcases hgiven with hgiven | hrefusal
        · exact ih hgiven
        · exact absurd (x.turnsLink_of_isRefusal hrefusal) hturns

end History

/-- A connectivity that was fresh once is determined by all that has happened to it since. -/
theorem determinedByHistory (hh : HasHistory max h c) : DeterminedByHistory max h c := by
  have hr := hh.agreesWith
  have hup := contains_snapshot Flags.single_linkUp rfl c
  have hfailed := contains_snapshot Flags.single_linkFailed rfl c
  have hafter (js : Array Notice) := LinkEvent.disconnected.onLink_state c js
  exact {
    retries := hr.retries
    answers := hh.answeredByAttempts
    refuses := fun pre mid heq hmid => hh.answeredByAttempts.refuses pre mid heq hmid
    failed_iff := by rw [hfailed, hr.givenUp, History.givenUp_iff]
    up_iff := by rw [hup, hr.linked, History.linked_iff]
    apart := by
      rw [hup, hfailed, hr.linked, hr.givenUp]
      rintro ⟨hlinked, hgiven⟩
      rw [h.linked_of_givenUp hgiven] at hlinked
      cases hlinked
    answer := fun js => by simp only [onLink_disconnected_answer, hr.left_iff]
    fails := fun js hspent => by
      have hleft := mt hr.left_iff.1 (Nat.not_lt.2 hspent)
      rw [contains_snapshot Flags.single_linkFailed rfl, hafter, LinkEvent.after, if_neg hleft]
      exact has_raise_self Flags.single_linkFailed _
    asks := fun js => by
      rw [contains_snapshot Flags.single_mustDisconnect rfl, hafter,
        LinkEvent.has_mustDisconnect_after, beq_self_eq_true, Bool.or_true] }

/-- One attempt is allowed. The start makes it, so the loss that follows is refused; after a
fresh sequence the next loss is not, and the link still counts as given up. -/
theorem determinedByHistory_rearmed :
    HasHistory 1 [.link .starting .connect, .link .disconnected .none, .broker .error, .rearmed,
        .link .disconnected .connect, .cleared .mustDisconnect] ⟨.linkFailed, true, ⟨1, 1⟩⟩ ∧
      DeterminedByHistory 1 [.link .starting .connect, .link .disconnected .none, .broker .error,
        .rearmed, .link .disconnected .connect, .cleared .mustDisconnect]
        ⟨.linkFailed, true, ⟨1, 1⟩⟩ := by
  have hfresh : HasHistory 1 [] (.ofMaxRetries 1) := .fresh
  have hrefused : HasHistory 1 [.link .starting .connect, .link .disconnected .none]
      ⟨⟨10⟩, true, ⟨1, 1⟩⟩ :=
    (hfresh.link .starting #[]).link .disconnected #[]
  have hrearmed : HasHistory 1 [.link .starting .connect, .link .disconnected .none, .broker .error,
      .rearmed] ⟨⟨10⟩, true, ⟨0, 1⟩⟩ :=
    (hrefused.broker .error #[]).rearmed #[]
  have hlast := (hrearmed.link .disconnected #[]).cleared (.inr rfl)
  exact ⟨hlast, determinedByHistory hlast⟩

end AirStation.Connectivity
