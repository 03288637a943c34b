import AirStation.Proofs.Connectivity.Events

/-! The link's side and the session's side of the connectivity, each with events of its own.
The two share one bitset, one latch and the flag that asks for a disconnection, and yet
neither gets in the other's way: what an event of the session does commutes with all that
events of the link are made of. So the order in which the two sides interleave decides
nothing, neither the state that comes of them nor any answer of the link. -/

namespace AirStation

/-- The sequences `xs` and `ys` in one, each in its own order. -/
inductive Merges {α β : Type} : List α → List β → List (α ⊕ β) → Prop where
  | nil : Merges [] [] []
  | left {xs : List α} {ys : List β} {zs : List (α ⊕ β)} (x : α) :
      Merges xs ys zs → Merges (x :: xs) ys (.inl x :: zs)
  | right {xs : List α} {ys : List β} {zs : List (α ⊕ β)} (y : β) :
      Merges xs ys zs → Merges xs (y :: ys) (.inr y :: zs)

/-- What comes from the link's side: an event, or the call for a fresh sequence of
reconnects. -/
inductive LinkMove where
  | event (e : LinkEvent)
  | rearm
  deriving DecidableEq

namespace Connectivity

/-- Handles what comes from either side, and gives the answers of the link. -/
def handle : LinkMove ⊕ BrokerEvent → Act Connectivity (List LinkAction)
  | .inl (.event e) => do pure [← onLink e]
  | .inl .rearm => do
    rearm
    pure []
  | .inr e => do
    onBroker e
    pure []

def handleAll : List (LinkMove ⊕ BrokerEvent) → Act Connectivity (List LinkAction)
  | [] => pure []
  | x :: xs => do
    let answers ← handle x
    let rest ← handleAll xs
    pure (answers ++ rest)

end Connectivity

/-! ### The link's side -/

/-- The answer to an event of the link depends on the budget alone. -/
theorem LinkEvent.connects_congr (e : LinkEvent) {c d : Connectivity} (h : d.budget = c.budget) :
    e.connects d = e.connects c := by
  cases e <;> simp [connects, h]

namespace LinkMove

def after : LinkMove → Connectivity → Connectivity
  | .event e, c => e.after c
  | .rearm, c => c.rearmBudget

def answers : LinkMove → Connectivity → List LinkAction
  | .event e, c => [if e.connects c then .connect else .none]
  | .rearm, _ => []

theorem handle_apply (x : LinkMove) (c : Connectivity) (js : Array Notice) :
    (Connectivity.handle (.inl x) c js).1 = (x.answers c, x.after c) := by
  cases x with
  | rearm => rfl
  | event e =>
    rw [Connectivity.handle, Act.bind_apply, e.onLink_apply]
    rfl

theorem answers_congr (x : LinkMove) {c d : Connectivity} (h : d.budget = c.budget) :
    x.answers d = x.answers c := by
  cases x with
  | rearm => rfl
  | event e => rw [answers, answers, e.connects_congr h]

/-- The link says nothing about the session. -/
theorem has_brokerUp_after (x : LinkMove) (c : Connectivity) :
    (x.after c).has .brokerUp = c.has .brokerUp := by
  cases x with
  | rearm => rfl
  | event e => exact e.has_brokerUp_after c

theorem has_mustDisconnect_after (x : LinkMove) (c : Connectivity)
    (h : c.has .mustDisconnect = true) : (x.after c).has .mustDisconnect = true := by
  cases x with
  | rearm => exact h
  | event e => rw [after, e.has_mustDisconnect_after, h, Bool.true_or]

end LinkMove

/-! ### Changes that are no business of the link -/

/-- A change that leaves the budget alone and commutes with what events of the link do to the
flags. -/
structure Aloof (t : Connectivity → Connectivity) : Prop where
  budget (c : Connectivity) (b : RetryBudget) : t { c with budget := b } = { t c with budget := b }
  raises (c : Connectivity) {f : Flags} : f = .linkUp ∨ f = .linkFailed ∨ f = .mustDisconnect →
    t (c.raise f) = (t c).raise f
  lowers (c : Connectivity) {f : Flags} : f = .linkUp ∨ f = .linkFailed →
    t (c.lower f) = (t c).lower f

namespace Aloof

variable {t : Connectivity → Connectivity} (h : Aloof t)

include h

theorem budget_eq (c : Connectivity) : (t c).budget = c.budget := by
  have hkept := congrArg Connectivity.budget (h.budget c c.budget)
  exact hkept

theorem after_event (e : LinkEvent) (c : Connectivity) : t (e.after c) = e.after (t c) := by
  cases e with
  | lostAddress => rfl
  | starting =>
    simp only [LinkEvent.after]
    rw [h.budget, h.budget_eq]
  | gotAddress =>
    simp only [LinkEvent.after, Connectivity.rearmBudget]
    rw [h.raises _ (.inl rfl), h.lowers _ (.inr rfl), h.budget, h.budget_eq]
  | disconnected =>
    have hlost : t ((c.lower .linkUp).raise .mustDisconnect) =
        ((t c).lower .linkUp).raise .mustDisconnect := by
      rw [h.raises _ (.inr (.inr rfl)), h.lowers _ (.inl rfl)]
    simp only [LinkEvent.after, h.budget_eq]
    split
    · rw [h.budget, hlost]
    · rw [h.raises _ (.inr (.inl rfl)), hlost]

theorem after_move (x : LinkMove) (c : Connectivity) : t (x.after c) = x.after (t c) := by
  cases x with
  | event e => exact h.after_event e c
  | rearm =>
    simp only [LinkMove.after, Connectivity.rearmBudget]
    rw [h.budget, h.budget_eq]

end Aloof

namespace BrokerEvent

/-- A broker event is such a change. The one flag that both sides raise may be raised in
either order, since a flag that is up already leaves the latch as it is. -/
theorem aloof (e : BrokerEvent) : Aloof e.after := by
  cases e with
  | published id => exact ⟨fun _ _ => rfl, fun _ _ _ => rfl, fun _ _ _ => rfl⟩
  | connected =>
    refine ⟨fun _ _ => rfl, fun c f _ => c.raise_right_comm f .brokerUp, fun c f hf => ?_⟩
    have hapart : Flags.Apart .brokerUp f := by rcases hf with rfl | rfl <;> decide
    exact (Connectivity.raise_lower_of_apart hapart c).symm
  | error =>
    refine ⟨fun _ _ => rfl, fun c f _ => c.raise_right_comm f .mustDisconnect, fun c f hf => ?_⟩
    have hapart : Flags.Apart .mustDisconnect f := by rcases hf with rfl | rfl <;> decide
    exact (Connectivity.raise_lower_of_apart hapart c).symm
  | disconnected =>
    refine ⟨fun _ _ => rfl, fun c f hf => ?_, fun c f _ => c.lower_right_comm f .brokerUp⟩
    have hapart : Flags.Apart f .brokerUp := by rcases hf with rfl | rfl | rfl <;> decide
    exact Connectivity.raise_lower_of_apart hapart c

theorem handle_apply (e : BrokerEvent) (c : Connectivity) (js : Array Notice) :
    (Connectivity.handle (.inr e) c js).1 = ([], e.after c) :=
  Prod.ext rfl (e.onBroker_state c js)

theorem has_mustDisconnect_after (e : BrokerEvent) (c : Connectivity)
    (h : c.has .mustDisconnect = true) : (e.after c).has .mustDisconnect = true := by
  rw [← h]
  exact ((NetEvent.broker e).has_mustDisconnect_after c).trans (by rw [h, Bool.true_or])

end BrokerEvent

/-! ### Runs -/

namespace Connectivity

/-- What the moves of the link come to, one after the other, and their answers. -/
def afterLink (xs : List LinkMove) (c : Connectivity) : Connectivity :=
  xs.foldl (fun c x => x.after c) c

def linkAnswers : List LinkMove → Connectivity → List LinkAction
  | [], _ => []
  | x :: xs, c => x.answers c ++ linkAnswers xs (x.after c)

def afterBroker (ys : List BrokerEvent) (c : Connectivity) : Connectivity :=
  ys.foldl (fun c e => e.after c) c

theorem afterLink_after (e : BrokerEvent) (xs : List LinkMove) (c : Connectivity) :
    afterLink xs (e.after c) = e.after (afterLink xs c) := by
  induction xs generalizing c with
  | nil => rfl
  | cons x xs ih =>
    change afterLink xs (x.after (e.after c)) = e.after (afterLink xs (x.after c))
    rw [← e.aloof.after_move x c, ih]

/-- Nothing that the session reports makes a difference to the answers of the link. -/
theorem linkAnswers_after (e : BrokerEvent) (xs : List LinkMove) (c : Connectivity) :
    linkAnswers xs (e.after c) = linkAnswers xs c := by
  induction xs generalizing c with
  | nil => rfl
  | cons x xs ih =>
    rw [linkAnswers, linkAnswers, ← e.aloof.after_move x c, ih,
      x.answers_congr (e.aloof.budget_eq c)]

variable {xs : List LinkMove} {ys : List BrokerEvent} {zs : List (LinkMove ⊕ BrokerEvent)}

theorem handleAll_cons (z : LinkMove ⊕ BrokerEvent) (zs : List (LinkMove ⊕ BrokerEvent))
    (c : Connectivity) (js : Array Notice) :
    ∃ js', (handleAll (z :: zs) c js).1 =
      ((handle z c js).1.1 ++ (handleAll zs (handle z c js).1.2 js').1.1,
        (handleAll zs (handle z c js).1.2 js').1.2) :=
  ⟨(handle z c js).2, rfl⟩

/-- Every order comes to the same as all moves of the link before all events of the session. -/
theorem handleAll_merges (h : Merges xs ys zs) (c : Connectivity) (js : Array Notice) :
    (handleAll zs c js).1 = (linkAnswers xs c, afterBroker ys (afterLink xs c)) := by
  induction h generalizing c js with
  | nil => rfl
  | left x _ ih =>
    obtain ⟨js', hcons⟩ := handleAll_cons (.inl x) _ c js
    rw [hcons, x.handle_apply, ih]
    rfl
  | @right xs ys zs e _ ih =>
    obtain ⟨js', hcons⟩ := handleAll_cons (.inr e) zs c js
    rw [hcons, e.handle_apply, ih, linkAnswers_after, afterLink_after]
    rfl

theorem merges_left (xs : List LinkMove) : Merges xs ([] : List BrokerEvent) (xs.map .inl) := by
  induction xs with
  | nil => exact .nil
  | cons x xs ih => exact .left x ih

/-- From this state on, neither side gets in the other's way. -/
structure Independent (c : Connectivity) : Prop where
  /-- All orders lead to the same flags, latch, budget and answers. -/
  agree {xs : List LinkMove} {ys : List BrokerEvent} {zs zs' : List (LinkMove ⊕ BrokerEvent)} :
    Merges xs ys zs → Merges xs ys zs' → ∀ js js',
      (handleAll zs c js).1 = (handleAll zs' c js').1
  /-- The link is answered as if there were no session. -/
  answers {xs : List LinkMove} {ys : List BrokerEvent} {zs : List (LinkMove ⊕ BrokerEvent)} :
    Merges xs ys zs → ∀ js js',
      (handleAll zs c js).1.1 = (handleAll (xs.map .inl) c js').1.1
  session (x : LinkMove) (js : Array Notice) :
    (handle (.inl x) c js).1.2.snapshot.contains .brokerUp = c.snapshot.contains .brokerUp
  link (e : BrokerEvent) (js : Array Notice) {g : Flags} : g = .linkUp ∨ g = .linkFailed →
    (handle (.inr e) c js).1.2.snapshot.contains g = c.snapshot.contains g
  budget (e : BrokerEvent) (js : Array Notice) : (handle (.inr e) c js).1.2.budget = c.budget
  request (z : LinkMove ⊕ BrokerEvent) (js : Array Notice) :
    c.snapshot.contains .mustDisconnect = true →
      (handle z c js).1.2.snapshot.contains .mustDisconnect = true

/-- The two sides of the connectivity are independent, whatever its state. -/
theorem merges_agree (c : Connectivity) : Independent c where
  agree h h' js js' := by rw [handleAll_merges h, handleAll_merges h']
  answers h js js' := by rw [handleAll_merges h, handleAll_merges (merges_left _)]
  session x js := by
    rw [x.handle_apply, contains_snapshot Flags.single_brokerUp rfl,
      contains_snapshot Flags.single_brokerUp rfl]
    exact x.has_brokerUp_after c
  link e js g hg := by
    rw [e.handle_apply]
    rcases hg with rfl | rfl
    · rw [contains_snapshot Flags.single_linkUp rfl, contains_snapshot Flags.single_linkUp rfl]
      exact e.has_after_of_ne Flags.single_linkUp (by decide) (by decide) c
    · rw [contains_snapshot Flags.single_linkFailed rfl,
        contains_snapshot Flags.single_linkFailed rfl]
      exact e.has_after_of_ne Flags.single_linkFailed (by decide) (by decide) c
  budget e js := by
    rw [e.handle_apply]
    exact e.aloof.budget_eq c
  request z js h := by
    rw [contains_snapshot Flags.single_mustDisconnect rfl] at h ⊢
    cases z with
    | inl x =>
      rw [x.handle_apply]
      exact x.has_mustDisconnect_after c h
    | inr e =>
      rw [e.handle_apply]
      exact e.has_mustDisconnect_after c h

/-- The budget has run out, and both sides ask for a disconnection: the link is given up in
either order, with the latch set once. -/
theorem merges_agree_givenUp :
    Merges [LinkMove.event .disconnected] [BrokerEvent.error]
        [.inl (.event .disconnected), .inr .error] ∧
      Merges [LinkMove.event .disconnected] [BrokerEvent.error]
        [.inr .error, .inl (.event .disconnected)] ∧
      (handleAll [.inl (.event .disconnected), .inr .error] (ofMaxRetries 0) #[]).1 =
        ([.none], ⟨⟨10⟩, true, ⟨0, 0⟩⟩) ∧
      (handleAll [.inr .error, .inl (.event .disconnected)] (ofMaxRetries 0) #[]).1 =
        ([.none], ⟨⟨10⟩, true, ⟨0, 0⟩⟩) :=
  have hlink : Merges [LinkMove.event .disconnected] [BrokerEvent.error]
      [.inl (.event .disconnected), .inr .error] := .left _ (.right _ .nil)
  have hsession : Merges [LinkMove.event .disconnected] [BrokerEvent.error]
      [.inr .error, .inl (.event .disconnected)] := .right _ (.left _ .nil)
  ⟨hlink, hsession, rfl, (merges_agree (ofMaxRetries 0)).agree hsession hlink #[] #[]⟩

end Connectivity

end AirStation
