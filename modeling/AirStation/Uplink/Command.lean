import AirStation.Publisher.Cycle

/-! What the tasks of the uplink share, and the broker made of it. The publisher never
waits for the session: it puts commands into a queue of eight places and sets a latch
to stop. The latch is no command, so no backlog can hold it up. -/

namespace AirStation.Uplink

inductive Command where
  | start
  | publish (topic : String) (payload : Bytes)
  deriving DecidableEq

def queueDepth : Nat := 8

/-- Commands in the order they were given. -/
structure CommandQueue where
  commands : List Command
  fits : commands.length ≤ queueDepth
  deriving DecidableEq

namespace CommandQueue

def empty : CommandQueue := ⟨[], Nat.zero_le _⟩

/-- The queue with one command more, if a place is free. -/
def offer (c : Command) (q : CommandQueue) : Option CommandQueue :=
  if h : q.commands.length < queueDepth then
    some ⟨q.commands ++ [c], by simp only [List.length_append, List.length_singleton]; omega⟩
  else none

/-- The command that has waited longest, and the queue without it. -/
def take? (q : CommandQueue) : Option (Command × CommandQueue) :=
  match h : q.commands with
  | [] => none
  | c :: rest => some (c, ⟨rest, by have := q.fits; rw [h, List.length_cons] at this; omega⟩)

@[simp] theorem commands_empty : empty.commands = [] := rfl

/-- A command goes to the end of the queue, if a place is free. -/
theorem offer_eq_some_iff {c : Command} {q r : CommandQueue} :
    q.offer c = some r ↔ q.commands.length < queueDepth ∧ r.commands = q.commands ++ [c] := by
  obtain ⟨commands, fits⟩ := r
  by_cases h : q.commands.length < queueDepth <;> simp [offer, h, eq_comm]

theorem offer_eq_none_iff {c : Command} {q : CommandQueue} :
    q.offer c = none ↔ q.commands.length = queueDepth := by
  have h := q.fits
  by_cases hq : q.commands.length < queueDepth
  · simp only [offer, hq, ↓reduceDIte, reduceCtorEq, false_iff]; omega
  · simp only [offer, hq, ↓reduceDIte, true_iff]; omega

/-- What is taken stood at the front. -/
theorem take?_eq_some_iff {c : Command} {q r : CommandQueue} :
    q.take? = some (c, r) ↔ q.commands = c :: r.commands := by
  obtain ⟨commands, fits⟩ := q
  obtain ⟨rest, _⟩ := r
  cases commands <;> simp [take?]

theorem take?_eq_none_iff {q : CommandQueue} : q.take? = none ↔ q.commands = [] := by
  obtain ⟨commands, fits⟩ := q
  cases commands <;> simp [take?]

end CommandQueue

/-- The commands to the session, the request to stop it, the request to join the access
point, and whether the radio's events are listened to. A request stands until it is
taken up; a second one before that adds nothing. -/
structure Desk where
  queue : CommandQueue := .empty
  stopRequested : Bool := false
  joinRequested : Bool := false
  listening : Bool := false
  deriving DecidableEq

namespace Desk

/-- Queues a command, unless the queue is full. -/
def offer (c : Command) : Act (Hub Desk) (Except BrokerError Unit) := do
  let h ← get
  match h.desk.queue.offer c with
  | none => pure (.error .queueFull)
  | some queue =>
    set { h with desk.queue := queue }
    pure (.ok ())

/-- Takes the next command. -/
def takeCommand : Act (Hub Desk) (Option Command) := do
  let h ← get
  match h.desk.queue.take? with
  | none => pure none
  | some (c, queue) =>
    set { h with desk.queue := queue }
    pure (some c)

def clearQueue : Act (Hub Desk) Unit :=
  modify fun h => { h with desk.queue := .empty }

def requestStop : Act (Hub Desk) Unit :=
  modify fun h => { h with desk.stopRequested := true }

def forgetStop : Act (Hub Desk) Unit :=
  modify fun h => { h with desk.stopRequested := false }

/-- Takes the request to stop, if there is one. -/
def takeStop : Act (Hub Desk) (Option Unit) := do
  if (← get).desk.stopRequested then
    forgetStop
    pure (some ())
  else pure none

def requestJoin : Act (Hub Desk) Unit :=
  modify fun h => { h with desk.joinRequested := true }

/-- Takes the request to join, if there is one. -/
def takeJoin : Act (Hub Desk) (Option Unit) := do
  let h ← get
  if h.desk.joinRequested then
    set { h with desk.joinRequested := false }
    pure (some ())
  else pure none

end Desk

/-! ### The broker -/

def start : Act (Hub Desk) Unit := do
  match ← Desk.offer .start with
  | .ok () => pure ()
  | .error e => note (.startUnqueued e)

/-- A topic and a payload that fit are queued. -/
def publish (topic : String) (payload : Bytes) : Act (Hub Desk) (Except BrokerError Unit) :=
  if topicCapacity < topic.utf8ByteSize ∨ payloadCapacity < payload.length then
    pure (.error .transport)
  else Desk.offer (.publish topic payload)

/-- The broker that leaves everything to the session task. -/
def broker : Broker Desk where
  start := start
  stop := Desk.requestStop
  publish := publish

end AirStation.Uplink
