import AirStation.Proofs.Publisher.Outbox
import AirStation.Uplink.Command

/-! A publishing cycle with the command queue for its broker. What the publisher takes for
short enough the queue does too, so a letter is refused only for want of a place. As long as
nothing else happens to the queue, the letters go to its end in their order until it is full,
and the first that finds it full is the last that is tried. -/

namespace AirStation

/-! ### Bytes of a text -/

theorem length_loop (bs : ByteArray) (i : Nat) (read : Bytes) :
    (ByteArray.toList.loop bs i read).length = read.length + (bs.size - i) := by
  induction i, read using ByteArray.toList.loop.induct bs with
  | case1 i read h ih =>
    rw [ByteArray.toList.loop, if_pos h, ih, List.length_cons]
    omega
  | case2 i read h =>
    rw [ByteArray.toList.loop, if_neg h, List.length_reverse]
    omega

/-- A text has as many bytes as its size says. -/
theorem length_toUTF8 (s : String) : s.toUTF8.toList.length = s.utf8ByteSize := by
  have h := length_loop s.toUTF8 0 []
  simpa [ByteArray.toList] using h

namespace Uplink

open Publisher Activity

variable {cfg : PublisherConfig} {snap : Snapshot} {m : Metric} {sent : String × String}

/-! ### One letter -/

def command (l : Letter) : Command := .publish l.1 l.2

/-- The publisher's limits are the queue's, so what it has made a letter of goes to the
queue. -/
theorem publish_message (hm : message cfg snap m = .ok sent) :
    publish sent.1 sent.2.toUTF8.toList = Desk.offer (command (sent.1, sent.2.toUTF8.toList)) := by
  have hfits : sent.1.utf8ByteSize ≤ topicCapacity ∧ sent.2.utf8ByteSize ≤ payloadCapacity := by
    unfold message at hm
    cases hv : value? cfg.unit snap m with
    | none => simp [hv] at hm
    | some payload =>
      simp only [hv] at hm
      split at hm
      · cases hm
      split at hm
      · cases hm
      cases hm
      exact ⟨Nat.le_of_not_lt ‹_›, Nat.le_of_not_lt ‹_›⟩
  rw [publish, length_toUTF8, if_neg (by omega)]
  rfl

/-- The queue behind the broker that has its calls entered. -/
def waiting (s : Site (Posted Desk)) : List Command := s.2.desk.desk.queue.commands

section OneLetter

variable {l : Letter} (hl : publish l.1 l.2 = Desk.offer (command l)) (s : Site (Posted Desk))
  (js : Array Notice)

include hl

theorem publish_free (hfree : (waiting s).length < queueDepth) :
    ∃ h, broker.posted.publish l.1 l.2 s.2 js = ((.ok (), h), js) ∧
      waiting (s.1, h) = waiting s ++ [command l] ∧
      h.desk.postings = s.2.desk.postings ++ [⟨l, .ok ()⟩] := by
  cases hoffer : s.2.desk.desk.queue.offer (command l) with
  | none =>
    have hfull := CommandQueue.offer_eq_none_iff.1 hoffer
    exact absurd hfull (Nat.ne_of_lt hfree)
  | some queue =>
    have hqueue := (CommandQueue.offer_eq_some_iff.1 hoffer).2
    refine ⟨{ s.2 with desk := ⟨{ s.2.desk.desk with queue }, s.2.desk.postings ++ _⟩ }, ?_,
      hqueue, rfl⟩
    simp [Broker.posted, broker, hl, Desk.offer, hoffer, Posted.hubPart]

theorem publish_full (hfull : (waiting s).length = queueDepth) :
    ∃ h, broker.posted.publish l.1 l.2 s.2 js = ((.error .queueFull, h), js) ∧
      waiting (s.1, h) = waiting s ∧
      h.desk.postings = s.2.desk.postings ++ [⟨l, .error .queueFull⟩] := by
  have hoffer : s.2.desk.desk.queue.offer (command l) = none :=
    CommandQueue.offer_eq_none_iff.2 hfull
  refine ⟨{ s.2 with desk := ⟨s.2.desk.desk, s.2.desk.postings ++ _⟩ }, ?_, rfl, rfl⟩
  simp [Broker.posted, broker, hl, Desk.offer, hoffer, Posted.hubPart]

end OneLetter

/-! ### The letters of a cycle -/

/-- How letters fare that find some places free: a place each as long as there are any, and
then the one refusal. -/
def posted (free : Nat) (letters : List Letter) : List Posting :=
  (letters.take free).map (⟨·, .ok ()⟩) ++ (letters[free]?.toList).map (⟨·, .error .queueFull⟩)

/-- What a round of letters does from `s` to `t`. -/
structure Queues (letters : List Letter) (s t : Site (Posted Desk)) : Prop where
  /-- The longest part of the letters that fits is at the end of the queue. -/
  commands : waiting t =
    waiting s ++ (letters.take (queueDepth - (waiting s).length)).map command
  postings : t.2.desk.postings =
    s.2.desk.postings ++ posted (queueDepth - (waiting s).length) letters

/-- Only the desks of the two states count. -/
theorem Queues.congr {letters : List Letter} {s s' t t' : Site (Posted Desk)}
    (hwaiting : waiting s = waiting s') (hposted : s.2.desk.postings = s'.2.desk.postings)
    (ht : t.2.desk = t'.2.desk) (h : Queues letters s t) : Queues letters s' t' := by
  constructor
  · rw [← hwaiting, ← h.commands, waiting, waiting, ht]
  · rw [← hwaiting, ← hposted, ← h.postings, ht]

theorem Queues.accepted {l : Letter} {letters : List Letter} {s t u : Site (Posted Desk)}
    (hfree : (waiting s).length < queueDepth) (hwaiting : waiting t = waiting s ++ [command l])
    (hposted : t.2.desk.postings = s.2.desk.postings ++ [⟨l, .ok ()⟩])
    (h : Queues letters t u) : Queues (l :: letters) s u := by
  -- one place is taken
  have hleft : queueDepth - (waiting s).length = (queueDepth - (waiting t).length) + 1 := by
    rw [hwaiting, List.length_append, List.length_singleton]
    omega
  constructor
  · rw [h.commands, hwaiting, hleft, hwaiting]
    simp
  · rw [h.postings, hposted, hleft]
    simp [posted]

theorem Queues.refused {l : Letter} (letters : List Letter) {s t : Site (Posted Desk)}
    (hfull : (waiting s).length = queueDepth) (hwaiting : waiting t = waiting s)
    (hposted : t.2.desk.postings = s.2.desk.postings ++ [⟨l, .error .queueFull⟩]) :
    Queues (l :: letters) s t := by
  constructor
  · rw [hwaiting, hfull]
    simp
  · rw [hposted, hfull]
    simp [posted]

theorem publishAll_queues (cfg : PublisherConfig) (snap : Snapshot) (ms : List Metric)
    (s : Site (Posted Desk)) (js : Array Notice) :
    Queues (ms.filterMap fun m => (copied? snap m.source).bind (letter cfg m)) s
      (publishAll cfg broker.posted snap ms s js).1.2 := by
  induction ms generalizing s js with
  | nil => exact ⟨by simp [publishAll], by simp [publishAll, posted]⟩
  | cons m rest ih =>
    rw [List.filterMap_cons, message_eq]
    cases hm : message cfg snap m with
    | error notice =>
      rw [publishAll_without hm]
      exact ih s (js.push notice)
    | ok sent =>
      let l : Letter := (sent.1, sent.2.toUTF8.toList)
      have hl : publish l.1 l.2 = Desk.offer (command l) := publish_message hm
      by_cases hfree : (waiting s).length < queueDepth
      · obtain ⟨h, hcall, hwaiting, hposted⟩ := publish_free hl s js hfree
        rw [publishAll_accepted hm hcall]
        exact .accepted hfree hwaiting hposted (ih (s.1, h) (js.push (.published sent.1 sent.2)))
      · have hfull : (waiting s).length = queueDepth :=
          Nat.le_antisymm s.2.desk.desk.queue.fits (Nat.le_of_not_lt hfree)
        obtain ⟨h, hcall, hwaiting, hposted⟩ := publish_full hl s js hfull
        rw [publishAll_refused hm hcall]
        exact .refused _ hfull hwaiting hposted

/-! ### A cycle -/

/-- What may happen while a cycle waits, with the queue left alone. -/
def Undrained (e : Happening) (s t : Site (Posted Desk)) : Prop :=
  Happens e s t ∧ waiting t = waiting s

theorem offer_ne_transport (c : Command) (h : Hub Desk) (js : Array Notice) :
    (Desk.offer c h js).1.1 ≠ .error .transport := by
  cases hoffer : h.desk.queue.offer c <;> simp [Desk.offer, hoffer]

/-- Of the letters of a cycle those that fit are queued, and the first that does not is refused
for want of a place; no letter is ever refused for its length. -/
theorem publishing_queues (cfg : PublisherConfig) (s : Site (Posted Desk)) :
    broker.posted.Shows Posted.desk broker ∧
      (∀ snap m sent, message cfg snap m = .ok sent → ∀ h js,
        (broker.publish sent.1 sent.2.toUTF8.toList h js).1.1 ≠ .error .transport) ∧
      ∀ log t, (cycle cfg broker.posted).Recorded Undrained s log .publish t →
        Queues (outbox cfg fun q => taken q (before s q) log) s t := by
  refine ⟨⟨fun _ _ => rfl, fun _ _ => rfl, fun _ _ _ _ => rfl⟩, ?_, ?_⟩
  · intro snap m sent hm h js
    change (publish sent.1 sent.2.toUTF8.toList h js).1.1 ≠ _
    rw [publish_message hm]
    exact offer_ne_transport _ h js
  · intro log t h
    obtain ⟨seen, snap, m, told, -, htaken, hkept, hcopied⟩ :=
      recorded_publishes (fun e s t (hhap : Undrained e s t) => hhap.1)
        (fun d : Posted Desk => (d.desk.queue.commands, d.postings))
        (fun _ _ _ hhap => Prod.ext hhap.2 hhap.1.2.1) h
    obtain ⟨hwaiting, hposted⟩ : waiting m = waiting s ∧ m.2.desk.postings = s.2.desk.postings :=
      Prod.mk.inj hkept
    rw [copied_apply] at hcopied
    have ht : settled seen _ = t := congrArg (·.1.2) hcopied
    have hqueues := publishAll_queues cfg snap Metric.all
      ((watch cfg.staleAfter snap m.1 #[]).1.2, m.2) (watch cfg.staleAfter snap m.1 #[]).2
    simp only [htaken] at hqueues
    refine Queues.congr ?_ ?_ ?_ hqueues
    · exact hwaiting
    · exact hposted
    · rw [← ht, settled_desk]

/-! ### A queue with one place left -/

/-- The session is up, and seven commands wait. -/
def backlog : Site (Posted Desk) :=
  .ready .empty ⟨{ queue := ⟨List.replicate 7 .start, by decide⟩ }, []⟩

/-- The lock of the dust slot alone is granted, so there are two letters. -/
theorem recorded_backlog :
    ∃ log t, (cycle {} broker.posted).Recorded Undrained backlog log .publish t ∧
      waiting t = List.replicate 7 .start ++ [.publish "sensors/dust/pm25" [48]] ∧
      t.2.desk.postings = [⟨("sensors/dust/pm25", [48]), .ok ()⟩,
        ⟨("sensors/dust/pm100", [48]), .error .queueFull⟩] := by
  have hcycles : Cycles {} broker.posted Undrained backlog _ .publish _ :=
    .publishes (x := ⟨[], backlog, .expired⟩) (y := ⟨[], backlog, .ready ()⟩)
      (z := ⟨[], backlog, .expired⟩)
      (.waited .expired (by decide) (.nil _)) (by decide) (.nil _) (.nil _)
      (.nil _) (copied_apply _ _ _ _)
  refine ⟨_, _, recorded_of_cycles hcycles, ?_, ?_⟩
  · decide +kernel
  · decide +kernel

theorem publishing_queues_backlog :
    ∃ log t, (cycle {} broker.posted).Recorded Undrained backlog log .publish t ∧
      Queues (outbox {} fun q => taken q (before backlog q) log) backlog t ∧
      waiting t = List.replicate 7 .start ++ [.publish "sensors/dust/pm25" [48]] := by
  obtain ⟨log, t, h, hwaiting, -⟩ := recorded_backlog
  exact ⟨log, t, h, (publishing_queues {} backlog).2.2 log t h, hwaiting⟩

end Uplink

end AirStation
