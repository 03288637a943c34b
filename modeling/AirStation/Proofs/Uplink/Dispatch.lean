import AirStation.Proofs.Connectivity.Events
import AirStation.Uplink.Link

/-! What a link event does to the hub, and what the end of a cooldown does. The notice that an
event leaves tells how it was answered. -/

namespace AirStation

/-- What the handler of a link event answered, by the notice that it left. -/
def Notice.answer? : Notice → Option LinkAction
  | .linkConnecting | .linkReconnecting _ => some .connect
  | .linkGivenUp | .addressAcquired | .addressLost => some .none
  | _ => none

namespace LinkEvent

/-- The notice tells the answer. -/
theorem answer?_notice (e : LinkEvent) (c : Connectivity) :
    (e.notice c).answer? = some (if e.connects c then .connect else .none) := by
  cases e with
  | disconnected =>
    by_cases h : c.budget.failures < c.budget.max <;> simp [notice, connects, h, Notice.answer?]
  | _ => rfl

end LinkEvent

namespace Uplink

theorem dispatch_apply (e : LinkEvent) (h : Hub Desk) (js : Array Notice) :
    dispatch e h js = (((), { h with
      net := e.after h.net
      desk.joinRequested := h.desk.joinRequested || e.connects h.net }),
      js.push (e.notice h.net)) := by
  have hlink : (Connectivity.onLink e).on Hub.netPart h js =
      ((if e.connects h.net then .connect else .none, { h with net := e.after h.net }),
        js.push (e.notice h.net)) := by
    rw [Act.on_apply, Hub.netPart, e.onLink_apply]
  rw [dispatch, Act.bind_apply, hlink]
  cases e.connects h.net <;> simp [Desk.requestJoin]

namespace Link

/-- A fresh sequence: the counter starts over with the one attempt that is asked for. -/
theorem cooledDown_apply (h : Hub Desk) (js : Array Notice) :
    cooledDown h js =
      if h.net.snapshot.contains .linkFailed then
        (((), { h with
          net := { h.net with budget := h.net.budget.reset.consume }, desk.joinRequested := true }),
          ((js.push .cooldownOver).push .linkRearmed).push .linkConnecting)
      else (((), h), js) := by
  by_cases hf : h.net.snapshot.contains .linkFailed = true
  · simp [cooledDown, hf, dispatch_apply, Connectivity.rearm, Hub.netPart, LinkEvent.after,
      LinkEvent.connects, LinkEvent.notice, Connectivity.rearmBudget]
  · simp [cooledDown, hf]

end Link

end Uplink

end AirStation
