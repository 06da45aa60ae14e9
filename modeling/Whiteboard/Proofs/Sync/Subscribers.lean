import Whiteboard.Proofs.Sync.Conduct
import Whiteboard.Proofs.Sync.Feed

/-!
# Subscribing to a client

Whatever a client is used for, its feed changes only through the operations of the feed. So what
these preserve holds of the feed of every client, and whoever subscribes to a client begins to
receive with the next event that is routed.
-/

namespace Whiteboard

open Whiteboard.Action

/-- A property that the operations of a feed preserve. -/
structure Feed.Invariant (P : Feed → Prop) : Prop where
  subscribe : ∀ {f}, P f → P f.subscribe.1
  unsubscribe : ∀ {f} id, P f → P (f.unsubscribe id)
  send : ∀ {f} e, P f → P (f.send e)
  receive : ∀ {f} id, P f → P (f.receive id).1

theorem Feed.invariant_consistent : Invariant Consistent :=
  ⟨id, fun _ => id, fun e h => h.send e, fun id h => h.receive id⟩

namespace Client

variable {L M : Type} {P : Feed → Prop} {react : Reaction Participant L (Diary L M)}

theorem request_keeps_feed (command : Command) :
    Keeps (fun c => P c.feed) ((Operation.request command).performNoted react) := by
  intro c h
  obtain ⟨link, replies, -, ended⟩ := request_after react command c
  rw [ended]
  exact h

theorem fragment_keeps_feed (f : Fragment) :
    Keeps (fun c => P c.feed) ((Operation.fragment f).performNoted react) := by
  intro c h
  obtain ⟨link, replies, -, ended⟩ := fragment_after react f c
  rw [ended]
  exact h

section Listeners

variable (called : ∀ listener notice, Keeps (fun c => P c.feed) (react listener notice))
include called

theorem publishObjects_keeps_feed : Keeps (fun c => P c.feed) (publishObjects react) :=
  publishObjects_keeps (fun _ h => h) fun listener object => called listener (.object object)

theorem publishRoster_keeps_feed : Keeps (fun c => P c.feed) (publishRoster react) :=
  publishRoster_keeps (fun _ h => h) (fun _ _ _ h => h) fun listener roster =>
    called listener (.roster roster)

theorem push_keeps_feed (edit : Edit) :
    Keeps (fun c => P c.feed) ((Operation.push edit).performNoted react) := by
  intro c h
  have send : Keeps (fun c : Observed L M => P c.feed) drain :=
    drain_keeps (fun _ _ _ _ _ h => h) (fun _ _ _ _ _ _ h => h) fun _ _ _ h => h
  rw [after, push_eq]
  exact (publishObjects_keeps_feed called).bind (fun _ => dispatch_keeps send) _ h

theorem route_keeps_feed (inv : Feed.Invariant P) (frame : Frame) :
    Keeps (fun c => P c.feed) (route react frame) := by
  intro c h
  rcases event?_cases frame with silent | ⟨message, event, hread, found⟩
  · obtain ⟨notes, replies, -, ended⟩ := route_of_silent (c := c) react silent
    rw [ended]
    exact h
  · have concludes : Keeps (fun c : Observed L M => P c.feed) (conclude message event) := by
      intro c h
      obtain ⟨outcome, notes, replies, -, ended⟩ := conclude_sends message event c
      rw [after_of_ok ended]
      exact inv.send _ h
    have announces := (publishObjects_keeps_feed called).bind fun _ =>
      (publishRoster_keeps_feed called).bind fun _ => concludes
    rw [after, route_of_message react hread found]
    exact announces _ h

theorem performNoted_keeps_feed (inv : Feed.Invariant P) (op : Operation L) :
    Keeps (fun c => P c.feed) (op.performNoted react) := by
  cases op with
  | request command => exact request_keeps_feed command
  | fragment f => exact fragment_keeps_feed f
  | push edit => exact push_keeps_feed called edit
  | route frame => exact route_performed (route_keeps_feed called inv frame)
  | run frames =>
    exact run_performed <| (routeAll_keeps (route_keeps_feed called inv) frames).bind fun _ _ h => h
  | subscribe => exact fun _ h => inv.subscribe h
  | unsubscribe id => exact fun _ h => inv.unsubscribe id h
  | receive id => exact fun _ h => inv.receive id h
  | advance milliseconds => exact advance_performed (fun _ _ h => h) milliseconds
  | _ => exact fun _ h => h

end Listeners

theorem lasting_feed (inv : Feed.Invariant P) : Lasting fun c : Observed L M => P c.feed where
  performed op called := performNoted_keeps_feed called inv op
  written _ _ _ h := h
  remembered _ h := h

/-- Nothing is due to someone who subscribes to a client, whatever it was used for before. -/
theorem owes_subscribe {ids : IdSource} {settings : Settings} {own : M} {fresh : Observed L M}
    (created : create (.create ids) settings (.blank own) = .ok fresh) (habits : Habits L M)
    (before : List (Operation L)) :
    let c := operateAllNoted habits fresh before
    (operateNoted habits c .subscribe).feed.Owes c.feed.nextId [] := by
  intro c
  have start : fresh.feed.Consistent := by
    rw [create] at created
    cases made : Feed.create settings.eventCapacity with
    | error fault =>
      rw [made] at created
      cases created
    | ok feed =>
      rw [made] at created
      obtain rfl := Except.ok.inj created
      exact Feed.consistent_of_create made
  exact Feed.owes_subscribe
    (operateAllNoted_lasts (lasting_feed Feed.invariant_consistent) habits start before)

end Client

end Whiteboard
