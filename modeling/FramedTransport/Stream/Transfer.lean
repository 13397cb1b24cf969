import FramedTransport.Frame.Feed
import FramedTransport.Frame.Outgoing
import FramedTransport.Stream.Link

/-!
The loops that move whole frames and whole payloads over a link.
Every transfer runs under one watch, so its deadline covers all of its socket
calls; each accepted count brings the end closer, so every loop ends.
-/

namespace FramedTransport

namespace Incoming

theorem missing_write (frame : Incoming) (received : Bytes) :
    (frame.write received).missing = frame.missing := by
  have same : (frame.write received).phase = frame.phase := by
    unfold write expose
    dsimp only
    split <;> rfl
  simp only [missing, same]

/-- The end of the stream inside a frame is a defect of the frame. -/
def endInside (held : Nat) (reason : TransportError) : TransportError :=
  if reason = .connectionClosed ∧ 0 < held then .malformedFrame "connection closed mid-frame"
  else reason

def fill (watch : Watch) (frame : Incoming) (link : Link) : (Outcome Unit × Incoming) × Link :=
  if frame.wantsBytes then
    match link.read watch frame.windowLength with
    | (.error halt, link) => ((.error halt, frame.expose), link)
    | (.ok received, link) =>
        match _accepted : (frame.write received).advance received.length with
        | (next, .error reason) =>
            ((.error (.error (endInside frame.buffered reason)), next), link)
        | (next, .ok ()) => fill watch next link
  else
    match frame.phase with
    | .dispatch _ => ((.ok (), frame), link)
    | phase =>
        ((.error (.error (.protocolViolation ("frame fill stopped while " ++ phase.name))), frame),
          link)
termination_by frame.missing
decreasing_by
  have closer := missing_advance (frame.write received) received.length (by rw [_accepted])
  rw [_accepted, missing_write] at closer
  exact closer

theorem unread_read_of {watch : Watch} {room : Nat} {link next : Link} {outcome : Outcome Bytes}
    (result : link.read watch room = (outcome, next)) :
    next.unread + Link.arrived outcome ≤ link.unread := by
  have read := Link.unread_read watch room link
  rwa [result] at read

theorem unread_fill (watch : Watch) (frame : Incoming) (link : Link) :
    (fill watch frame link).2.unread ≤ link.unread ∧
      (frame.wantsBytes = true → (fill watch frame link).1.1 = .ok () →
        (fill watch frame link).2.unread < link.unread) := by
  fun_induction fill watch frame link with
  | case1 frame link wants halt next stopped =>
      have read := unread_read_of stopped
      simp only [Link.arrived] at read
      exact ⟨by omega, by simp⟩
  | case2 frame link wants received next arrived after reason refused =>
      have read := unread_read_of arrived
      simp only [Link.arrived] at read
      exact ⟨by dsimp only; omega, by simp⟩
  | case3 frame link wants received next arrived after accepted ih =>
      have read := unread_read_of arrived
      have counted := advance_count accepted
      simp only [Link.arrived] at read
      exact ⟨by omega, fun _ _ => by omega⟩
  | case4 frame link idle header ready => simp [idle]
  | case5 frame link idle phase => simp [idle]

end Incoming

namespace Outgoing

theorem remaining_advance {frame next : Outgoing} {count : Nat}
    (accepted : frame.advance count = .ok next) :
    next.progress.remaining < frame.progress.remaining := by
  cases taken : frame.progress.advance count with
  | error reason => simp [advance, taken, bind, Except.bind] at accepted
  | ok progress =>
      have step := Progress.advance_ok taken
      have kept := progress.transferred_le
      simp [advance, taken, bind, Except.bind, pure, Except.pure] at accepted
      subst accepted
      simp only [Progress.remaining]
      omega

def push (watch : Watch) (frame : Outgoing) (link : Link) : (Outcome Unit × Outgoing) × Link :=
  if frame.isComplete then
    let (flushed, link) := link.flush watch
    ((flushed, frame), link)
  else
    match link.write watch frame.pending with
    | (.error halt, link) => ((.error halt, frame), link)
    | (.ok count, link) =>
        match _accepted : frame.advance count with
        | .error reason => ((.error (.error reason), frame), link)
        | .ok next => push watch next link
termination_by frame.progress.remaining
decreasing_by exact remaining_advance _accepted

theorem unread_push (watch : Watch) (frame : Outgoing) (link : Link) :
    (push watch frame link).2.unread = link.unread := by
  fun_induction push watch frame link with
  | case1 frame link complete flushed next ended =>
      have flush := Link.unread_flush watch link
      rwa [ended] at flush
  | case2 frame link incomplete halt next stopped =>
      have write := Link.unread_write watch frame.pending link
      rwa [stopped] at write
  | case3 frame link incomplete count next taken reason refused =>
      have write := Link.unread_write watch frame.pending link
      rwa [taken] at write
  | case4 frame link incomplete count next taken after accepted ih =>
      have write := Link.unread_write watch frame.pending link
      rw [taken] at write
      exact ih.trans write

end Outgoing

end FramedTransport
