import FramedTransport.Proofs.Deadlines

/-!
Sockets that answer at once.
A socket call that is ready at its first poll succeeds whatever the deadline, for the
deadline is looked at last. So a transfer all of whose calls are answered at once succeeds
even if it is given no time at all.
-/

namespace FramedTransport

namespace Link

variable {link : Link}

/-- Nobody has cancelled the caller, and a read is answered at its first poll. -/
def Offers (link : Link) (bytes : Bytes) : Prop :=
  link.time.cancelled = false ∧
    ((Script.poll link.time.now link.reads).answer = .ready (some (.data bytes)) ∨
      bytes = [] ∧ (Script.poll link.time.now link.reads).answer = .ready none)

def afterRead (room : Nat) (bytes : Bytes) (link : Link) : Link :=
  let polled := Script.poll link.time.now link.reads
  { link with
    time := if polled.cancels then link.time.cancel else link.time
    reads := if bytes.length ≤ room then polled.rest
      else { cue := .act (.data (bytes.drop room)) } :: polled.rest }

/-- Nobody has cancelled the caller, and a write takes so many bytes at its first poll. -/
def Takes (link : Link) (offered : Bytes) (count : Nat) : Prop :=
  link.time.cancelled = false ∧
    ((Script.poll link.time.now link.writes).answer = .ready none ∧ count = offered.length ∨
      ∃ limit, (Script.poll link.time.now link.writes).answer = .ready (some (.accept limit)) ∧
        count = min limit offered.length)

def afterWrite (taken : Bytes) (link : Link) : Link :=
  let polled := Script.poll link.time.now link.writes
  { link with
    time := if polled.cancels then link.time.cancel else link.time
    writes := polled.rest
    written := link.written ++ taken
    calls := link.calls ++ [.wrote taken.length] }

/-- Nobody has cancelled the caller, and a flush succeeds at its first poll. -/
def Flushes (link : Link) : Prop :=
  link.time.cancelled = false ∧
    ((Script.poll link.time.now link.flushes).answer = .ready none ∨
      (Script.poll link.time.now link.flushes).answer = .ready (some .succeed))

/-- Every write up to the last of these bytes takes some of them at once, and so does the flush
after it. -/
inductive Drains : Bytes → Link → Prop
  | flush {link : Link} (flushes : link.Flushes) : Drains [] link
  | write {pending : Bytes} {link : Link} {count : Nat} (present : pending ≠ [])
      (takes : link.Takes pending count) (positive : 0 < count)
      (later : Drains (pending.drop count) (link.afterWrite (pending.take count))) :
      Drains pending link

theorem Drains.next {pending : Bytes} (drains : link.Drains pending) (present : pending ≠ []) :
    ∃ count, 0 < count ∧ link.Takes pending count ∧
      (link.afterWrite (pending.take count)).Drains (pending.drop count) := by
  cases drains with
  | flush flushes => exact absurd rfl present
  | @write _ _ count _ takes positive later => exact ⟨count, positive, takes, later⟩

theorem Takes.le {offered : Bytes} {count : Nat} (takes : link.Takes offered count) :
    count ≤ offered.length := by
  obtain ⟨-, ⟨-, rfl⟩ | ⟨limit, -, rfl⟩⟩ := takes
  · exact Nat.le_refl _
  · exact Nat.min_le_right _ _

theorem read_offered {bytes : Bytes} (offers : link.Offers bytes) (watch : Watch) (room : Nat) :
    link.read watch room = (.ok (bytes.take room), link.afterRead room bytes) := by
  obtain ⟨running, ready | ⟨rfl, ready⟩⟩ := offers
  · obtain ⟨outcome, time, source⟩ :=
      @Race.run_at_once _ link.time { watch, source := link.reads } _ running ready
    simp only [read, outcome, time, source]
    rfl
  · obtain ⟨outcome, time, source⟩ :=
      @Race.run_at_once _ link.time { watch, source := link.reads } _ running ready
    simp only [read, outcome, time, source]
    rw [List.take_nil]
    rfl

theorem write_taken {offered : Bytes} {count : Nat} (takes : link.Takes offered count)
    (watch : Watch) :
    link.write watch offered = (.ok count, link.afterWrite (offered.take count)) := by
  obtain ⟨running, ⟨ready, rfl⟩ | ⟨limit, ready, rfl⟩⟩ := takes
  · obtain ⟨outcome, time, source⟩ :=
      @Race.run_at_once _ link.time { watch, source := link.writes } _ running ready
    simp only [write, outcome, time, source, List.take_length]
    rfl
  · obtain ⟨outcome, time, source⟩ :=
      @Race.run_at_once _ link.time { watch, source := link.writes } _ running ready
    have taken : offered.take limit = offered.take (min limit offered.length) :=
      List.take_eq_take_min
    have count : (offered.take limit).length = min limit offered.length := List.length_take
    simp only [write, outcome, time, source]
    rw [← taken, ← count]
    rfl

theorem flush_at_once (flushes : link.Flushes) (watch : Watch) :
    (link.flush watch).1 = .ok () := by
  obtain ⟨running, ready | ready⟩ := flushes
  · obtain ⟨outcome, -, -⟩ :=
      @Race.run_at_once _ link.time { watch, source := link.flushes } _ running ready
    simp only [flush, outcome]
  · obtain ⟨outcome, -, -⟩ :=
      @Race.run_at_once _ link.time { watch, source := link.flushes } _ running ready
    simp only [flush, outcome]

end Link

namespace Incoming

/-- Every read up to the end of the frame is answered at once, with at least one byte. -/
inductive Prompt : Incoming → Link → Prop
  | full {frame : Incoming} {link : Link} (idle : frame.wantsBytes = false) : Prompt frame link
  | read {frame : Incoming} {link : Link} {bytes : Bytes} (wants : frame.wantsBytes = true)
      (offers : link.Offers bytes) (present : bytes ≠ [])
      (later : ∀ next,
        (frame.write (bytes.take frame.windowLength)).advance
            (bytes.take frame.windowLength).length = (next, .ok ()) →
          Prompt next (link.afterRead frame.windowLength bytes)) :
      Prompt frame link

/-- Nothing but its own header can keep a frame from being filled at once. -/
theorem fill_prompt {frame : Incoming} {held : Bytes} {link : Link} (holds : frame.Holds held)
    (prompt : Prompt frame link) (watch : Watch) :
    (fill watch frame link).1.1 = .ok () ∨
      ∃ length, frame.maxPayload < length ∧
        (fill watch frame link).1.1 =
          .error (.error (.frameTooLarge length frame.maxPayload)) := by
  fun_induction fill watch frame link generalizing held with
  | case1 frame link wants halt next stopped =>
      cases prompt with
      | full idle => simp [wants] at idle
      | read _ offers present later =>
          rw [Link.read_offered offers] at stopped
          cases stopped
  | case2 frame link wants received next arrived after reason refused =>
      cases prompt with
      | full idle => simp [wants] at idle
      | @read _ _ bytes _ offers present later =>
          rw [Link.read_offered offers] at arrived
          cases arrived
          have room := holds.windowLength_pos wants
          have positive : 0 < (bytes.take frame.windowLength).length := by
            have some_bytes := List.length_pos_iff.2 present
            rw [List.length_take]
            omega
          have took := holds.took _ positive (List.length_take_le _ _)
          rw [refused] at took
          -- A window that got at least one byte and no more than it has room for is refused only
          -- for the length in its header.
          obtain ⟨-, header, -, excess, rfl⟩ := took
          exact .inr ⟨header.payloadLength, excess, by simp [endInside]⟩
  | case3 frame link wants received next arrived after accepted ih =>
      cases prompt with
      | full idle => simp [wants] at idle
      | @read _ _ bytes _ offers present later =>
          rw [Link.read_offered offers] at arrived
          cases arrived
          have counted := advance_count accepted
          have took := holds.took _ counted (List.length_take_le _ _)
          rw [accepted] at took
          rw [← took.2]
          exact ih took.1 (later after accepted)
  | case4 frame link idle header ready => exact .inl rfl
  | case5 frame link idle undispatched =>
      obtain ⟨whole, dispatch, -⟩ := holds.ready (by simpa using idle)
      exact absurd dispatch (undispatched _)

end Incoming

namespace Outgoing

theorem push_prompt {frame : Outgoing} (whole : frame.Whole) {link : Link}
    (drains : link.Drains frame.pending) (watch : Watch) :
    (push watch frame link).1.1 = .ok () := by
  fun_induction push watch frame link with
  | case1 frame link complete flushed next ended =>
      rw [pending_of_isComplete whole complete] at drains
      cases drains with
      | flush flushes =>
          have flush := Link.flush_at_once flushes watch
          rwa [ended] at flush
      | write present takes positive later => exact absurd rfl present
  | case2 frame link incomplete halt next stopped =>
      obtain ⟨count, -, takes, -⟩ := drains.next (pending_ne_nil whole incomplete)
      rw [Link.write_taken takes] at stopped
      cases stopped
  | case3 frame link incomplete count next taken reason refused =>
      obtain ⟨_, positive, takes, -⟩ := drains.next (pending_ne_nil whole incomplete)
      rw [Link.write_taken takes] at taken
      cases taken
      have bound := takes.le
      rcases whole.advance count with ⟨after, accepted, -⟩ | ⟨-, none | excess⟩
      · simp [refused] at accepted
      · omega
      · omega
  | case4 frame link incomplete count next taken after accepted ih =>
      obtain ⟨_, positive, takes, later⟩ := drains.next (pending_ne_nil whole incomplete)
      rw [Link.write_taken takes] at taken
      cases taken
      rcases whole.advance count with ⟨other, same, -, fits, wholeNext, -, -, split⟩ |
        ⟨⟨reason, refused⟩, -⟩
      · obtain rfl : other = after := by simpa [same] using accepted
        have rest : frame.pending.drop count = other.pending :=
          List.append_cancel_left ((List.take_append_drop count frame.pending).trans split)
        rw [rest] at later
        exact ih wholeNext later
      · simp [refused] at accepted

end Outgoing

namespace Exchange

variable {settings : Settings} {exchange : Exchange} {deadline : Option Duration}

theorem fillFrame_prompt (cancel : CancelToken) {frame : Incoming} {held : Bytes}
    (countable : Countable deadline) (tidy : exchange.Tidy settings) (holds : frame.Holds held)
    (prompt : frame.Prompt exchange.link) :
    (exchange.fillFrame cancel deadline frame).1.1 = .ok () ∨
      ∃ length, frame.maxPayload < length ∧
        (exchange.fillFrame cancel deadline frame).1.1 =
          .error (.error (.frameTooLarge length frame.maxPayload)) := by
  obtain ⟨watch, -, -, ran⟩ := (fillFrame_tidy cancel deadline frame tidy).1 countable
  have filled := Incoming.fill_prompt holds prompt watch
  rwa [show frame.fill watch exchange.link = _ from ran] at filled

theorem pushFrame_prompt (cancel : CancelToken) {frame : Outgoing}
    (countable : Countable deadline) (tidy : exchange.Tidy settings) (whole : frame.Whole)
    (drains : exchange.link.Drains frame.pending) :
    (exchange.pushFrame cancel deadline frame).1.1 = .ok () := by
  obtain ⟨watch, -, -, ran⟩ := (pushFrame_tidy cancel deadline frame tidy).1 countable
  have pushed := Outgoing.push_prompt whole drains watch
  rwa [show frame.push watch exchange.link = _ from ran] at pushed

theorem receiveSome_prompt (cancel : CancelToken) (remote : SocketAddress) {maxLength : Nat}
    {bytes : Bytes} (tidy : exchange.Tidy settings) (offers : exchange.link.Offers bytes)
    (present : bytes ≠ [] ∨ maxLength = 0) :
    ∃ delivery, (exchange.receiveSome cancel remote maxLength deadline).1 = .ok delivery := by
  refine withTicket_granted
    (fun (result : Outcome Delivery) _ => ∃ delivery, result = .ok delivery) tidy ?_
  intro inner same clean
  have brought : ¬ ((bytes.take maxLength).length = 0 ∧ 0 < maxLength) := by
    rintro ⟨nothing, room⟩
    rcases present with present | rfl
    · have some_bytes := List.length_pos_iff.2 present
      rw [List.length_take] at nothing
      omega
    · omega
  simp only [Ticket.attach, Ticket.carried, same, Link.read_offered offers, if_neg brought]
  exact ⟨_, rfl⟩

theorem sendAll_prompt (cancel : CancelToken) (remote : SocketAddress) {payload : Bytes}
    (countable : Countable deadline) (tidy : exchange.Tidy settings)
    (drains : exchange.link.Drains payload) :
    ∃ delivery, (exchange.sendAll cancel remote payload deadline).1 = .ok delivery := by
  refine withTicket_granted
    (fun (result : Outcome Delivery) _ => ∃ delivery, result = .ok delivery) tidy ?_
  intro inner same clean
  obtain ⟨whole, pending⟩ :=
    Outgoing.whole_append (clean.resources.bytes_rentBuffer payload.length) payload
  rw [← pending, ← same] at drains
  have pushed := Outgoing.push_prompt whole drains
    (Watch.starting { operation := .send, deadline, cancel := some cancel } exchange.link.time.now)
  have counted : (Watch.starting { operation := .send, deadline, cancel := some cancel }
      exchange.link.time.now).beyondHorizon = false := Countable.beyondHorizon countable
  simp only [Ticket.attach, Ticket.carried, counted, Bool.false_eq_true, if_false]
  split
  · rename_i halted
    rw [halted] at pushed
    cases pushed
  · exact ⟨_, rfl⟩

end Exchange

end FramedTransport
