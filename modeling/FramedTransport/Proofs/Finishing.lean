import FramedTransport.Proofs.Emission
import FramedTransport.Proofs.Growth
import FramedTransport.Proofs.Tracing

/-!
The transfers come to their end.
A socket that answers every call cannot keep a transfer going: each call but the last moves
at least one byte, and there are only so many bytes. A reader that awaits its header may
still have the longest payload before it, so what counts is not what it awaits now but what
it can have to read at most.
-/

namespace FramedTransport

open SocketCall

/-- An operation has ended with an error that its caller is told. -/
def Failed {β : Type} (outcome : Outcome β) : Prop := ∃ reason, outcome = .error (.error reason)

theorem Halt.Outside.failed {β : Type} {halt : Halt} (outside : halt.Outside)
    (answered : halt ≠ .stalled) : Failed (.error halt : Outcome β) := by
  cases halt with
  | error reason => exact ⟨reason, rfl⟩
  | abort reason => exact outside.elim
  | stalled => exact absurd rfl answered

namespace SocketCall

/-- A read that has brought nothing, or a write of which nothing has been taken: at the end of the
stream, of a peer who takes no more, or because it has failed. -/
def Idle (call : SocketCall) : Prop :=
  match call.request with
  | .read _ => call.received = []
  | .write _ => call.accepted = []
  | .flush | .shutdown => False

/-- A call that moves nothing is the last one, and the operation fails. -/
def StopsIdle {β : Type} (calls : List SocketCall) (outcome : Outcome β) : Prop :=
  ∀ before call behind, calls = before ++ call :: behind → call.Idle → behind = [] ∧ Failed outcome

variable {β : Type} {call : SocketCall} {calls : List SocketCall} {outcome : Outcome β}

theorem StopsIdle.none (outcome : Outcome β) : StopsIdle [] outcome := by
  intro before call behind made
  simp at made

theorem StopsIdle.last (call : SocketCall) (failed : Failed outcome) :
    StopsIdle [call] outcome := by
  intro before other behind made _
  cases before with
  | nil => exact ⟨(List.cons.inj made).2.symm, failed⟩
  | cons first before => simp at made

theorem StopsIdle.after (stops : StopsIdle calls outcome) (busy : ¬ call.Idle) :
    StopsIdle (call :: calls) outcome := by
  intro before other behind made idle
  cases before with
  | nil =>
      obtain ⟨rfl, -⟩ := List.cons.inj made
      exact absurd idle busy
  | cons first before => exact stops before other behind (List.cons.inj made).2 idle

theorem StopsIdle.mono (stops : StopsIdle calls outcome) {γ : Type} {told : Outcome γ}
    (fails : Failed outcome → Failed told) : StopsIdle calls told := by
  intro before call behind made idle
  obtain ⟨last, failed⟩ := stops before call behind made idle
  exact ⟨last, fails failed⟩

end SocketCall

namespace Link

variable {link : Link}

/-- Every call is answered at some time, by whatever answer. -/
structure Answers (link : Link) : Prop where
  reads : link.reads.Moves
  writes : link.writes.Moves
  flushes : link.flushes.Moves

theorem flushes_write (watch : Watch) (offered : Bytes) (link : Link) :
    (link.write watch offered).2.flushes = link.flushes := by
  unfold write
  dsimp only
  split <;> rfl

theorem Answers.write (answers : link.Answers) (watch : Watch) (offered : Bytes) :
    (link.write watch offered).2.Answers where
  reads := by
    rw [reads_write]
    exact answers.reads
  writes := answers.writes.of_suffix (writes_write watch offered link)
  flushes := by
    rw [flushes_write]
    exact answers.flushes

theorem Raced.answers {α β : Type} {watch : Watch} {source : Script α} {next : Link}
    {outcome : Outcome β} (raced : Raced watch source link outcome next) (moves : source.Moves) :
    outcome ≠ .error .stalled :=
  fun stalled => ((raced.halts stalled).2 rfl).2 moves

end Link

namespace Incoming

/-- The most that a reader can still have to read of its frame. A header that is not complete may
announce as much as the limit allows. -/
def outlook (frame : Incoming) : Nat :=
  match frame.phase with
  | .header progress => progress.remaining + frame.maxPayload
  | .payload _ progress => progress.remaining
  | .dispatch _ | .closed => 0

theorem outlook_write (frame : Incoming) (received : Bytes) :
    (frame.write received).outlook = frame.outlook := by
  simp only [outlook, phase_write, maxPayload_write]

theorem awaits_of_wants {frame : Incoming} (wants : frame.wantsBytes = true) :
    ∃ progress, frame.phase.progress? = some progress := by
  unfold wantsBytes at wants
  cases phase : frame.phase <;> simp only [phase, reduceCtorEq] at wants
  case header progress => exact ⟨progress, rfl⟩
  case payload header progress => exact ⟨progress, rfl⟩

section Outlook

variable {frame next : Incoming} {progress : Progress} {count : Nat}

theorem Regular.outlook_le (regular : frame.Regular) : frame.outlook ≤ 4 + frame.maxPayload := by
  unfold Regular at regular
  unfold outlook
  cases phase : frame.phase <;> simp only [phase] at regular ⊢
  case header progress =>
    have four : FrameHeader.size = 4 := rfl
    rw [Progress.remaining]
    omega
  case payload header progress =>
    rw [Progress.remaining]
    omega
  case dispatch header => omega
  case closed => omega

theorem Regular.outlook_pos (regular : frame.Regular) (wants : frame.wantsBytes = true) :
    0 < frame.outlook := by
  unfold Regular at regular
  unfold wantsBytes at wants
  unfold outlook
  cases phase : frame.phase <;> simp only [phase, reduceCtorEq] at wants regular ⊢
  case header progress =>
    rw [Progress.remaining]
    omega
  case payload header progress =>
    rw [Progress.remaining]
    omega

theorem Counts.outlook_lt (counts : Counts frame progress count next (.ok ()))
    (regular : frame.Regular) : next.outlook < frame.outlook := by
  cases counts with
  | underway phase positive expected transferred below =>
      simp only [outlook, phase, Progress.remaining]
      omega
  | announced phase complete peeked fits present =>
      simp only [Regular, phase] at regular
      simp only [outlook, phase, Progress.remaining, Progress.start]
      omega
  | empty phase complete peeked fits absent =>
      simp only [Regular, phase] at regular
      simp only [outlook, phase, Progress.remaining]
      omega
  | more phase positive expected transferred below =>
      simp only [outlook, phase, Progress.remaining]
      omega
  | whole phase positive complete =>
      simp only [outlook, phase]
      omega

end Outlook

/-- How filling a frame comes to its end, with at most so many reads. -/
structure Finishes (most : Nat) (calls : List SocketCall) (result : Outcome Unit × Incoming) :
    Prop where
  bounded : calls.length ≤ most
  reads : ∀ call ∈ calls, ∃ room, 0 < room ∧ call.request = .read room
  stops : StopsIdle calls result.1
  ends : (result.1 = .ok () ∧ ∃ header, result.2.phase = .dispatch header) ∨ Failed result.1

section Fill

variable {most room : Nat} {watch : Watch} {link : Link} {calls : List SocketCall}
  {result : Outcome Unit × Incoming}

theorem Finishes.none (ends : (result.1 = .ok () ∧ ∃ header, result.2.phase = .dispatch header) ∨
    Failed result.1) : Finishes most [] result where
  bounded := Nat.zero_le _
  reads := by simp
  stops := .none _
  ends := ends

theorem Finishes.last (positive : 0 < most) (roomy : 0 < room) (failed : Failed result.1) :
    Finishes most [{ request := .read room, watch, link }] result where
  bounded := positive
  reads := by simpa using roomy
  stops := .last _ failed
  ends := .inr failed

theorem Finishes.after (finishes : Finishes most calls result) {more : Nat} (less : most < more)
    (roomy : 0 < room)
    (moved : SocketCall.received { request := .read room, watch, link } ≠ []) :
    Finishes more ({ request := .read room, watch, link } :: calls) result where
  bounded := by
    have bounded := finishes.bounded
    rw [List.length_cons]
    omega
  reads := List.forall_mem_cons.2 ⟨⟨room, roomy, rfl⟩, finishes.reads⟩
  stops := finishes.stops.after moved
  ends := finishes.ends

theorem Regular.fill_finishes {frame : Incoming} (regular : frame.Regular)
    (chunky : 0 < frame.chunk) (watch : Watch) {link : Link} (answers : link.reads.Moves) :
    Finishes frame.outlook (frame.fillCalls watch link) (frame.fill watch link).1 := by
  fun_induction fill watch frame link with
  | case1 frame link wants halt next stopped =>
      have read := Link.read_spec watch frame.windowLength link
      rw [stopped] at read
      obtain ⟨-, -, outside, stalled⟩ := read
      rw [fillCalls_eq, if_pos wants]
      simp only [stopped]
      apply Finishes.last (regular.outlook_pos wants)
      · exact (regular.windowLength_pos_iff chunky).2 wants
      · exact outside.failed fun never => stalled never answers
  | case2 frame link wants received next arrived after reason refused =>
      rw [fillCalls_eq, if_pos wants]
      simp only [arrived, refused]
      apply Finishes.last (regular.outlook_pos wants)
      · exact (regular.windowLength_pos_iff chunky).2 wants
      · exact ⟨_, rfl⟩
  | case3 frame link wants received next arrived after accepted ih =>
      have written := regular.write received
      obtain ⟨progress, awaits⟩ := awaits_of_wants (wantsBytes_write wants received)
      have counts := counts_of_awaiting written awaits received.length
      rw [accepted] at counts
      have still := Link.moves_read watch frame.windowLength answers
      rw [arrived] at still
      rw [fillCalls_eq, if_pos wants]
      simp only [arrived, accepted]
      -- The rest of the reads fit into what is left to read once this count has been taken.
      apply (ih (counts.regular written) _ still).after
      · exact outlook_write frame received ▸ counts.outlook_lt written
      · exact (regular.windowLength_pos_iff chunky).2 wants
      · have positive := advance_count accepted
        simpa [SocketCall.received, arrived] using List.length_pos_iff.1 positive
      · rw [counts.same.2, chunk_write]
        exact chunky
  | case4 frame link idle header ready =>
      rw [fillCalls_eq, if_neg idle]
      exact .none (.inl ⟨rfl, header, ready⟩)
  | case5 frame link idle undispatched =>
      rw [fillCalls_eq, if_neg idle]
      exact .none (.inr ⟨_, rfl⟩)

end Fill

end Incoming

namespace Outgoing

/-- How sending comes to its end, with at most so many writes: all of them are before the flush,
which is made once and only if none of them has failed. -/
structure Finishes {β : Type} (most : Nat) (calls : List SocketCall) (outcome : Outcome β) :
    Prop where
  shape : ∃ writes flushes, calls = writes ++ flushes ∧ writes.length ≤ most ∧
    (∀ call ∈ writes, ∃ offered, offered ≠ [] ∧ call.request = .write offered) ∧
    ((flushes = [] ∧ Failed outcome) ∨ ∃ call, flushes = [call] ∧ call.request = .flush)
  stops : StopsIdle calls outcome
  ends : (∃ value, outcome = .ok value) ∨ Failed outcome

section Push

variable {β : Type} {most : Nat} {offered : Bytes} {watch : Watch} {link : Link}
  {calls : List SocketCall} {outcome : Outcome β}

theorem Finishes.flush (ends : (∃ value, outcome = .ok value) ∨ Failed outcome) :
    Finishes most [{ request := .flush, watch, link }] outcome where
  shape := ⟨[], _, rfl, Nat.zero_le _, by simp, .inr ⟨_, rfl, rfl⟩⟩
  stops := (StopsIdle.none outcome).after id
  ends := ends

theorem Finishes.last (positive : 0 < most) (present : offered ≠ []) (failed : Failed outcome) :
    Finishes most [{ request := .write offered, watch, link }] outcome where
  shape := ⟨[_], [], rfl, positive, by simpa using present, .inl ⟨rfl, failed⟩⟩
  stops := .last _ failed
  ends := .inr failed

theorem Finishes.after (finishes : Finishes most calls outcome) {more : Nat} (less : most < more)
    (present : offered ≠ [])
    (moved : SocketCall.accepted { request := .write offered, watch, link } ≠ []) :
    Finishes more ({ request := .write offered, watch, link } :: calls) outcome where
  shape := by
    obtain ⟨writes, flushes, made, bounded, offering, ended⟩ := finishes.shape
    refine ⟨_ :: writes, flushes, congrArg _ made, ?_,
      List.forall_mem_cons.2 ⟨⟨offered, present, rfl⟩, offering⟩, ended⟩
    rw [List.length_cons]
    omega
  stops := finishes.stops.after moved
  ends := finishes.ends

theorem Finishes.map (finishes : Finishes most calls outcome) {γ : Type} {told : Outcome γ}
    (succeeds : ∀ value, outcome = .ok value → ∃ value, told = .ok value)
    (fails : ∀ reason, outcome = .error (.error reason) → told = .error (.error reason)) :
    Finishes most calls told := by
  have failed : Failed outcome → Failed told := fun ⟨reason, same⟩ => ⟨reason, fails reason same⟩
  constructor
  · obtain ⟨writes, flushes, made, bounded, offering, ended⟩ := finishes.shape
    exact ⟨writes, flushes, made, bounded, offering,
      ended.imp_left fun unflushed => ⟨unflushed.1, failed unflushed.2⟩⟩
  · exact finishes.stops.mono failed
  · rcases finishes.ends with ⟨value, same⟩ | ended
    · exact .inl (succeeds value same)
    · exact .inr (failed ended)

theorem Whole.push_finishes {frame : Outgoing} (whole : frame.Whole) (watch : Watch) {link : Link}
    (answers : link.Answers) :
    Finishes frame.pending.length (frame.pushCalls watch link) (frame.push watch link).1.1 := by
  fun_induction push watch frame link with
  | case1 frame link complete flushed next ended =>
      obtain ⟨-, -, -, halted⟩ := Link.flush_spec watch link
      have answered := (Link.raced_flush watch link).answers answers.flushes
      rw [ended] at halted answered
      rw [pushCalls_eq, if_pos complete]
      apply Finishes.flush
      cases flushed with
      | ok value => exact .inl ⟨value, rfl⟩
      | error halt =>
          right
          exact (halted halt rfl).1.failed fun never => answered (by rw [never])
  | case2 frame link incomplete halt next stopped =>
      have write := Link.write_spec watch frame.pending link
      have answered := (Link.raced_write watch frame.pending link).answers answers.writes
      rw [stopped] at write answered
      have present := pending_ne_nil whole incomplete
      rw [pushCalls_eq, if_neg incomplete]
      simp only [stopped]
      apply Finishes.last (List.length_pos_iff.2 present) present
      exact write.2.1.failed fun never => answered (by rw [never])
  | case3 frame link incomplete count next taken reason refused =>
      have present := pending_ne_nil whole incomplete
      rw [pushCalls_eq, if_neg incomplete]
      simp only [taken, refused]
      apply Finishes.last (List.length_pos_iff.2 present) present
      exact ⟨reason, rfl⟩
  | case4 frame link incomplete count next taken after accepted ih =>
      have present := pending_ne_nil whole incomplete
      have still := answers.write watch frame.pending
      rw [taken] at still
      rw [pushCalls_eq, if_neg incomplete]
      simp only [taken, accepted]
      rcases whole.advance count with
        ⟨other, same, positive, fits, wholeNext, -, -, split⟩ | ⟨⟨reason, refused⟩, -⟩
      · obtain rfl : other = after := by simpa [same] using accepted
        apply (ih wholeNext still).after
        · rw [split, List.length_append, List.length_take]
          omega
        · exact present
        · simp [SocketCall.accepted, taken, present, Nat.ne_of_gt positive]
      · simp [refused] at accepted

end Push

end Outgoing

namespace Exchange

variable {settings : Settings} {exchange : Exchange} {deadline : Option Duration}

theorem fillFrame_finishes (cancel : CancelToken) (countable : Countable deadline)
    (tidy : exchange.Tidy settings) (answers : exchange.link.Answers) {frame : Incoming}
    (regular : frame.Regular) (chunky : 0 < frame.chunk) :
    Incoming.Finishes frame.outlook (exchange.fillCalls cancel deadline frame)
      (exchange.fillFrame cancel deadline frame).1 := by
  obtain ⟨made, result⟩ := (fillFrame_called cancel deadline frame tidy).counted countable
  rw [made, result]
  exact regular.fill_finishes chunky _ answers.reads

theorem pushFrame_finishes (cancel : CancelToken) (countable : Countable deadline)
    (tidy : exchange.Tidy settings) (answers : exchange.link.Answers) {frame : Outgoing}
    (whole : frame.Whole) :
    Outgoing.Finishes frame.pending.length (exchange.pushCalls cancel deadline frame)
      (exchange.pushFrame cancel deadline frame).1.1 := by
  obtain ⟨made, result⟩ := (pushFrame_called cancel deadline frame tidy).counted countable
  rw [made, result]
  exact whole.push_finishes _ answers

theorem sendAll_finishes (cancel : CancelToken) (remote : SocketAddress) (payload : Bytes)
    (countable : Countable deadline) (tidy : exchange.Tidy settings)
    (answers : exchange.link.Answers) :
    Outgoing.Finishes payload.length (exchange.sendCalls cancel payload deadline)
      (exchange.sendAll cancel remote payload deadline).1 := by
  refine withTicket_calls _ (fun calls (result : Outcome Delivery) _ =>
    Outgoing.Finishes payload.length calls result) tidy ?_
  intro inner same clean watch ended
  have counted : watch.beyondHorizon = false := Countable.beyondHorizon countable
  have empty := clean.resources.bytes_rentBuffer payload.length
  obtain ⟨whole, pending⟩ := Outgoing.whole_append empty payload
  have finishes := whole.push_finishes watch answers
  rw [pending] at finishes
  simp only [ended, Ticket.attach, Ticket.carried, counted, Bool.false_eq_true, if_false, same]
  apply finishes.map
  · intro value sent
    split
    · rename_i stopped
      rw [stopped] at sent
      cases sent
    · exact ⟨_, rfl⟩
  · intro reason failed
    split
    · rename_i stopped
      rw [stopped] at failed
      cases failed
      rfl
    · rename_i sent
      rw [sent] at failed
      cases failed

/-- Whatever the state of a reader or a writer is that a transfer finds, and whatever a socket that
answers every call brings or takes, the transfer ends, if its deadline can be counted. Filling a
frame takes at most as many reads as a header and the longest payload have bytes, and ends with the
frame or with an error. Sending takes at most as many writes as there are bytes to send, not even
one more, and after the last of them one flush if all has gone well. No read is without room and no
write without bytes, and one that moves nothing is the last call, and the end is an error. The
calls are all that the transfer makes: they lead from the link that it finds to the link that it
leaves. -/
theorem transfers_finish (cancel : CancelToken) (remote : SocketAddress)
    (countable : Countable deadline) (tidy : exchange.Tidy settings)
    (answers : exchange.link.Answers) :
    (∀ lease maxPayload uses,
      let frame := (Incoming.follow Incoming.tally (Incoming.start lease maxPayload) 0 uses).1
      let calls := exchange.fillCalls cancel deadline frame
      let ended := exchange.fillFrame cancel deadline frame
      Incoming.Finishes (4 + maxPayload) calls ended.1 ∧
        Traced exchange.link calls ended.2.link) ∧
    (∀ lease payload maxPayload fresh counts,
      Outgoing.encode lease payload maxPayload = .ok fresh →
        let frame := (Outgoing.Emission.offerAll counts { frame := fresh }).frame
        let calls := exchange.pushCalls cancel deadline frame
        let ended := exchange.pushFrame cancel deadline frame
        Outgoing.Finishes frame.pending.length calls ended.1.1 ∧
          Traced exchange.link calls ended.2.link) ∧
    ∀ payload,
      let calls := exchange.sendCalls cancel payload deadline
      let ended := exchange.sendAll cancel remote payload deadline
      Outgoing.Finishes payload.length calls ended.1 ∧
        Traced exchange.link calls ended.2.link := by
  refine ⟨?_, ?_, ?_⟩
  · intro lease maxPayload uses frame calls ended
    have begun := Incoming.regular_start lease maxPayload
    obtain ⟨regular, limit, chunk⟩ : frame.Regular ∧ frame.maxPayload = maxPayload ∧
        frame.chunk = max lease.capacity Incoming.leastChunk :=
      Incoming.follow_kept
        (fun frame (_ : Nat) => frame.maxPayload = maxPayload ∧
          frame.chunk = max lease.capacity Incoming.leastChunk)
        (fun _ used same => ⟨used.same.1.trans same.1, used.same.2.trans same.2⟩)
        uses begun ⟨rfl, rfl⟩
    have wide : Incoming.leastChunk ≤ frame.chunk := chunk ▸ Nat.le_max_right _ _
    have chunky : 0 < frame.chunk := Nat.lt_of_lt_of_le (by decide) wide
    have least := fillFrame_finishes cancel countable tidy answers regular chunky
    refine ⟨{ least with bounded := ?_ }, fillFrame_traced cancel deadline frame tidy⟩
    exact Nat.le_trans least.bounded (limit ▸ regular.outlook_le)
  · intro lease payload maxPayload fresh counts encoded frame calls ended
    have upto := (Outgoing.Emission.upto_encode encoded).offerAll counts
    exact ⟨pushFrame_finishes cancel countable tidy answers upto.whole,
      pushFrame_traced cancel deadline frame tidy⟩
  · intro payload calls ended
    exact ⟨sendAll_finishes cancel remote payload countable tidy answers,
      (sendAll_traced cancel remote payload deadline tidy).1⟩

def silentPeer : Exchange := { resources := Resources.ofSettings {}, link := {} }

theorem silentPeer_transfers_finish :
    let remote : SocketAddress := { ip := IpAddress.loopback, port := 7 }
    let calls := silentPeer.sendCalls ⟨[0]⟩ [7] (some .zero)
    let ended := silentPeer.sendAll ⟨[0]⟩ remote [7] (some .zero)
    silentPeer.link.Answers ∧ Outgoing.Finishes 1 calls ended.1 ∧
      Traced silentPeer.link calls ended.2.link := by
  intro remote calls ended
  have countable : Countable (some .zero) := by
    rintro span ⟨⟩
    decide
  have tidy : silentPeer.Tidy {} := ⟨Resources.tidy_ofSettings {}, rfl⟩
  have answers : silentPeer.link.Answers := by
    constructor <;> simp [silentPeer, Script.Moves]
  exact ⟨answers, (transfers_finish ⟨[0]⟩ remote countable tidy answers).2.2 [7]⟩

end Exchange

end FramedTransport
