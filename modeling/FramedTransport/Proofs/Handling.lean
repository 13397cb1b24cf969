import FramedTransport.Proofs.Outstanding

/-!
What becomes of the datagrams that a server is sent.
Every datagram that has arrived is pending, or has been met by one receive. The
handler runs for those that were frames, once for each and in the order in which
their receives were joined, and for nothing else; a reply is sent at most once,
to where the datagram came from, and only if the handler has given one.
-/

namespace FramedTransport

namespace DatagramServer

variable {σ : Type}

/-- What a handler has said to some requests, one after the other. -/
inductive Heard (handler : Handler σ) (first : σ) : List Call → σ → Prop
  | nothing : Heard handler first [] first
  | call {calls : List Call} {state : σ} (heard : Heard handler first calls state) (number : Nat)
      (request : Request) :
      Heard handler first
        (calls ++ [{ number, request, answer := (handler request state).1 }])
        (handler request state).2

namespace Stage

def handles : Stage → List Nat
  | .handling number _ => [number]
  | .selecting | .answering .. | .ended _ => []

def answers : Stage → List Nat
  | .answering number .. => [number]
  | .selecting | .handling .. | .ended _ => []

end Stage

/-- The handler was asked about this datagram, which is a frame. -/
structure Call.Asks (call : Call) (datagram : Datagram) : Prop where
  remote : call.request.remote = datagram.remote
  header : call.request.header.payloadLength = datagram.payload.length
  payload : call.request.payload = datagram.payload

/-- These bytes, for this remote, are what the handler has answered, or the beginning of it. -/
def Call.Answers (call : Call) (number : Nat) (reply : Datagram) : Prop :=
  call.number = number ∧ reply.remote = call.request.remote ∧
    ∃ payload, call.answer = some payload ∧ reply.bytes <+: Wire.image payload

/-- Every receive that was ever issued, but for what they are now. -/
def Serving.everyReceive (serving : Serving σ) : List Receive :=
  serving.receives ++ (serving.joined ++ serving.abandoned)

def Serving.numbers (serving : Serving σ) : List Nat :=
  serving.pending ++ serving.everyReceive.filterMap Receive.number?

/-- What a server has done agrees with what has arrived, but for the datagrams that it is about to
handle and those that it is about to answer. -/
structure Recorded (handler : Handler σ) (limit : Nat) (first : σ) (before : List Datagram)
    (handles answers : List Nat) (serving : Serving σ) : Prop where
  numbers : serving.numbers.Perm (List.range serving.arrived.length)
  joined : ∀ receive ∈ serving.joined, receive.Fine limit serving.arrived
  handled : serving.calls.map (·.number) ++ handles = serving.joined.filterMap Receive.frame?
  asked : ∀ call ∈ serving.calls, ∃ datagram, serving.arrived[call.number]? = some datagram ∧
    datagram.Framed limit ∧ call.Asks datagram
  heard : Heard handler first serving.calls serving.state
  answered : (serving.answers.map (·.number) ++ answers).Sublist
    ((serving.calls.filter (·.answer.isSome)).map (·.number))
  replies : ∀ answer ∈ serving.answers, ∃ call ∈ serving.calls,
    call.Answers answer.number answer.datagram
  sent : serving.exchange.link.sent = before ++ serving.answers.map (·.datagram)

variable {handler : Handler σ} {limit : Nat} {first : σ} {before : List Datagram}
  {handles answers : List Nat} {serving : Serving σ}

theorem perm_number?_set {receives : List Receive} {position : Nat} {ticket : Ticket}
    (waiting : receives[position]? = some (.waiting ticket)) (receive : Receive) :
    ((receives.set position receive).filterMap Receive.number?).Perm
      (receive.number?.toList ++ receives.filterMap Receive.number?) := by
  have after := (Receive.perm_set waiting receive).filterMap Receive.number?
  have now := (Receive.perm_eraseIdx waiting).filterMap Receive.number?
  rw [List.filterMap_cons_none (show (Receive.waiting ticket).number? = none from rfl)] at now
  have same : (receive :: receives.eraseIdx position).filterMap Receive.number? =
      receive.number?.toList ++ (receives.eraseIdx position).filterMap Receive.number? := by
    rw [List.filterMap_cons]
    cases receive.number? <;> rfl
  rw [same] at after
  exact after.trans (now.symm.append_left _)

theorem Recorded.arrive (recorded : Recorded handler limit first before handles answers serving)
    (datagram : Datagram) :
    Recorded handler limit first before handles answers (serving.arrive datagram) := by
  refine { recorded with numbers := ?_, joined := ?_, asked := ?_ }
  · rw [show (serving.arrive datagram).arrived = serving.arrived ++ [datagram] from rfl,
      List.length_append, List.length_singleton, List.range_succ]
    refine List.Perm.trans ?_ (recorded.numbers.append_right [serving.arrived.length])
    simp only [Serving.numbers, Serving.arrive, List.append_assoc]
    exact List.perm_append_comm.append_left serving.pending
  · exact fun receive member => (recorded.joined receive member).arrive datagram
  · intro call member
    obtain ⟨other, present, framed, asks⟩ := recorded.asked call member
    exact ⟨other, Receive.present_arrive present datagram, framed, asks⟩

theorem Recorded.complete (recorded : Recorded handler limit first before handles answers serving)
    {position : Nat} {ticket : Ticket}
    (waiting : serving.receives[position]? = some (.waiting ticket)) {receive : Receive}
    {exchange : DatagramExchange} (link : exchange.link = serving.exchange.link)
    {pending : List Nat}
    (moved : serving.pending.Perm (receive.number?.toList ++ pending)) :
    Recorded handler limit first before handles answers
      { serving with exchange, receives := serving.receives.set position receive, pending } := by
  refine { recorded with numbers := ?_, sent := link ▸ recorded.sent }
  refine List.Perm.trans ?_ recorded.numbers
  simp only [Serving.numbers, Serving.everyReceive, List.filterMap_append, ← List.append_assoc]
  refine ((List.Perm.trans ?_ (moved.symm.append_right _)).append_right _).append_right _
  refine ((perm_number?_set waiting receive).append_left pending).trans ?_
  rw [← List.append_assoc]
  exact List.perm_append_comm.append_right _

theorem Recorded.meet (recorded : Recorded handler limit first before handles answers serving)
    {position number : Nat} {signals : Signals} {room : Buffer} {datagram : Datagram}
    (waiting : serving.receives[position]? =
      some (.waiting { armed := some signals, lease := some room }))
    (pending : number ∈ serving.pending) :
    Recorded handler limit first before handles answers
      (serving.meet position signals room number datagram) := by
  have link := Endpoint.link_received (.ok (datagram.cut room.length))
    { armed := some signals, lease := some room } serving.exchange
  exact recorded.complete waiting link (List.perm_cons_erase pending)

theorem Recorded.fail (recorded : Recorded handler limit first before handles answers serving)
    {position : Nat} {ticket : Ticket}
    (waiting : serving.receives[position]? = some (.waiting ticket)) (halt : Halt) :
    Recorded handler limit first before handles answers (serving.fail position ticket halt) := by
  have link := Endpoint.link_received (.error halt) ticket serving.exchange
  have moved : serving.pending.Perm ((Receive.failed halt).number?.toList ++ serving.pending) :=
    List.Perm.refl _
  exact recorded.complete waiting link moved

theorem Recorded.take (recorded : Recorded handler limit first before [] [] serving)
    {position : Nat} {receive : Receive} (there : serving.receives[position]? = some receive)
    (fine : receive.Fine limit serving.arrived) :
    Recorded handler limit first before receive.frame?.toList []
      (serving.take position receive) := by
  refine { recorded with numbers := ?_, joined := ?_, handled := ?_ }
  · refine List.Perm.trans ?_ recorded.numbers
    refine (List.Perm.filterMap _ ?_).append_left serving.pending
    simp only [Serving.everyReceive, Serving.take, ← List.append_assoc]
    refine List.Perm.append_right _ ?_
    exact (List.perm_append_singleton _ _).trans
      ((Receive.perm_eraseIdx there).symm.append_right serving.joined)
  · intro other member
    rcases List.mem_append.1 member with before | now
    · exact recorded.joined other before
    · exact List.mem_singleton.1 now ▸ fine
  · have handled := recorded.handled
    rw [List.append_nil] at handled
    simp only [Serving.take, List.filterMap_append, ← handled, List.filterMap_cons,
      List.filterMap_nil]
    cases receive.frame? <;> rfl

theorem Recorded.issue (recorded : Recorded handler limit first before handles answers serving) :
    Recorded handler limit first before handles answers serving.issue := by
  obtain ⟨more, resources, new, unmet⟩ := issue_eq serving
  rw [new]
  refine { recorded with numbers := ?_ }
  refine List.Perm.trans (List.Perm.of_eq ?_) recorded.numbers
  simp only [Serving.numbers, Serving.everyReceive, List.filterMap_append, unmet, List.append_nil]

theorem Recorded.stop (recorded : Recorded handler limit first before handles answers serving)
    (result : Except TransportError Unit) :
    Recorded handler limit first before handles answers (serving.stop result) := by
  refine { recorded with numbers := ?_ }
  refine List.Perm.trans ?_ recorded.numbers
  refine (List.Perm.filterMap _ ?_).append_left serving.pending
  simp only [Serving.everyReceive, Serving.stop, List.nil_append, ← List.append_assoc]
  exact List.perm_append_comm.append_right _

/-- A server need not answer what its handler has answered. -/
theorem Recorded.unanswered
    (recorded : Recorded handler limit first before handles answers serving) :
    Recorded handler limit first before handles [] serving :=
  { recorded with
    answered := ((List.Sublist.refl _).append (List.nil_sublist _)).trans recorded.answered }

theorem Recorded.call {number : Nat}
    (recorded : Recorded handler limit first before [number] [] serving) {datagram : Datagram}
    (present : serving.arrived[number]? = some datagram) (framed : datagram.Framed limit)
    (request : Request) (asks : Call.Asks ⟨number, request, none⟩ datagram)
    {exchange : DatagramExchange} (link : exchange.link = serving.exchange.link) :
    Recorded handler limit first before []
      (if (handler request serving.state).1.isSome then [number] else [])
      { serving with
        exchange
        state := (handler request serving.state).2
        calls := serving.calls ++
          [{ number, request, answer := (handler request serving.state).1 }] } := by
  refine
    { recorded with
      handled := ?_
      asked := ?_
      heard := recorded.heard.call number request
      answered := ?_
      replies := ?_
      sent := link ▸ recorded.sent }
  · rw [List.map_append, List.append_nil]
    exact recorded.handled
  · intro call member
    rcases List.mem_append.1 member with before | now
    · exact recorded.asked call before
    · obtain rfl := List.mem_singleton.1 now
      exact ⟨datagram, present, framed, { asks with }⟩
  · have answered := recorded.answered
    rw [List.append_nil] at answered
    rw [List.filter_append, List.map_append]
    refine answered.append ?_
    cases said : (handler request serving.state).1 <;> simp
  · intro answer member
    obtain ⟨call, called, answers⟩ := recorded.replies answer member
    exact ⟨call, List.mem_append_left _ called, answers⟩

theorem Recorded.answer {number : Nat}
    (recorded : Recorded handler limit first before handles [number] serving) {call : Call}
    (called : call ∈ serving.calls) {reply : Datagram} (replies : call.Answers number reply)
    (count : Nat) {exchange : DatagramExchange}
    (sent : exchange.link.sent = serving.exchange.link.sent ++ [reply.cut count]) :
    Recorded handler limit first before handles []
      { serving with
        exchange
        answers := serving.answers ++ [{ number, datagram := reply.cut count }] } := by
  refine { recorded with answered := ?_, replies := ?_, sent := ?_ }
  · rw [List.map_append, List.append_nil]
    exact recorded.answered
  · intro answer member
    rcases List.mem_append.1 member with before | now
    · exact recorded.replies answer before
    · obtain rfl := List.mem_singleton.1 now
      obtain ⟨number, remote, payload, said, bytes⟩ := replies
      exact ⟨call, called, number, remote, payload, said, (List.take_prefix _ _).trans bytes⟩
  · rw [sent, recorded.sent, List.map_append, List.append_assoc]
    rfl

/-- What a server is about agrees with what has arrived and with what its handler has said. -/
inductive Stage.Fine (limit : Nat) (arrived : List Datagram) (calls : List Call) : Stage → Prop
  | selecting : Fine limit arrived calls .selecting
  | handling {number : Nat} {datagram : Datagram} {delivery : Delivery}
      (present : arrived[number]? = some datagram)
      (judged : datagram.Judged limit (.ok delivery)) :
      Fine limit arrived calls (.handling number delivery)
  | answering {number : Nat} {remote : SocketAddress} {signals : Signals} {frame : Buffer}
      {call : Call} (called : call ∈ calls) (answers : call.Answers number ⟨frame.bytes, remote⟩) :
      Fine limit arrived calls
        (.answering number remote { armed := some signals, lease := some frame })
  | ended {result : Except TransportError Unit} : Fine limit arrived calls (.ended result)

theorem Stage.Fine.arrive {arrived : List Datagram} {calls : List Call} {stage : Stage}
    (fine : stage.Fine limit arrived calls) (datagram : Datagram) :
    stage.Fine limit (arrived ++ [datagram]) calls := by
  cases fine with
  | selecting => exact .selecting
  | handling present judged => exact .handling (Receive.present_arrive present datagram) judged
  | answering called answers => exact .answering called answers
  | ended => exact .ended

structure Attended (handler : Handler σ) (limit : Nat) (first : σ) (before : List Datagram)
    (serving : Serving σ) : Prop where
  recorded : Recorded handler limit first before serving.stage.handles serving.stage.answers serving
  stage : serving.stage.Fine limit serving.arrived serving.calls

variable {start : Resources} {tickets buffers : Nat}

theorem Recorded.reply (call : Call) {answer : Option Bytes}
    (recorded : Recorded handler limit first before []
      (if answer.isSome then [call.number] else []) serving)
    (lends : start.Lends serving.exchange.resources tickets buffers)
    (called : call ∈ serving.calls) (said : call.answer = answer) :
    Attended handler limit first before
      (serving.reply call.number call.request.remote answer) := by
  cases answer with
  | none => exact ⟨{ recorded with }, .selecting⟩
  | some payload =>
      rcases Endpoint.armSend_lends payload
          (some serving.exchange.resources.settings.operationTimeout) serving.endpoint lends with
        ⟨halt, next, refused, -⟩ | ⟨signals, frame, next, armed, image, -⟩
      · simp only [Serving.reply, refused]
        exact ⟨{ recorded.unanswered with }, .selecting⟩
      · simp only [Serving.reply, armed]
        refine ⟨{ recorded with }, .answering called ⟨rfl, rfl, payload, said, ?_⟩⟩
        exact image ▸ List.prefix_refl _

theorem Recorded.handle {number : Nat} {datagram : Datagram} {delivery : Delivery}
    (recorded : Recorded handler limit first before [number] [] serving)
    (lends : start.Lends serving.exchange.resources tickets (buffers + 1))
    (present : serving.arrived[number]? = some datagram)
    (judged : datagram.Judged limit (.ok delivery)) :
    Attended handler limit first before (serving.handle handler number delivery) := by
  cases judged with
  | frame framed payload remote =>
      -- A frame that has been read has a length that a header can name, so the handler does run.
      obtain ⟨fits, -⟩ := framed.image
      have announced : FrameHeader.forPayload delivery.payload.length =
          .ok ⟨delivery.payload.length, payload ▸ fits⟩ := by
        simp only [FrameHeader.forPayload, payload, fits, dite_true]
      let request : Request :=
        { remote := delivery.remote
          header := ⟨delivery.payload.length, payload ▸ fits⟩
          payload := delivery.payload }
      have called := recorded.call present framed request
        ⟨remote, congrArg List.length payload, payload⟩
        (show ({ serving.exchange with
          resources := serving.exchange.resources.giveBackBuffer delivery.buffer } :
          DatagramExchange).link = _ from rfl)
      unfold Serving.handle
      simp only [announced]
      exact Recorded.reply ⟨number, request, (handler request serving.state).1⟩ called
        (lends.giveBackBuffer delivery.buffer)
        (List.mem_append_right _ (List.mem_singleton_self _)) rfl

theorem Recorded.settle {number : Nat} {remote : SocketAddress} {signals : Signals}
    {frame : Buffer} {taken : Outcome Nat} {link : DatagramLink}
    (recorded : Recorded handler limit first before [] [number] serving) {call : Call}
    (called : call ∈ serving.calls) (answers : call.Answers number ⟨frame.bytes, remote⟩)
    (takes : serving.exchange.link.Takes ⟨frame.bytes, remote⟩ taken link) :
    Attended handler limit first before
      (serving.answered number remote signals frame taken link) := by
  have same := Endpoint.link_departed remote { armed := some signals, lease := some frame }
    frame.length taken { serving.exchange with link }
  unfold Serving.answered
  generalize Endpoint.departed remote { armed := some signals, lease := some frame } frame.length
    taken { serving.exchange with link } = settled at same ⊢
  obtain ⟨outcome, exchange⟩ := settled
  obtain rfl : exchange.link = link := same
  refine ⟨?_, .selecting⟩
  cases takes with
  | none halt sent =>
      have quiet := recorded.unanswered
      -- Nothing has been added to what was sent, so no answer is recorded.
      simp only [sent, List.drop_length, List.map_nil, List.append_nil]
      exact { quiet with sent := sent.trans quiet.sent }
  | some count sent =>
      have told := recorded.answer called answers count sent
      simp only [sent, List.drop_left, List.map_cons, List.map_nil]
      exact { told with }

theorem Recorded.join {position : Nat} {receive : Receive}
    (recorded : Recorded handler limit first before [] [] serving)
    (there : serving.receives[position]? = some receive)
    (fine : receive.Fine limit serving.arrived) (complete : receive.waits = false) :
    Attended handler limit first before (serving.join position receive) := by
  have taken := (recorded.take there fine).issue
  obtain ⟨more, resources, new, -⟩ := issue_eq (serving.take position receive)
  unfold Serving.join Serving.turn
  rcases fine.afterJoin complete with ⟨number, delivery, rfl⟩ | ⟨⟨-, nothing⟩, goes | ends⟩
  · refine ⟨{ taken with }, ?_⟩
    cases fine with
    | met present judged =>
        rw [new]
        exact .handling present judged
  · rw [nothing] at taken
    rw [goes]
    exact ⟨{ taken with }, .selecting⟩
  · rw [nothing] at taken
    rw [ends]
    exact ⟨taken.stop (.ok ()), .ended⟩

theorem Attended.step {count : Nat} {next : Serving σ}
    (attended : Attended handler start.settings.maxDatagramSize first before serving)
    (kept : Kept start count serving) (step : Step handler serving next) :
    Attended handler start.settings.maxDatagramSize first before next := by
  have recorded := attended.recorded
  have stage := attended.stage
  have fine := kept.staffed.fine
  have lends := kept.staffed.lends
  cases step with
  | arrive datagram => exact ⟨recorded.arrive datagram, stage.arrive datagram⟩
  | close => exact ⟨{ recorded with }, stage⟩
  | shutDown => exact ⟨{ recorded with }, stage⟩
  | meet waiting pending present => exact ⟨recorded.meet waiting pending, stage⟩
  | fail fault waiting => exact ⟨recorded.fail waiting _, stage⟩
  | cancel closed waiting => exact ⟨recorded.fail waiting _, stage⟩
  | join selecting running there complete =>
      rw [selecting] at recorded
      exact recorded.join there (fine _ (List.mem_of_getElem? there)) complete
  | handle handling =>
      rw [handling] at recorded stage lends
      cases stage with
      | handling present judged => exact recorded.handle lends present judged
  | answer answering takes =>
      rw [answering] at recorded stage
      cases stage with
      | answering called answers => exact recorded.settle called answers takes
  | stop selecting finished =>
      rw [selecting] at recorded
      exact ⟨recorded.stop (.ok ()), .ended⟩

end DatagramServer

end FramedTransport
