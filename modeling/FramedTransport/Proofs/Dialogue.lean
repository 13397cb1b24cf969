import FramedTransport.Proofs.Serving
import FramedTransport.Proofs.Tracing

/-!
A session round by round.
Every round reads a frame, puts it to the handler and sends the answer, if there is one.
The rounds of a session are told here with their socket calls: which bytes they took for
the frame, what the handler was asked and at which moment, and which bytes the socket took
of the answer. Whatever is proved of sessions is then proved along their rounds.
-/

namespace FramedTransport

open SocketCall

namespace Session

/-- What a handler was asked at this time, and its answer. -/
structure Question where
  time : Timeline
  request : Request
  answer : Option Bytes

/-- The reads for a frame, the question that it was, and the calls that sent the answer. -/
structure Round where
  reads : List SocketCall
  question : Option Question := none
  writes : List SocketCall := []

def Round.calls (round : Round) : List SocketCall := round.reads ++ round.writes

def respondCalls (cancel : CancelToken) (answer : Bytes) (exchange : Exchange) :
    List SocketCall :=
  let settings := exchange.resources.settings
  let (buffer, resources) := exchange.resources.rentBuffer (FrameHeader.size + answer.length)
  match Outgoing.encode buffer answer settings.maxFrameSize with
  | .error _ => []
  | .ok frame =>
      { exchange with resources }.pushCalls cancel (some settings.operationTimeout) frame

variable {σ : Type}

/-- The rounds that a session serves. -/
def dialogue (handler : Handler σ) (remote : SocketAddress) (cancel : CancelToken)
    (frame : Incoming) (state : σ) (exchange : Exchange) : List Round :=
  let reads := exchange.fillCalls cancel exchange.resources.settings.idleTimeout frame
  match _complete :
      exchange.fillFrame cancel exchange.resources.settings.idleTimeout frame with
  | ((.error _, _), _) => [{ reads }]
  | ((.ok (), filled), next) =>
      match filled.frame? with
      | none => [{ reads }]
      | some (header, payload) =>
          let request : Request := { remote, header, payload }
          let (answer, state) := handler request state
          let question : Question := { time := next.link.time, request, answer }
          match _rearmed : filled.rearm with
          | (_, .error _) => [{ reads, question }]
          | (ready, .ok ()) =>
              match answer with
              | none => { reads, question } :: dialogue handler remote cancel ready state next
              | some answer =>
                  { reads, question, writes := respondCalls cancel answer next } ::
                    match _sent : respond cancel answer next with
                    | (.error _, _) => []
                    | (.ok (), last) => dialogue handler remote cancel ready state last
termination_by rounds frame exchange
decreasing_by
  · exact rounds_decrease _complete _rearmed (Nat.le_refl _)
  · have sent := unread_respond cancel answer next
    rw [_sent] at sent
    exact rounds_decrease _complete _rearmed sent

theorem dialogue_eq (handler : Handler σ) (remote : SocketAddress) (cancel : CancelToken)
    (frame : Incoming) (state : σ) (exchange : Exchange) :
    dialogue handler remote cancel frame state exchange =
      let reads := exchange.fillCalls cancel exchange.resources.settings.idleTimeout frame
      match exchange.fillFrame cancel exchange.resources.settings.idleTimeout frame with
      | ((.error _, _), _) => [{ reads }]
      | ((.ok (), filled), next) =>
          match filled.frame? with
          | none => [{ reads }]
          | some (header, payload) =>
              let request : Request := { remote, header, payload }
              let (answer, state) := handler request state
              let question : Question := { time := next.link.time, request, answer }
              match filled.rearm with
              | (_, .error _) => [{ reads, question }]
              | (ready, .ok ()) =>
                  match answer with
                  | none => { reads, question } :: dialogue handler remote cancel ready state next
                  | some answer =>
                      { reads, question, writes := respondCalls cancel answer next } ::
                        match respond cancel answer next with
                        | (.error _, _) => []
                        | (.ok (), last) => dialogue handler remote cancel ready state last := by
  rw [dialogue]
  split <;> rename_i ended <;> rw [ended]
  dsimp only
  split
  · rfl
  · split <;> rename_i rearmed <;> rw [rearmed]
    dsimp only
    split
    · rfl
    · split <;> rename_i sent <;> rw [sent]

theorem serve_eq (handler : Handler σ) (remote : SocketAddress) (cancel : CancelToken)
    (frame : Incoming) (state : σ) (exchange : Exchange) :
    serve handler remote cancel frame state exchange =
      match exchange.fillFrame cancel exchange.resources.settings.idleTimeout frame with
      | ((.error halt, frame), exchange) => { outcome := endOf halt, frame, state, exchange }
      | ((.ok (), filled), next) =>
          match filled.frame? with
          | none =>
              { outcome := .error (.error (.protocolViolation "dispatch without a complete frame"))
                frame := filled, state, exchange := next }
          | some (header, payload) =>
              let (answer, state) := handler { remote, header, payload } state
              match filled.rearm with
              | (ready, .error reason) =>
                  { outcome := .error (.error reason), frame := ready, state, exchange := next }
              | (ready, .ok ()) =>
                  match answer with
                  | none => serve handler remote cancel ready state next
                  | some answer =>
                      match respond cancel answer next with
                      | (.error halt, last) =>
                          { outcome := endOf halt, frame := ready, state, exchange := last }
                      | (.ok (), last) => serve handler remote cancel ready state last := by
  rw [serve]
  split
  · rename_i halt after last ended
    rw [ended]
  · rename_i filled next ended
    rw [ended]
    dsimp only
    cases filled.frame? with
    | none => rfl
    | some shown =>
        dsimp only
        split <;> rename_i rearmed <;> rw [rearmed]
        dsimp only
        cases (handler { remote, header := shown.1, payload := shown.2 } state).1 with
        | none => rfl
        | some answer =>
            dsimp only
            split <;> rename_i sent <;> rw [sent]

variable {settings : Settings} {exchange : Exchange}

structure Read (link : Link) (reads : List SocketCall) (next : Link) : Prop where
  traced : Traced link reads next
  reading : ∀ call ∈ reads, ∃ room, call.request = .read room

structure Asked (handler : Handler σ) (remote : SocketAddress) (state : σ) (link : Link)
    (reads : List SocketCall) (question : Question) (later : σ) (next : Link) : Prop where
  read : Read link reads next
  running : link.time.cancelled = false
  time : question.time = next.time
  heard : ∃ frame : WireFrame, receivedBy reads = Wire.image frame.payload ∧
    question.request = { remote, header := frame.header, payload := frame.payload }
  handled : handler question.request state = (question.answer, later)

/-- How sending an answer ends, by the calls that were made for it. -/
structure Sending (settings : Settings) (answer : Bytes) (link : Link) (writes : List SocketCall)
    (outcome : Outcome Unit) (next : Link) : Prop where
  traced : Traced link writes next
  writing : ∀ call ∈ writes, (∃ offered, call.request = .write offered) ∨ call.request = .flush
  whole : outcome = .ok () → acceptedBy writes = Wire.image answer
  torn : outcome = .error (.error .connectionClosed) → Outgoing.Torn (Wire.image answer) writes
  balked : (∃ call ∈ writes, call.TakesNothing) →
    outcome = .error (.error .connectionClosed) ∧
      Exchange.Countable (some settings.operationTimeout)
  overstates : ∀ halt, outcome = .error halt → halt.Violates → ∃ call ∈ writes, call.Overstates

/-- The rounds that lead a session from a state of its handler and a link to its end. -/
inductive Spoken (settings : Settings) (handler : Handler σ) (remote : SocketAddress) :
    σ → Link → List Round → Outcome SessionEnd → σ → Link → Prop
  | unheard {state : σ} {link next : Link} {reads : List SocketCall} {halt : Halt}
      (read : Read link reads next)
      (lawful : ¬ halt.Violates)
      (closed : halt = .error .connectionClosed → receivedBy reads = []) :
      Spoken settings handler remote state link [{ reads }] (endOf halt) state next
  | silent {state later final : σ} {link next last : Link} {reads : List SocketCall}
      {question : Question} {rounds : List Round} {outcome : Outcome SessionEnd}
      (asked : Asked handler remote state link reads question later next)
      (silence : question.answer = none)
      (rest : Spoken settings handler remote later next rounds outcome final last) :
      Spoken settings handler remote state link ({ reads, question } :: rounds) outcome final last
  | unanswered {state later : σ} {link next last : Link} {reads writes : List SocketCall}
      {question : Question} {answer : Bytes} {halt : Halt}
      (asked : Asked handler remote state link reads question later next)
      (spoken : question.answer = some answer)
      (sending : Sending settings answer next writes (.error halt) last) :
      Spoken settings handler remote state link [{ reads, question, writes }] (endOf halt) later last
  | answered {state later final : σ} {link next middle last : Link}
      {reads writes : List SocketCall} {question : Question} {answer : Bytes}
      {rounds : List Round} {outcome : Outcome SessionEnd}
      (asked : Asked handler remote state link reads question later next)
      (spoken : question.answer = some answer)
      (sending : Sending settings answer next writes (.ok ()) middle)
      (rest : Spoken settings handler remote later middle rounds outcome final last) :
      Spoken settings handler remote state link ({ reads, question, writes } :: rounds) outcome
        final last

theorem pushFrame_sending (cancel : CancelToken) {frame : Outgoing} {answer : Bytes}
    (whole : frame.Whole) (pending : frame.pending = Wire.image answer)
    (tidy : exchange.Tidy settings) :
    Sending settings answer exchange.link
      (exchange.pushCalls cancel (some settings.operationTimeout) frame)
      (exchange.pushFrame cancel (some settings.operationTimeout) frame).1.1
      (exchange.pushFrame cancel (some settings.operationTimeout) frame).2.link := by
  have traced := exchange.pushFrame_traced cancel (some settings.operationTimeout) frame tidy
  have overstates :=
    exchange.pushFrame_overstates cancel (some settings.operationTimeout) whole tidy
  rcases exchange.pushFrame_called cancel (some settings.operationTimeout) frame tidy with
    ⟨-, made, result, -⟩ | ⟨near, made, result, -⟩
  · rw [made] at traced overstates ⊢
    rw [result] at overstates ⊢
    exact
      { traced
        writing := by simp
        whole := by simp
        torn := by simp
        balked := by simp
        overstates }
  · have ends := Exchange.pushFrame_ends cancel whole near tidy
    have writing := frame.writes_pushCalls (Watch.starting
      { operation := .send, deadline := some settings.operationTimeout, cancel := some cancel }
      exchange.link.time.now) exchange.link
    replace made : exchange.pushCalls cancel (some settings.operationTimeout) frame =
      frame.pushCalls (Watch.starting
        { operation := .send, deadline := some settings.operationTimeout, cancel := some cancel }
        exchange.link.time.now) exchange.link := made
    rw [← made] at writing
    generalize exchange.pushCalls cancel (some settings.operationTimeout) frame = writes
      at traced overstates writing ends ⊢
    generalize (exchange.pushFrame cancel (some settings.operationTimeout) frame).1 = pushed
      at overstates ends ⊢
    obtain ⟨outcome, last⟩ := pushed
    constructor
    · exact traced
    · intro call member
      exact (writing call member).2
    · rintro rfl
      exact ends.taken.trans pending
    · rintro rfl
      exact pending ▸ ends.torn
    · intro balked
      exact ⟨ends.connectionClosed balked, near⟩
    · exact overstates

theorem respond_sending (cancel : CancelToken) (answer : Bytes) (tidy : exchange.Tidy settings) :
    Sending settings answer exchange.link (respondCalls cancel answer exchange)
      (respond cancel answer exchange).1 (respond cancel answer exchange).2.link := by
  obtain rfl := tidy.settings
  have lent := tidy.rentBuffer (FrameHeader.size + answer.length)
  by_cases excessive : exchange.resources.settings.maxFrameSize < answer.length ∨
      UInt32.size ≤ answer.length
  · obtain ⟨length, most, refused⟩ := Outgoing.encode_excessive
      (exchange.resources.rentBuffer (FrameHeader.size + answer.length)).1 excessive
    simp only [respondCalls, respond, refused]
    exact
      { traced := .none _
        writing := by simp
        whole := by simp
        torn := by simp
        balked := by simp
        overstates := by
          rintro halt ⟨⟩ violated
          exact violated.elim }
  · obtain ⟨small, fits⟩ : answer.length ≤ exchange.resources.settings.maxFrameSize ∧
        answer.length < UInt32.size := by omega
    obtain ⟨frame, encoded⟩ := Outgoing.encode_ok
      (exchange.resources.rentBuffer (FrameHeader.size + answer.length)).1 small fits
    obtain ⟨whole, -, pending, -⟩ := Outgoing.encode_eq_ok encoded
    simp only [respondCalls, respond, encoded]
    exact pushFrame_sending cancel whole pending lent

theorem fillFrame_read (cancel : CancelToken) (deadline : Option Duration) (frame : Incoming)
    (tidy : exchange.Tidy settings) :
    Read exchange.link (exchange.fillCalls cancel deadline frame)
      (exchange.fillFrame cancel deadline frame).2.link := by
  constructor
  · exact exchange.fillFrame_traced cancel deadline frame tidy
  · intro call member
    rcases exchange.fillFrame_called cancel deadline frame tidy with
      ⟨-, made, -⟩ | ⟨-, made, -⟩ <;> rw [made] at member
    · cases member
    · exact (frame.reads_fillCalls _ _ call member).2

variable {cancel : CancelToken} {deadline : Option Duration} {frame : Incoming} {next : Exchange}

theorem fillFrame_closed {after : Incoming} (holds : frame.Holds [])
    (tidy : exchange.Tidy settings)
    (ended : exchange.fillFrame cancel deadline frame =
      ((.error (.error .connectionClosed), after), next)) :
    receivedBy (exchange.fillCalls cancel deadline frame) = [] := by
  rcases exchange.fillFrame_called cancel deadline frame tidy with
    ⟨-, -, result, -⟩ | ⟨near, -⟩
  · rw [ended] at result
    cases result
  · have ends := Exchange.fillFrame_ends cancel holds near tidy
    rw [ended] at ends
    exact ends.received_eq_nil rfl

theorem fillFrame_whole {filled : Incoming} (holds : frame.Holds [])
    (wants : frame.wantsBytes = true) (tidy : exchange.Tidy settings)
    (ended : exchange.fillFrame cancel deadline frame = ((.ok (), filled), next)) :
    exchange.link.time.cancelled = false ∧
      ∃ (whole : WireFrame) (ready : Incoming),
        receivedBy (exchange.fillCalls cancel deadline frame) = Wire.image whole.payload ∧
        filled.frame? = some (whole.header, whole.payload) ∧
        filled.rearm = (ready, .ok ()) ∧ ready.Holds [] ∧ ready.wantsBytes = true := by
  rcases exchange.fillFrame_called cancel deadline frame tidy with
    ⟨-, -, result, -⟩ | ⟨near, -⟩
  · rw [ended] at result
    cases result
  · constructor
    · cases stopped : exchange.link.time.cancelled with
      | false => rfl
      | true =>
          have refused := Exchange.fillFrame_cancelled cancel frame wants near tidy stopped
          rw [ended] at refused
          cases refused
    · have ends := Exchange.fillFrame_ends cancel holds near tidy
      rw [ended] at ends
      cases ends with
      | filled quiet held idle same =>
          obtain ⟨whole, phase, contents, image, -⟩ := held.ready idle
          obtain ⟨ready, rearmed, empty, again, -⟩ := Incoming.rearm_of_dispatch held.1 phase
          exact ⟨whole, ready, image, Incoming.frame?_of_dispatch phase contents, rearmed, empty,
            again⟩

theorem fillFrame_asked {handler : Handler σ} {remote : SocketAddress} {state later : σ}
    {filled ready : Incoming} {header : FrameHeader} {payload : Bytes} {answer : Option Bytes}
    (holds : frame.Holds []) (wants : frame.wantsBytes = true) (tidy : exchange.Tidy settings)
    (ended : exchange.fillFrame cancel deadline frame = ((.ok (), filled), next))
    (shown : filled.frame? = some (header, payload))
    (handled : handler { remote, header, payload } state = (answer, later))
    (rearmed : filled.rearm = (ready, .ok ())) :
    Asked handler remote state exchange.link (exchange.fillCalls cancel deadline frame)
        { time := next.link.time, request := { remote, header, payload }, answer } later next.link ∧
      ready.Holds [] ∧ ready.wantsBytes = true ∧ next.Tidy settings := by
  have read := fillFrame_read cancel deadline frame tidy
  have clean := (Exchange.fillFrame_tidy cancel deadline frame tidy).2
  rw [ended] at read clean
  obtain ⟨running, whole, other, image, same, again, empty, hungry⟩ :=
    fillFrame_whole holds wants tidy ended
  obtain ⟨rfl, rfl⟩ : header = whole.header ∧ payload = whole.payload := by
    simpa [shown] using same
  obtain rfl : ready = other := by simpa [rearmed] using again
  refine ⟨?_, empty, hungry, clean⟩
  exact
    { read
      running
      time := rfl
      heard := ⟨whole, image, rfl⟩
      handled }

/-- Every session is spoken, round by round, until what has ended it. -/
theorem serve_spoken (handler : Handler σ) (remote : SocketAddress) (cancel : CancelToken)
    {frame : Incoming} (state : σ) (holds : frame.Holds []) (wants : frame.wantsBytes = true)
    (tidy : exchange.Tidy settings) :
    let served := serve handler remote cancel frame state exchange
    Spoken settings handler remote state exchange.link
      (dialogue handler remote cancel frame state exchange) served.outcome served.state
      served.exchange.link := by
  intro served
  -- A session reads, asks and answers along the rounds that it serves.
  fun_induction serve handler remote cancel frame state exchange with
  | case1 frame state exchange halt after next ended =>
      have read := fillFrame_read cancel exchange.resources.settings.idleTimeout frame tidy
      have lawful :=
        Exchange.fillFrame_lawful cancel exchange.resources.settings.idleTimeout holds tidy
      rw [ended] at read lawful
      rw [dialogue_eq, ended]
      apply Spoken.unheard read (lawful halt rfl)
      rintro rfl
      exact fillFrame_closed holds tidy ended
  | case2 frame state exchange after next ended unready =>
      obtain ⟨-, whole, ready, -, shown, -⟩ := fillFrame_whole holds wants tidy ended
      simp [unready] at shown
  | case3 frame state exchange after next ended header payload shown answer later handled ready
      reason refused =>
      obtain ⟨-, whole, ready, -, -, rearmed, -⟩ := fillFrame_whole holds wants tidy ended
      simp [refused] at rearmed
  | case4 frame state exchange after next ended header payload shown later ready rearmed handled
      ih =>
      obtain ⟨asked, empty, hungry, clean⟩ :=
        fillFrame_asked holds wants tidy ended shown handled rearmed
      simp only [dialogue_eq handler remote cancel frame, ended, shown, handled, rearmed]
      exact .silent asked rfl (ih empty hungry clean)
  | case5 frame state exchange after next ended header payload shown later ready rearmed answer
      halt last sent handled =>
      obtain ⟨asked, empty, hungry, clean⟩ :=
        fillFrame_asked holds wants tidy ended shown handled rearmed
      have sending := respond_sending cancel answer clean
      rw [sent] at sending
      simp only [dialogue_eq handler remote cancel frame, ended, shown, handled, rearmed, sent]
      exact .unanswered asked rfl sending
  | case6 frame state exchange after next ended header payload shown later ready rearmed answer
      last sent handled ih =>
      obtain ⟨asked, empty, hungry, clean⟩ :=
        fillFrame_asked holds wants tidy ended shown handled rearmed
      have sending := respond_sending cancel answer clean
      have cleanLast := respond_tidy cancel answer clean
      rw [sent] at sending cleanLast
      simp only [dialogue_eq handler remote cancel frame, ended, shown, handled, rearmed, sent]
      exact .answered asked rfl sending (ih empty hungry cleanLast)

def farewellCalls (outcome : Outcome SessionEnd) (exchange : Exchange) : List SocketCall :=
  let watch : Watch :=
    { operation := .disconnect
      deadline := some exchange.resources.settings.operationTimeout
      cancellable := false
      since := exchange.link.time.now }
  match outcome with
  | .error (.abort _) | .error .stalled => []
  | .ok _ | .error (.error _) => [{ request := .shutdown, watch, link := exchange.link }]

theorem farewellCalls_shutdown (outcome : Outcome SessionEnd) (exchange : Exchange) :
    (farewellCalls outcome exchange).length ≤ 1 ∧
      ∀ call ∈ farewellCalls outcome exchange, call.request = .shutdown := by
  unfold farewellCalls
  dsimp only
  split <;> simp

theorem linked_conclude (outcome : Outcome SessionEnd) (exchange : Exchange) :
    Linked exchange.link (farewellCalls outcome exchange) (conclude outcome exchange).2.link := by
  have one : Linked exchange.link _ (farewell exchange).2.link :=
    .one { request := .shutdown, watch := _, link := exchange.link }
  cases outcome with
  | ok ended =>
      dsimp only [conclude]
      split <;> rename_i parted <;> rw [parted] at one
      · exact one
      · exact one
  | error halt =>
      cases halt with
      | error reason =>
          dsimp only [conclude]
          split <;> rename_i parted <;> rw [parted] at one
          · exact one
          · exact one
      | abort reason => exact .none _
      | stalled => exact .none _

def socketCalls (handler : Handler σ) (session : Session) (state : σ) (exchange : Exchange) :
    List SocketCall :=
  let served := serve handler session.remote session.cancel session.frame state exchange
  (dialogue handler session.remote session.cancel session.frame state exchange).flatMap
      Round.calls ++ farewellCalls served.outcome served.exchange

def questions (handler : Handler σ) (session : Session) (state : σ) (exchange : Exchange) :
    List Question :=
  (dialogue handler session.remote session.cancel session.frame state exchange).filterMap
    (·.question)

/-- The handler has been asked this, one question after the other. -/
inductive Handled (handler : Handler σ) : σ → List Question → σ → Prop
  | none (state : σ) : Handled handler state [] state
  | question {state later final : σ} {question : Question} {questions : List Question}
      (handled : handler question.request state = (question.answer, later))
      (rest : Handled handler later questions final) :
      Handled handler state (question :: questions) final

variable {handler : Handler σ} {remote : SocketAddress} {state final : σ} {link last : Link}
  {rounds : List Round} {outcome : Outcome SessionEnd}

theorem Asked.brings {later : σ} {next : Link} {reads : List SocketCall} {question : Question}
    (asked : Asked handler remote state link reads question later next) :
    receivedBy reads = Wire.image question.request.payload := by
  obtain ⟨frame, received, request⟩ := asked.heard
  rw [received, request]

theorem Spoken.handled (spoken : Spoken settings handler remote state link rounds outcome final last) :
    Handled handler state (rounds.filterMap (·.question)) final := by
  induction spoken with
  | unheard read lawful closed => exact .none _
  | silent asked silence rest ih => exact .question asked.handled ih
  | unanswered asked spoken sending => exact .question asked.handled (.none _)
  | answered asked spoken sending rest ih => exact .question asked.handled ih

theorem Spoken.traced (spoken : Spoken settings handler remote state link rounds outcome final last) :
    Traced link (rounds.flatMap Round.calls) last := by
  induction spoken with
  | unheard read lawful closed => simpa [Round.calls] using read.traced
  | silent asked silence rest ih => simpa [Round.calls] using asked.read.traced.append ih
  | unanswered asked spoken sending =>
      simpa [Round.calls] using asked.read.traced.append sending.traced
  | answered asked spoken sending rest ih =>
      simpa [Round.calls] using (asked.read.traced.append sending.traced).append ih

theorem Spoken.not_shutdown
    (spoken : Spoken settings handler remote state link rounds outcome final last) :
    ∀ call ∈ rounds.flatMap Round.calls, call.request ≠ .shutdown := by
  have reading {link next : Link} {reads : List SocketCall} (read : Read link reads next) :
      ∀ call ∈ reads, call.request ≠ .shutdown := by
    intro call member
    obtain ⟨room, asked⟩ := read.reading call member
    simp [asked]
  have writing {answer : Bytes} {link next : Link} {writes : List SocketCall}
      {outcome : Outcome Unit} (sending : Sending settings answer link writes outcome next) :
      ∀ call ∈ writes, call.request ≠ .shutdown := by
    intro call member
    rcases sending.writing call member with ⟨offered, asked⟩ | asked
    · simp [asked]
    · simp [asked]
  induction spoken with
  | unheard read lawful closed => simpa [Round.calls] using reading read
  | silent asked silence rest ih =>
      simp only [List.flatMap_cons, Round.calls, List.forall_mem_append]
      exact ⟨⟨reading asked.read, by simp⟩, ih⟩
  | unanswered asked spoken sending =>
      simp only [List.flatMap_cons, Round.calls, List.forall_mem_append, List.flatMap_nil]
      exact ⟨⟨reading asked.read, writing sending⟩, by simp⟩
  | answered asked spoken sending rest ih =>
      simp only [List.flatMap_cons, Round.calls, List.forall_mem_append]
      exact ⟨⟨reading asked.read, writing sending⟩, ih⟩

/-- A session that starts on tidy resources is spoken in rounds, and then concluded. -/
theorem start_spoken (handler : Handler σ) (state : σ) (remote : SocketAddress)
    (cancel : CancelToken) (resources : Resources) (link : Link) (tidy : resources.Tidy) :
    let session := (start remote cancel resources).1
    let exchange : Exchange := { resources := (start remote cancel resources).2, link }
    let ended := run handler session state exchange
    ∃ rounds outcome last,
      rounds = dialogue handler remote cancel session.frame state exchange ∧
      Spoken resources.settings handler remote state link rounds outcome ended.2.1 last.link ∧
      last.Tidy resources.settings ∧
      socketCalls handler session state exchange =
        rounds.flatMap Round.calls ++ farewellCalls outcome last ∧
      ended.1 = (conclude outcome last).1 ∧ ended.2.2.link = (conclude outcome last).2.link := by
  intro session exchange ended
  have holds := Incoming.holds_start (resources.rentBuffer resources.settings.bufferCapacity).1
    resources.settings.maxFrameSize
  have lent : exchange.Tidy resources.settings :=
    ⟨tidy.rentBuffer resources.settings.bufferCapacity, rfl⟩
  have spoken := serve_spoken handler remote cancel state holds rfl lent
  have clean := serve_tidy handler remote cancel session.frame state lent
  exact ⟨_, _, _, rfl, spoken, clean, rfl, rfl, rfl⟩

end Session

end FramedTransport
