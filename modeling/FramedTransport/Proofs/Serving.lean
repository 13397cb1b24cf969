import FramedTransport.Proofs.Operations
import FramedTransport.Stream.Session

/-!
What a session does for its peer, from the first byte to the last.
It asks its handler about every whole frame of its input, in order and once,
writes the answers as frames in the same order, and ends as the reference does
that reads the same input. How the input arrives and how the answers are taken
makes no difference, as long as nothing from outside ends the session.
-/

namespace FramedTransport

variable {σ : Type}

/-- A handler's answers to some frames, and the state that they leave it in. -/
def Handler.converse (handler : Handler σ) (remote : SocketAddress) :
    List WireFrame → σ → List (Option Bytes) × σ
  | [], state => ([], state)
  | frame :: rest, state =>
      let (answer, next) := handler { remote, header := frame.header, payload := frame.payload } state
      let (answers, last) := Handler.converse handler remote rest next
      (answer :: answers, last)

/-- The frames of all answers that are not silence. -/
def Wire.answered (answers : List (Option Bytes)) : Bytes :=
  (answers.filterMap id).flatMap Wire.image

theorem Wire.answered_cons (answer : Option Bytes) (answers : List (Option Bytes)) :
    Wire.answered (answer :: answers) = Wire.answered [answer] ++ Wire.answered answers := by
  cases answer <;> simp [Wire.answered]

theorem Handler.converse_cons {handler : Handler σ} {remote : SocketAddress} {frame : WireFrame}
    {state later : σ} {answer : Option Bytes}
    (handled : handler { remote, header := frame.header, payload := frame.payload } state =
      (answer, later)) (rest : List WireFrame) :
    handler.converse remote (frame :: rest) state =
      (answer :: (handler.converse remote rest later).1,
        (handler.converse remote rest later).2) := by
  simp only [Handler.converse, handled]

namespace Session

/-- The session has not been ended from outside. -/
def Undisturbed : Outcome SessionEnd → Prop
  | .ok .cancelled => False
  | .error (.error reason) => reason.disturbs = false
  | _ => True

theorem undisturbed_endOf (reason : TransportError) :
    Undisturbed (endOf (.error reason)) ↔ reason.disturbs = false := by
  cases reason <;> simp [endOf, Undisturbed, TransportError.disturbs]

def Sendable (limit : Nat) (answers : List (Option Bytes)) : Prop :=
  ∀ answer, some answer ∈ answers → answer.length ≤ limit ∧ answer.length < UInt32.size

variable {settings : Settings} {exchange : Exchange}

/-- How reading a frame ends: the reference has one more frame in front of what is left and the
session is ready for the next, or it has none, or something outside has cut the reading short. -/
def Heard (frame : Incoming) (link : Link) : Outcome Unit × Incoming → Link → Prop
  | (.ok (), filled), next =>
      ∃ (whole : WireFrame) (ready : Incoming),
        filled.frame? = some (whole.header, whole.payload) ∧
          filled.rearm = (ready, .ok ()) ∧ ready.Holds [] ∧
          ready.maxPayload = frame.maxPayload ∧
          Wire.parse frame.maxPayload link.input =
            (Wire.parse frame.maxPayload next.input).after whole
  | (.error halt, _), _ =>
      ∃ reason, halt = .error reason ∧
        (reason.disturbs = true ∨
          ∃ ending, Wire.parse frame.maxPayload link.input = { frames := [], ending } ∧
            reason = ending.reason frame.maxPayload)

theorem Heard.round {frame filled ready : Incoming} {link next : Link} {header : FrameHeader}
    {payload : Bytes} (heard : Heard frame link (.ok (), filled) next)
    (shown : filled.frame? = some (header, payload)) (rearmed : filled.rearm = (ready, .ok ())) :
    ∃ whole : WireFrame, header = whole.header ∧ payload = whole.payload ∧ ready.Holds [] ∧
      ready.maxPayload = frame.maxPayload ∧
      Wire.parse frame.maxPayload link.input =
        (Wire.parse frame.maxPayload next.input).after whole := by
  obtain ⟨whole, other, same, again, empty, limit, parsed⟩ := heard
  obtain ⟨rfl, rfl⟩ : header = whole.header ∧ payload = whole.payload := by
    simpa [shown] using same
  obtain rfl : ready = other := by simpa [rearmed] using again
  exact ⟨whole, rfl, rfl, empty, limit, parsed⟩

theorem fill_heard {frame : Incoming} (holds : frame.Holds []) (watch : Watch) {link : Link}
    (moves : link.reads.Moves) :
    Heard frame link (frame.fill watch link).1 (frame.fill watch link).2 := by
  obtain ⟨got, -, filled⟩ := Incoming.fill_spec holds watch link
  cases outcome : (frame.fill watch link).1 with
  | mk result after =>
      rw [outcome] at filled
      cases result with
      | ok value =>
          obtain ⟨held, idle, limit, input⟩ := filled
          obtain ⟨whole, phase, contents, image, fits⟩ := held.ready idle
          rw [List.nil_append] at image
          obtain ⟨ready, rearmed, empty, -, same⟩ := Incoming.rearm_of_dispatch held.1 phase
          refine ⟨whole, ready, Incoming.frame?_of_dispatch phase contents, rearmed, empty,
            same.trans limit, ?_⟩
          rw [input, image]
          exact Wire.parse_image whole (limit ▸ fits) _
      | error halt =>
          cases halt with
          | error reason =>
              refine ⟨reason, rfl, ?_⟩
              rcases filled with ⟨disturbed, -⟩ | ended
              · exact Or.inl disturbed
              · exact Or.inr ended
          | abort reason => exact filled.elim
          | stalled => exact absurd moves filled

theorem fillFrame_heard (cancel : CancelToken) {frame : Incoming} (holds : frame.Holds [])
    (tidy : exchange.Tidy settings) (countable : Exchange.Countable settings.idleTimeout)
    (moves : exchange.link.reads.Moves) :
    Heard frame exchange.link
        (exchange.fillFrame cancel exchange.resources.settings.idleTimeout frame).1
        (exchange.fillFrame cancel exchange.resources.settings.idleTimeout frame).2.link ∧
      (exchange.fillFrame cancel exchange.resources.settings.idleTimeout frame).2.link.outlet =
        exchange.link.outlet ∧
      (exchange.fillFrame cancel
        exchange.resources.settings.idleTimeout frame).2.link.reads.Moves ∧
      (exchange.fillFrame cancel exchange.resources.settings.idleTimeout frame).2.Tidy
        settings := by
  obtain rfl := tidy.settings
  obtain ⟨runs, after⟩ := Exchange.fillFrame_tidy cancel
    exchange.resources.settings.idleTimeout frame tidy
  obtain ⟨watch, -, -, ran⟩ := runs countable
  have heard := fill_heard holds watch moves
  have outlet := Incoming.outlet_fill watch frame exchange.link
  have still := Incoming.moves_fill watch frame moves
  rw [show frame.fill watch exchange.link = _ from ran] at heard outlet still
  exact ⟨heard, outlet, still, after⟩

def Responded (answer : Bytes) (link : Link) : Outcome Unit → Link → Prop
  | .ok (), next => next.written = link.written ++ Wire.image answer
  | .error halt, _ => halt.Outside ∧ halt ≠ .stalled

theorem respond_responded (cancel : CancelToken) {answer : Bytes} (tidy : exchange.Tidy settings)
    (willing : exchange.link.Willing) (countable : settings.operationTimeout.seconds < Watch.horizon)
    (small : answer.length ≤ settings.maxFrameSize) (fits : answer.length < UInt32.size) :
    Responded answer exchange.link (respond cancel answer exchange).1
        (respond cancel answer exchange).2.link ∧
      (respond cancel answer exchange).2.link.reads = exchange.link.reads ∧
      (respond cancel answer exchange).2.link.Willing ∧
      (respond cancel answer exchange).2.Tidy settings := by
  obtain rfl := tidy.settings
  have lent := tidy.rentBuffer (FrameHeader.size + answer.length)
  obtain ⟨frame, encoded⟩ := Outgoing.encode_ok
    (exchange.resources.rentBuffer (FrameHeader.size + answer.length)).1 small fits
  obtain ⟨whole, fresh, pending, -⟩ := Outgoing.encode_eq_ok encoded
  obtain ⟨runs, after⟩ := Exchange.pushFrame_tidy cancel
    (some exchange.resources.settings.operationTimeout) frame lent
  obtain ⟨watch, deadline, counted, ran⟩ := runs (by simpa [Exchange.Countable] using countable)
  have writes := Outgoing.writes_push watch frame exchange.link
  have reads := Outgoing.reads_push watch frame exchange.link
  have outside := fun halt => @Outgoing.push_outside frame whole watch exchange.link willing halt
  simp only [respond, encoded]
  cases ended : Exchange.pushFrame cancel
      (some exchange.resources.settings.operationTimeout) frame
      { exchange with
        resources := (exchange.resources.rentBuffer (FrameHeader.size + answer.length)).2 } with
  | mk pushed next =>
      obtain ⟨outcome, pushed⟩ := pushed
      rw [ended] at ran after
      rw [show frame.push watch exchange.link = ((outcome, pushed), next.link) from ran]
        at writes reads outside
      refine ⟨?_, reads, willing.of_suffix writes, after.giveBackBuffer _⟩
      cases outcome with
      | ok value =>
          obtain ⟨torn, -, written, -, -, complete⟩ := Exchange.pushed_frame whole fresh pending
            willing.sincere (Or.inr ⟨watch, deadline, counted, ran⟩)
          rw [(complete rfl).1] at written
          exact written
      | error halt =>
          obtain ⟨disturbed, stalled⟩ := outside halt rfl
          refine ⟨disturbed, ?_⟩
          intro never
          exact Exchange.dueAt_ne_none deadline counted (stalled never)

/-- A session has done for `input` what the reference asks of it. -/
structure Followed (handler : Handler σ) (remote : SocketAddress) (limit : Nat)
    (input written : Bytes) (state : σ) (served : Served σ) : Prop where
  outcome : served.outcome = endOf (.error ((Wire.parse limit input).ending.reason limit))
  last : served.state = (handler.converse remote (Wire.parse limit input).frames state).2
  written : served.exchange.link.written = written ++
    Wire.answered (handler.converse remote (Wire.parse limit input).frames state).1

/-- A session that has answered one frame goes on as if its input began behind it. -/
theorem Followed.after_frame {handler : Handler σ} {remote : SocketAddress} {limit : Nat}
    {input rest written middle : Bytes} {state later : σ} {served : Served σ}
    {answer : Option Bytes} {frame : WireFrame}
    (followed : Followed handler remote limit rest middle later served)
    (parsed : Wire.parse limit input = (Wire.parse limit rest).after frame)
    (handled : handler { remote, header := frame.header, payload := frame.payload } state =
      (answer, later))
    (sent : middle = written ++ Wire.answered [answer]) :
    Followed handler remote limit input written state served := by
  have spoken := Handler.converse_cons handled (Wire.parse limit rest).frames
  constructor
  · rw [parsed]
    exact followed.outcome
  · rw [parsed, Wire.Parsed.after, spoken]
    exact followed.last
  · rw [parsed, Wire.Parsed.after, spoken, Wire.answered_cons, ← List.append_assoc, ← sent]
    exact followed.written

theorem Sendable.after_frame {handler : Handler σ} {remote : SocketAddress} {limit : Nat}
    {input rest : Bytes} {state later : σ} {answer : Option Bytes} {frame : WireFrame}
    (sendable : Sendable limit
      (handler.converse remote (Wire.parse limit input).frames state).1)
    (parsed : Wire.parse limit input = (Wire.parse limit rest).after frame)
    (handled : handler { remote, header := frame.header, payload := frame.payload } state =
      (answer, later)) :
    Sendable limit [answer] ∧
      Sendable limit (handler.converse remote (Wire.parse limit rest).frames later).1 := by
  rw [parsed, Wire.Parsed.after, Handler.converse_cons handled] at sendable
  constructor
  · intro bytes member
    exact sendable bytes (List.mem_cons.2 (Or.inl (List.mem_singleton.1 member)))
  · intro bytes member
    exact sendable bytes (List.mem_cons_of_mem _ member)

theorem serve_follows {handler : Handler σ} {remote : SocketAddress} {cancel : CancelToken}
    {frame : Incoming} {state : σ} (holds : frame.Holds [])
    (limit : frame.maxPayload = settings.maxFrameSize) (tidy : exchange.Tidy settings)
    (idle : Exchange.Countable settings.idleTimeout)
    (operation : settings.operationTimeout.seconds < Watch.horizon)
    (moves : exchange.link.reads.Moves) (willing : exchange.link.Willing)
    (sendable : Sendable settings.maxFrameSize (handler.converse remote
      (Wire.parse settings.maxFrameSize exchange.link.input).frames state).1)
    (undisturbed : Undisturbed (serve handler remote cancel frame state exchange).outcome) :
    Followed handler remote settings.maxFrameSize exchange.link.input exchange.link.written state
      (serve handler remote cancel frame state exchange) := by
  fun_induction serve handler remote cancel frame state exchange with
  | case1 frame state exchange halt filled next ended =>
      obtain ⟨heard, outlet, -⟩ := fillFrame_heard cancel holds tidy idle moves
      rw [ended] at heard outlet
      -- Either something outside has ended the session, which is excluded, or its input has.
      obtain ⟨reason, rfl, disturbed | ⟨ending, parsed, rfl⟩⟩ := heard
      · have quiet := (undisturbed_endOf reason).1 undisturbed
        simp [disturbed] at quiet
      · rw [limit] at parsed ⊢
        constructor
        · rw [parsed]
        · rw [parsed]
          rfl
        · rw [parsed]
          exact (Link.written_of_outlet outlet).1.trans (List.append_nil _).symm
  | case2 frame state exchange filled next ended unready =>
      obtain ⟨heard, -⟩ := fillFrame_heard cancel holds tidy idle moves
      rw [ended] at heard
      obtain ⟨whole, ready, shown, -⟩ := heard
      simp [unready] at shown
  | case3 frame state exchange filled next ended header payload shown answer later handled ready
      reason refused =>
      obtain ⟨heard, -⟩ := fillFrame_heard cancel holds tidy idle moves
      rw [ended] at heard
      obtain ⟨whole, other, -, rearmed, -⟩ := heard
      simp [refused] at rearmed
  | case4 frame state exchange filled next ended header payload shown later ready rearmed handled
      ih =>
      obtain ⟨heard, outlet, still, after⟩ := fillFrame_heard cancel holds tidy idle moves
      rw [ended] at heard outlet still after
      obtain ⟨whole, rfl, rfl, empty, same, parsed⟩ := heard.round shown rearmed
      rw [limit] at same parsed
      obtain ⟨-, rest⟩ := sendable.after_frame parsed handled
      have followed := ih empty same after still (willing.of_outlet outlet) rest undisturbed
      refine followed.after_frame parsed handled ?_
      exact (Link.written_of_outlet outlet).1.trans (List.append_nil _).symm
  | case5 frame state exchange filled next ended header payload shown later ready rearmed answer
      halt last sent handled =>
      obtain ⟨heard, outlet, still, after⟩ := fillFrame_heard cancel holds tidy idle moves
      rw [ended] at heard outlet still after
      obtain ⟨whole, rfl, rfl, -, -, parsed⟩ := heard.round shown rearmed
      rw [limit] at parsed
      obtain ⟨now, -⟩ := sendable.after_frame parsed handled
      obtain ⟨small, fits⟩ := now answer List.mem_cons_self
      obtain ⟨responded, -⟩ := respond_responded cancel after (willing.of_outlet outlet) operation
        small fits
      rw [sent] at responded
      obtain ⟨outside, returned⟩ := responded
      -- The answer fits and the link takes it, so its send was cut short from outside.
      cases halt with
      | error reason =>
          have quiet := (undisturbed_endOf reason).1 undisturbed
          simp [show reason.disturbs = true from outside] at quiet
      | abort reason => exact outside.elim
      | stalled => exact absurd rfl returned
  | case6 frame state exchange filled next ended header payload shown later ready rearmed answer
      last sent handled ih =>
      obtain ⟨heard, outlet, still, after⟩ := fillFrame_heard cancel holds tidy idle moves
      rw [ended] at heard outlet still after
      obtain ⟨whole, rfl, rfl, empty, same, parsed⟩ := heard.round shown rearmed
      rw [limit] at same parsed
      obtain ⟨now, rest⟩ := sendable.after_frame parsed handled
      obtain ⟨small, fits⟩ := now answer List.mem_cons_self
      obtain ⟨responded, reads, ready, clean⟩ := respond_responded cancel after
        (willing.of_outlet outlet) operation small fits
      rw [sent] at responded reads ready clean
      -- Writing leaves the input alone, so the next round begins where this one has stopped.
      have input : last.link.input = next.link.input := by rw [Link.input, reads, ← Link.input]
      rw [← input] at parsed rest
      have followed := ih empty same clean (reads ▸ still) ready rest undisturbed
      refine followed.after_frame parsed handled ?_
      have written : next.link.written = exchange.link.written := (Link.written_of_outlet outlet).1
      simpa [Responded, written, Wire.answered] using responded

theorem respond_tidy (cancel : CancelToken) (answer : Bytes) (tidy : exchange.Tidy settings) :
    (respond cancel answer exchange).2.Tidy settings := by
  have lent := tidy.rentBuffer (FrameHeader.size + answer.length)
  unfold respond
  dsimp only
  split
  · exact lent.giveBackBuffer _
  · rename_i frame encoded
    have after := (Exchange.pushFrame_tidy cancel
      (some exchange.resources.settings.operationTimeout) frame lent).2
    exact after.giveBackBuffer _

theorem serve_tidy (handler : Handler σ) (remote : SocketAddress) (cancel : CancelToken)
    (frame : Incoming) (state : σ) (tidy : exchange.Tidy settings) :
    (serve handler remote cancel frame state exchange).exchange.Tidy settings := by
  have filled (frame : Incoming) {exchange : Exchange} (tidy : exchange.Tidy settings) :=
    (Exchange.fillFrame_tidy cancel exchange.resources.settings.idleTimeout frame tidy).2
  fun_induction serve handler remote cancel frame state exchange with
  | case1 frame state exchange halt after next ended => simpa only [ended] using filled frame tidy
  | case2 frame state exchange after next ended unready =>
      simpa only [ended] using filled frame tidy
  | case3 frame state exchange after next ended header payload shown answer later handled ready
      reason refused => simpa only [ended] using filled frame tidy
  | case4 frame state exchange after next ended header payload shown later ready rearmed handled
      ih =>
      have clean := filled frame tidy
      rw [ended] at clean
      exact ih clean
  | case5 frame state exchange after next ended header payload shown later ready rearmed answer
      halt last sent handled =>
      have clean := filled frame tidy
      rw [ended] at clean
      have responded := respond_tidy cancel answer clean
      rwa [sent] at responded
  | case6 frame state exchange after next ended header payload shown later ready rearmed answer
      last sent handled ih =>
      have clean := filled frame tidy
      rw [ended] at clean
      have responded := respond_tidy cancel answer clean
      rw [sent] at responded
      exact ih responded

theorem conclude_spec (outcome : Outcome SessionEnd) (tidy : exchange.Tidy settings)
    (operation : settings.operationTimeout.seconds < Watch.horizon) :
    (conclude outcome exchange).1 = outcome ∧
      (conclude outcome exchange).2.link.written = exchange.link.written := by
  obtain rfl := tidy.settings
  obtain ⟨written, -, stalled⟩ := Link.shutdown_spec
    { operation := .disconnect
      deadline := some exchange.resources.settings.operationTimeout
      cancellable := false
      since := exchange.link.time.now } exchange.link
  have returned : (farewell exchange).1 ≠ .error .stalled := by
    intro never
    have counted := stalled never
    simp [Watch.dueAt, operation] at counted
  have farewell_written : (farewell exchange).2.link.written = exchange.link.written := written
  unfold conclude
  split
  · exact ⟨rfl, rfl⟩
  · exact ⟨rfl, rfl⟩
  · split
    · rename_i never
      exact absurd (congrArg Prod.fst never) returned
    · rename_i ended
      rw [ended] at farewell_written
      exact ⟨rfl, farewell_written⟩
  · split
    · rename_i never
      exact absurd (congrArg Prod.fst never) returned
    · rename_i ended
      rw [ended] at farewell_written
      exact ⟨rfl, farewell_written⟩

def endingOf (limit : Nat) : Wire.Ending → Outcome SessionEnd
  | .unfinished [] => .ok .peerClosed
  | .unfinished (_ :: _) => .error (.error (.malformedFrame "connection closed mid-frame"))
  | .oversize length => .error (.error (.frameTooLarge length limit))

theorem endOf_reason (limit : Nat) (ending : Wire.Ending) :
    endOf (.error (ending.reason limit)) = endingOf limit ending := by
  cases ending with
  | unfinished held => cases held <;> rfl
  | oversize length => rfl

theorem run_follows {handler : Handler σ} {session : Session} {state : σ}
    (holds : session.frame.Holds []) (limit : session.frame.maxPayload = settings.maxFrameSize)
    (tidy : exchange.Tidy settings) (idle : Exchange.Countable settings.idleTimeout)
    (operation : settings.operationTimeout.seconds < Watch.horizon)
    (moves : exchange.link.reads.Moves) (willing : exchange.link.Willing)
    (sendable : Sendable settings.maxFrameSize (handler.converse session.remote
      (Wire.parse settings.maxFrameSize exchange.link.input).frames state).1)
    (undisturbed : Undisturbed (run handler session state exchange).1) :
    let parsed := Wire.parse settings.maxFrameSize exchange.link.input
    let spoken := handler.converse session.remote parsed.frames state
    let ended := run handler session state exchange
    ended.1 = endingOf settings.maxFrameSize parsed.ending ∧ ended.2.1 = spoken.2 ∧
      ended.2.2.link.written = exchange.link.written ++ Wire.answered spoken.1 := by
  have after := serve_tidy handler session.remote session.cancel session.frame state tidy
  obtain ⟨outcome, written⟩ := conclude_spec
    (serve handler session.remote session.cancel session.frame state exchange).outcome
    after operation
  have followed := serve_follows holds limit tidy idle operation moves willing sendable
    (outcome ▸ undisturbed)
  refine ⟨?_, followed.last, written.trans followed.written⟩
  rw [← endOf_reason, ← followed.outcome]
  exact outcome

/-- However its input arrives and however its answers are taken: a session that nothing from
outside ends has asked its handler once about every whole frame in front of its input, in order,
has written the answers as frames and nothing else, and ends as its input ends. -/
theorem serves_every_frame (handler : Handler σ) (state : σ) (remote : SocketAddress)
    (cancel : CancelToken) (resources : Resources) (link : Link) (tidy : resources.Tidy)
    (idle : Exchange.Countable resources.settings.idleTimeout)
    (operation : resources.settings.operationTimeout.seconds < Watch.horizon)
    (moves : link.reads.Moves) (willing : link.Willing)
    (sendable : Sendable resources.settings.maxFrameSize (handler.converse remote
      (Wire.parse resources.settings.maxFrameSize link.input).frames state).1)
    (undisturbed : Undisturbed (run handler (start remote cancel resources).1 state
      { resources := (start remote cancel resources).2, link }).1) :
    let parsed := Wire.parse resources.settings.maxFrameSize link.input
    let spoken := handler.converse remote parsed.frames state
    let ended := run handler (start remote cancel resources).1 state
      { resources := (start remote cancel resources).2, link }
    ended.1 = endingOf resources.settings.maxFrameSize parsed.ending ∧ ended.2.1 = spoken.2 ∧
      ended.2.2.link.written = link.written ++ Wire.answered spoken.1 := by
  have holds := Incoming.holds_start (resources.rentBuffer resources.settings.bufferCapacity).1
    resources.settings.maxFrameSize
  have lent := tidy.rentBuffer resources.settings.bufferCapacity
  exact @run_follows _ resources.settings _ handler (start remote cancel resources).1 state holds
    rfl ⟨lent, rfl⟩ idle operation moves willing sendable undisturbed

theorem fillFrame_calm (cancel : CancelToken) (deadline : Option Duration) (frame : Incoming)
    (calm : exchange.link.Calm) :
    (exchange.fillFrame cancel deadline frame).2.link.Calm ∧
      ∀ halt, (exchange.fillFrame cancel deadline frame).1.1 = .error halt →
        Undisturbed (endOf halt) := by
  rcases exchange.fillFrame_attempted cancel deadline frame with
    ⟨⟨reason, refused⟩, same⟩ | ⟨watch, -, -, ran⟩
  · rw [refused, same]
    refine ⟨calm, ?_⟩
    rintro halt ⟨⟩
    trivial
  · obtain ⟨still, quiet⟩ := Incoming.fill_calm watch frame calm
    rw [show frame.fill watch exchange.link = _ from ran] at still quiet
    refine ⟨still, ?_⟩
    intro halt failed
    obtain ⟨reason, rfl, undisturbed⟩ := quiet halt failed
    exact (undisturbed_endOf reason).2 undisturbed

theorem respond_calm (cancel : CancelToken) (answer : Bytes) (calm : exchange.link.Calm) :
    (respond cancel answer exchange).2.link.Calm ∧
      ∀ halt, (respond cancel answer exchange).1 = .error halt → Undisturbed (endOf halt) := by
  unfold respond
  dsimp only
  split
  · rename_i reason refused
    refine ⟨calm, ?_⟩
    rintro halt ⟨⟩
    exact (undisturbed_endOf reason).2 (Outgoing.encode_undisturbed refused)
  · rename_i frame encoded
    obtain ⟨whole, -⟩ := Outgoing.encode_eq_ok encoded
    rcases Exchange.pushFrame_attempted cancel
      (some exchange.resources.settings.operationTimeout) frame
      { exchange with
        resources := (exchange.resources.rentBuffer (FrameHeader.size + answer.length)).2 } with
      ⟨⟨reason, refused⟩, same⟩ | ⟨watch, -, -, ran⟩
    · refine ⟨(congrArg Link.Calm same).mpr calm, ?_⟩
      intro halt failed
      cases (congrArg Prod.fst refused).symm.trans failed
      trivial
    · obtain ⟨passed, still⟩ := Outgoing.push_calm whole watch calm
      rw [show frame.push watch exchange.link = _ from ran] at passed still
      refine ⟨still, ?_⟩
      intro halt failed
      cases passed.symm.trans failed

theorem serve_calm (handler : Handler σ) (remote : SocketAddress) (cancel : CancelToken)
    (frame : Incoming) (state : σ) (calm : exchange.link.Calm) :
    Undisturbed (serve handler remote cancel frame state exchange).outcome := by
  have filled (frame : Incoming) {exchange : Exchange} (calm : exchange.link.Calm) :=
    fillFrame_calm cancel exchange.resources.settings.idleTimeout frame calm
  fun_induction serve handler remote cancel frame state exchange with
  | case1 frame state exchange halt after next ended =>
      obtain ⟨-, quiet⟩ := filled frame calm
      exact quiet halt (by rw [ended])
  | case2 frame state exchange after next ended unready => rfl
  | case3 frame state exchange after next ended header payload shown answer later handled ready
      reason refused =>
      unfold Incoming.rearm at refused
      split at refused
      · cases refused
      · cases refused
        rfl
  | case4 frame state exchange after next ended header payload shown later ready rearmed handled
      ih =>
      obtain ⟨still, -⟩ := filled frame calm
      rw [ended] at still
      exact ih still
  | case5 frame state exchange after next ended header payload shown later ready rearmed answer
      halt last sent handled =>
      obtain ⟨still, -⟩ := filled frame calm
      rw [ended] at still
      obtain ⟨-, quiet⟩ := respond_calm cancel answer still
      exact quiet halt (by rw [sent])
  | case6 frame state exchange after next ended header payload shown later ready rearmed answer
      last sent handled ih =>
      obtain ⟨still, -⟩ := filled frame calm
      rw [ended] at still
      obtain ⟨responded, -⟩ := respond_calm cancel answer still
      rw [sent] at responded
      exact ih responded

theorem run_calm (handler : Handler σ) (session : Session) (state : σ)
    (calm : exchange.link.Calm) : Undisturbed (run handler session state exchange).1 := by
  have served := serve_calm handler session.remote session.cancel session.frame state calm
  unfold run conclude
  dsimp only
  split
  · exact served
  · exact served
  · split
    · trivial
    · exact served
  · split
    · trivial
    · exact served

def oneRequest : Link where
  reads := [{ cue := .act (.data [0, 0, 0, 1]) }, { cue := .act (.data [7]) }]

theorem parse_oneRequest :
    Wire.parse (Resources.ofSettings {}).settings.maxFrameSize oneRequest.input =
      { frames := [⟨[7], by decide⟩], ending := .unfinished [] } := by
  have input : oneRequest.input = Wire.image [7] ++ [] := rfl
  rw [input, Wire.parse_image ⟨[7], by decide⟩ (by decide) [], Wire.parse_short _ (by decide)]
  rfl

def twice : Handler Nat := fun request asked =>
  (some (request.payload ++ request.payload), asked + 1)

theorem oneRequest_serves_every_frame :
    let ended := run twice (start ⟨IpAddress.loopback, 80, 0⟩ ⟨[]⟩ (Resources.ofSettings {})).1 0
      { resources := (start ⟨IpAddress.loopback, 80, 0⟩ ⟨[]⟩ (Resources.ofSettings {})).2
        link := oneRequest }
    ended.1 = .ok .peerClosed ∧ ended.2.1 = 1 ∧
      ended.2.2.link.written = [0, 0, 0, 2, 7, 7] := by
  have calm : oneRequest.Calm :=
    { running := rfl
      reads := by simp [oneRequest, Script.Calm]
      writes := by simp [oneRequest, Script.Calm]
      flushes := by simp [oneRequest, Script.Calm] }
  have sendable : Sendable (Resources.ofSettings {}).settings.maxFrameSize
      (twice.converse ⟨IpAddress.loopback, 80, 0⟩
        (Wire.parse (Resources.ofSettings {}).settings.maxFrameSize oneRequest.input).frames
        0).1 := by
    rw [parse_oneRequest]
    intro answer member
    obtain rfl : answer = [7, 7] := by simpa [Handler.converse, twice] using member
    decide
  have law := serves_every_frame twice 0 ⟨IpAddress.loopback, 80, 0⟩ ⟨[]⟩
    (Resources.ofSettings {}) oneRequest (Resources.tidy_ofSettings {})
    (by simp [Exchange.Countable, Resources.ofSettings]) (by decide) calm.reads.moves calm.willing
    sendable (run_calm _ _ _ calm)
  rw [parse_oneRequest] at law
  exact law

end Session

end FramedTransport
