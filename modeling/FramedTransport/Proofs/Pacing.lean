import FramedTransport.Proofs.Budgets
import FramedTransport.Proofs.Dialogue
import FramedTransport.Proofs.Promptness
import Mathlib.Data.List.Chain

/-!
One deadline for a whole transfer.
However many socket calls a transfer makes and however they are answered, it is over when its
deadline is, counted from its beginning. So a peer that trickles its bytes cannot keep a
session busy: between two questions to its handler there is one answer to send and one frame
to receive, and each of them has its time.
-/

namespace FramedTransport

namespace Exchange

/-- An operation that began at `start` ends no later than its deadline is over, counted in whole
milliseconds; if it times out it does so exactly then, and names the deadline that it was given. -/
structure Timely {β : Type} (operation : Operation) (deadline : Option Duration)
    (start ended : Nat) (outcome : Outcome β) : Prop where
  returns : ∀ span, deadline = some span →
    outcome ≠ .error .stalled ∧ ended ≤ start + span.millisCovering
  timeout : ∀ named after, outcome = .error (.error (.timeout named after)) →
    named = operation ∧ deadline = some after ∧ ended = start + after.millisCovering

variable {β : Type} {deadline : Option Duration}

theorem dueAt_starting (countable : Countable deadline) (operation : Operation)
    (cancel : Option CancelToken) (now : Nat) {span : Duration} (given : deadline = some span) :
    (Watch.starting { operation, deadline, cancel } now).dueAt =
      some (now + span.millisCovering) := by
  have near := countable span given
  simp [Watch.dueAt, Watch.starting, given, near]

theorem timely_of_keeps (countable : Countable deadline) {operation : Operation}
    {cancel : Option CancelToken} {start ended : Nat} {outcome : Outcome β}
    (keeps : (Watch.starting { operation, deadline, cancel } start).Keeps outcome ended) :
    Timely operation deadline start ended outcome := by
  constructor
  · intro span given
    have due := dueAt_starting countable operation cancel start given
    refine ⟨?_, keeps.within _ due⟩
    intro stalled
    rw [keeps.stalled stalled] at due
    cases due
  · intro named after timedOut
    obtain ⟨same, given, reached⟩ := keeps.timeout named after timedOut
    refine ⟨same, given, ?_⟩
    have due := dueAt_starting countable operation cancel start given
    rw [reached] at due
    exact Option.some.inj due

end Exchange

namespace Session

variable {σ : Type} {settings : Settings} {exchange : Exchange} {idle : Duration}

theorem state_serve (handler : Handler σ) (remote : SocketAddress) (cancel : CancelToken)
    (frame : Incoming) (state : σ) (exchange : Exchange) :
    (serve handler remote cancel frame state exchange).state =
      ((dialogue handler remote cancel frame state exchange).filterMap (·.question)).foldl
        (fun state question => (handler question.request state).2) state := by
  fun_induction serve handler remote cancel frame state exchange with
  | case1 frame state exchange halt after next ended =>
      rw [dialogue_eq, ended]
      rfl
  | case2 frame state exchange after next ended unready =>
      simp [dialogue_eq, ended, unready]
  | case3 frame state exchange after next ended header payload shown answer later handled ready
      reason refused =>
      simp [dialogue_eq handler remote cancel frame, ended, shown, handled, refused]
  | case4 frame state exchange after next ended header payload shown later ready rearmed handled
      ih =>
      simp [dialogue_eq handler remote cancel frame, ended, shown, handled, rearmed, ih]
  | case5 frame state exchange after next ended header payload shown later ready rearmed answer
      halt last sent handled =>
      simp [dialogue_eq handler remote cancel frame, ended, shown, handled, rearmed, sent]
  | case6 frame state exchange after next ended header payload shown later ready rearmed answer
      last sent handled ih =>
      simp [dialogue_eq handler remote cancel frame, ended, shown, handled, rearmed, sent, ih]

theorem fill_within (cancel : CancelToken) (frame : Incoming) (tidy : exchange.Tidy settings)
    (limit : settings.idleTimeout = some idle) (near : idle.seconds < Watch.horizon) :
    let filled := exchange.fillFrame cancel exchange.resources.settings.idleTimeout frame
    filled.2.Tidy settings ∧
      filled.2.link.time.now ≤ exchange.link.time.now + idle.millisCovering := by
  intro filled
  refine ⟨(Exchange.fillFrame_tidy cancel _ frame tidy).2, ?_⟩
  have counted : Exchange.Countable (some idle) := by
    rintro span ⟨⟩
    exact near
  simp only [filled, tidy.settings, limit]
  exact ((Exchange.timely_of_keeps counted
    (Exchange.fillFrame_keeps cancel (some idle) frame exchange)).returns idle rfl).2

theorem respond_within (cancel : CancelToken) (answer : Bytes) (tidy : exchange.Tidy settings)
    (near : settings.operationTimeout.seconds < Watch.horizon) :
    let responded := respond cancel answer exchange
    responded.2.Tidy settings ∧
      responded.2.link.time.now ≤
        exchange.link.time.now + settings.operationTimeout.millisCovering := by
  intro responded
  refine ⟨respond_tidy cancel answer tidy, ?_⟩
  have counted : Exchange.Countable (some settings.operationTimeout) := by
    rintro span ⟨⟩
    exact near
  simp only [responded]
  unfold respond
  dsimp only
  split
  · exact Nat.le_add_right _ _
  · rename_i frame encoded
    rw [tidy.settings]
    exact ((Exchange.timely_of_keeps counted
      (Exchange.pushFrame_keeps cancel _ frame _)).returns _ rfl).2

/-- Questions that follow each other closely, the first of them by `first`. -/
def Paced (gap first : Nat) (questions : List Question) : Prop :=
  (∀ question ∈ questions.head?, question.time.now ≤ first) ∧
    questions.IsChain fun question next => next.time.now ≤ question.time.now + gap

theorem Paced.nil (gap first : Nat) : Paced gap first [] := ⟨by simp, .nil⟩

theorem Paced.cons {gap first : Nat} {question : Question} {later : List Question}
    (soon : question.time.now ≤ first) (paced : Paced gap (question.time.now + gap) later) :
    Paced gap first (question :: later) := by
  constructor
  · rintro other ⟨⟩
    exact soon
  · exact paced.2.cons paced.1

theorem Paced.mono {gap first later : Nat} {questions : List Question} (order : first ≤ later)
    (paced : Paced gap first questions) : Paced gap later questions :=
  ⟨fun question member => Nat.le_trans (paced.1 question member) order, paced.2⟩

/-- Between two questions there is at most one answer to send and one frame to receive. -/
theorem dialogue_paced (handler : Handler σ) (remote : SocketAddress) (cancel : CancelToken)
    (frame : Incoming) (state : σ) (tidy : exchange.Tidy settings)
    (limit : settings.idleTimeout = some idle) (near : idle.seconds < Watch.horizon)
    (operation : settings.operationTimeout.seconds < Watch.horizon) :
    Paced (settings.operationTimeout.millisCovering + idle.millisCovering)
      (exchange.link.time.now + idle.millisCovering)
      ((dialogue handler remote cancel frame state exchange).filterMap (·.question)) := by
  -- A session asks along the rounds that it serves, so the induction is over those.
  fun_induction serve handler remote cancel frame state exchange with
  | case1 frame state exchange halt after next ended =>
      rw [dialogue_eq, ended]
      exact .nil _ _
  | case2 frame state exchange after next ended unready =>
      simp only [dialogue_eq, ended, unready]
      exact .nil _ _
  | case3 frame state exchange after next ended header payload shown answer later handled ready
      reason refused =>
      obtain ⟨-, soon⟩ := fill_within cancel frame tidy limit near
      rw [ended] at soon
      simp only [dialogue_eq, ended, shown, refused]
      exact .cons soon (.nil _ _)
  | case4 frame state exchange after next ended header payload shown later ready rearmed handled
      ih =>
      obtain ⟨clean, soon⟩ := fill_within cancel frame tidy limit near
      rw [ended] at clean soon
      simp only [dialogue_eq handler remote cancel frame, ended, shown, rearmed, handled]
      refine .cons soon ((ih clean).mono ?_)
      dsimp only
      omega
  | case5 frame state exchange after next ended header payload shown later ready rearmed answer
      halt last sent handled =>
      obtain ⟨-, soon⟩ := fill_within cancel frame tidy limit near
      rw [ended] at soon
      simp only [dialogue_eq, ended, shown, rearmed, handled, sent]
      exact .cons soon (.nil _ _)
  | case6 frame state exchange after next ended header payload shown later ready rearmed answer
      last sent handled ih =>
      obtain ⟨clean, soon⟩ := fill_within cancel frame tidy limit near
      rw [ended] at clean soon
      obtain ⟨cleanLast, prompt⟩ := respond_within cancel answer clean operation
      rw [sent] at cleanLast prompt
      simp only [dialogue_eq handler remote cancel frame, ended, shown, rearmed, handled, sent]
      refine .cons soon ((ih cleanLast).mono ?_)
      dsimp only at prompt ⊢
      omega

end Session

namespace Exchange

/-- A transfer is over when the deadline that it began with is over, and not before unless something
else ends it; what it gives to each socket call is what is left of that deadline. It succeeds under
every deadline, zero included, if no socket call has to wait. A session therefore never leaves its
handler alone for longer than one answer and one frame may take. -/
theorem transfers_keep_one_deadline (cancel : CancelToken) (remote : SocketAddress)
    (settings : Settings) (exchange : Exchange) (deadline : Option Duration)
    (countable : Countable deadline) :
    (∀ frame : Incoming,
      let ended := exchange.fillFrame cancel deadline frame
      Timely .receive deadline exchange.link.time.now ended.2.link.time.now ended.1.1 ∧
        ∀ held, exchange.Tidy settings → frame.Holds held → frame.Prompt exchange.link →
          ended.1.1 = .ok () ∨ ∃ length, frame.maxPayload < length ∧
            ended.1.1 = .error (.error (.frameTooLarge length frame.maxPayload))) ∧
    (∀ frame : Outgoing,
      let ended := exchange.pushFrame cancel deadline frame
      Timely .send deadline exchange.link.time.now ended.2.link.time.now ended.1.1 ∧
        (exchange.Tidy settings → frame.Whole → exchange.link.Drains frame.pending →
          ended.1.1 = .ok ())) ∧
    (∀ payload : Bytes,
      let ended := exchange.sendAll cancel remote payload deadline
      Timely .send deadline exchange.link.time.now ended.2.link.time.now ended.1 ∧
        (exchange.Tidy settings → exchange.link.Drains payload →
          ∃ delivery, ended.1 = .ok delivery)) ∧
    (∀ maxLength : Nat,
      let ended := exchange.receiveSome cancel remote maxLength deadline
      Timely .receive deadline exchange.link.time.now ended.2.link.time.now ended.1 ∧
        ∀ bytes, exchange.Tidy settings → exchange.link.Offers bytes →
          bytes ≠ [] ∨ maxLength = 0 → ∃ delivery, ended.1 = .ok delivery) ∧
    (∀ (watch : Watch) (link : Link), watch.deadline = deadline → watch.since ≤ link.time.now →
      let budget := Budget.start watch.deadline watch.since
      (∀ frame : Incoming, frame.fillSliced budget watch link = frame.fill watch link) ∧
        ∀ frame : Outgoing, frame.pushSliced budget watch link = frame.push watch link) ∧
    (∀ (σ : Type) (handler : Handler σ) (state : σ) (session : Session) (idle : Duration),
      exchange.Tidy settings → settings.idleTimeout = some idle →
      idle.seconds < Watch.horizon → settings.operationTimeout.seconds < Watch.horizon →
      let questions := Session.questions handler session state exchange
      (session.run handler state exchange).2.1 =
          questions.foldl (fun state question => (handler question.request state).2) state ∧
        questions.IsChain fun question next =>
          next.time.now ≤ question.time.now +
            (settings.operationTimeout.millisCovering + idle.millisCovering)) := by
  refine ⟨?_, ?_, ?_, ?_, ?_, ?_⟩
  · intro frame
    refine ⟨timely_of_keeps countable (fillFrame_keeps cancel deadline frame exchange), ?_⟩
    intro held tidy holds prompt
    exact fillFrame_prompt cancel countable tidy holds prompt
  · intro frame
    refine ⟨timely_of_keeps countable (pushFrame_keeps cancel deadline frame exchange), ?_⟩
    intro tidy whole drains
    exact pushFrame_prompt cancel countable tidy whole drains
  · intro payload
    refine ⟨timely_of_keeps countable (sendAll_keeps cancel remote payload deadline exchange), ?_⟩
    intro tidy drains
    exact sendAll_prompt cancel remote countable tidy drains
  · intro maxLength
    refine ⟨timely_of_keeps countable
      (receiveSome_keeps cancel remote maxLength deadline exchange), ?_⟩
    intro bytes tidy offers present
    exact receiveSome_prompt cancel remote tidy offers present
  · rintro watch link rfl since
    constructor
    · intro frame
      exact Incoming.fillSliced_eq countable frame link since
    · intro frame
      exact Outgoing.pushSliced_eq countable frame link since
  · intro σ handler state session idle tidy limit near operation
    constructor
    · exact Session.state_serve handler session.remote session.cancel session.frame state exchange
    · exact (Session.dialogue_paced handler session.remote session.cancel session.frame state tidy
        limit near operation).2

def impatient : Settings := { idleTimeout := some (.ofMillis 20) }

def readyPeer : Exchange := { resources := Resources.ofSettings impatient, link := {} }

theorem drains_readyPeer : readyPeer.link.Drains [7] := by
  refine .write (by simp) ⟨rfl, .inl ⟨rfl, rfl⟩⟩ (by decide) ?_
  exact .flush ⟨rfl, .inl rfl⟩

theorem readyPeer_transfers_keep_one_deadline :
    let remote : SocketAddress := { ip := IpAddress.loopback, port := 7 }
    let session := (Session.start remote ⟨[0]⟩ readyPeer.resources).1
    let silent : Handler Unit := fun _ _ => (none, ())
    (∃ delivery, (readyPeer.sendAll ⟨[0]⟩ remote [7] (some .zero)).1 = .ok delivery) ∧
      (Session.questions silent session () readyPeer).IsChain
        fun question next => next.time.now ≤ question.time.now + (5000 + 20) := by
  intro remote session silent
  have countable : Countable (some .zero) := by
    rintro span ⟨⟩
    decide
  have tidy : readyPeer.Tidy impatient := ⟨Resources.tidy_ofSettings impatient, rfl⟩
  obtain ⟨-, -, sent, -, -, served⟩ :=
    transfers_keep_one_deadline ⟨[0]⟩ remote impatient readyPeer (some .zero) countable
  refine ⟨(sent [7]).2 tidy drains_readyPeer, ?_⟩
  exact (served Unit silent () session (.ofMillis 20) tidy rfl (by decide) (by decide)).2

end Exchange

end FramedTransport
