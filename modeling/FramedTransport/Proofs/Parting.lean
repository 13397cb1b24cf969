import FramedTransport.Proofs.Dialogue
import Mathlib.Tactic

/-!
How a session parts from a peer that has closed its side.
It has then read whole frames and nothing else, and all its answers have been taken whole,
with one exception: a write that takes nothing is the departure of the peer as well, and it
leaves the answer that was being written torn.
-/

namespace FramedTransport

open SocketCall

/-- No write claims more than it takes. -/
def Link.Faithful (link : Link) : Prop :=
  ∀ surplus, WriteAction.overstate surplus ∉ link.writes.actions

namespace SocketCall

variable {link last : Link} {calls : List SocketCall}

theorem written_next {call : SocketCall} (faithful : call.link.Faithful) :
    call.next.written = call.link.written ++ call.accepted := by
  obtain ⟨request, watch, link⟩ := call
  cases request with
  | read room =>
      obtain ⟨same, -⟩ := Link.written_of_outlet (Link.outlet_read watch room link)
      exact same.trans (List.append_nil _).symm
  | write offered =>
      have write := Link.write_spec watch offered link
      cases ended : link.write watch offered with
      | mk outcome after =>
          rw [ended] at write
          cases outcome with
          | ok count =>
              simp only [next, accepted, ended]
              rcases write with ⟨taken, -⟩ | ⟨-, surplus, claimed, -⟩
              · exact taken
              · exact absurd claimed (faithful surplus)
          | error halt =>
              simp only [next, accepted, ended]
              exact write.1.trans (List.append_nil _).symm
  | flush =>
      obtain ⟨same, -⟩ := Link.flush_spec watch link
      exact same.trans (List.append_nil _).symm
  | shutdown =>
      obtain ⟨same, -⟩ := Link.shutdown_spec watch link
      exact same.trans (List.append_nil _).symm

theorem Linked.written (linked : Linked link calls last) (faithful : link.Faithful) :
    last.written = link.written ++ acceptedBy calls := by
  induction linked with
  | none link => simp
  | call call later ih =>
      have still : call.next.Faithful := fun surplus claimed =>
        faithful surplus ((Script.actions_suffix call.writes_next).subset claimed)
      rw [ih still, written_next faithful, acceptedBy_cons, List.append_assoc]

end SocketCall

namespace Session

variable {σ : Type} {settings : Settings} {handler : Handler σ} {remote : SocketAddress}
  {state final : σ} {link last : Link} {rounds : List Round} {outcome : Outcome SessionEnd}

def heard (questions : List Question) : Bytes :=
  questions.flatMap fun question => Wire.image question.request.payload

def replies (questions : List Question) : Bytes := Wire.answered (questions.map (·.answer))

theorem replies_cons (question : Question) (questions : List Question) :
    replies (question :: questions) = question.answer.elim [] Wire.image ++ replies questions := by
  cases answer : question.answer <;> simp [replies, Wire.answered, answer]

/-- All answers have been taken whole but the last, and of that one only a beginning. -/
def TornAtEnd (questions : List Question) (taken : Bytes) : Prop :=
  ∃ before question answer part, questions = before ++ [question] ∧
    question.answer = some answer ∧ taken = replies before ++ part ∧
    part <+: Wire.image answer ∧ part ≠ Wire.image answer

theorem TornAtEnd.after {questions : List Question} {taken : Bytes} {question : Question}
    {answer : Option Bytes} (given : question.answer = answer) (torn : TornAtEnd questions taken) :
    TornAtEnd (question :: questions) (answer.elim [] Wire.image ++ taken) := by
  obtain ⟨before, last, spoken, part, rfl, answered, rfl, short⟩ := torn
  refine ⟨question :: before, last, spoken, part, rfl, answered, ?_, short⟩
  rw [replies_cons, given, List.append_assoc]

variable {next : Link} {reads writes : List SocketCall}

theorem Read.takes (read : Read link reads next) :
    acceptedBy reads = [] ∧ ∀ call ∈ reads, ¬ call.TakesNothing := by
  constructor
  · apply List.flatMap_eq_nil_iff.2
    intro call member
    obtain ⟨room, asked⟩ := read.reading call member
    simp [accepted, asked]
  · rintro call member ⟨offered, asked, -⟩
    obtain ⟨room, reading⟩ := read.reading call member
    simp [asked] at reading

theorem Sending.brings {answer : Bytes} {sent : Outcome Unit}
    (sending : Sending settings answer link writes sent next) : receivedBy writes = [] := by
  apply List.flatMap_eq_nil_iff.2
  intro call member
  rcases sending.writing call member with ⟨offered, asked⟩ | asked
  · simp [received, asked]
  · simp [received, asked]

theorem endOf_eq_peerClosed {halt : Halt} :
    endOf halt = .ok .peerClosed ↔ halt = .error .connectionClosed := by
  unfold endOf
  split <;> simp_all

/-- A peer whose departure is seen between two frames has taken every answer whole, unless a write
has taken nothing. -/
theorem Spoken.clean
    (spoken : Spoken settings handler remote state link rounds outcome final last)
    (busy : ∀ call ∈ rounds.flatMap Round.calls, ¬ call.TakesNothing)
    (closed : outcome = .ok .peerClosed) :
    receivedBy (rounds.flatMap Round.calls) = heard (rounds.filterMap (·.question)) ∧
      acceptedBy (rounds.flatMap Round.calls) = replies (rounds.filterMap (·.question)) := by
  induction spoken with
  | unheard read lawful nothing =>
      have empty := nothing (endOf_eq_peerClosed.1 closed)
      simp [Round.calls, heard, replies, Wire.answered, empty, read.takes.1]
  | silent asked silence rest ih =>
      simp only [List.flatMap_cons, List.forall_mem_append] at busy
      obtain ⟨brought, taken⟩ := ih busy.2 closed
      constructor
      · simp [Round.calls, heard, asked.brings, brought]
      · simp [Round.calls, replies_cons, asked.read.takes.1, silence, taken]
  | unanswered asked answered sending =>
      obtain rfl := endOf_eq_peerClosed.1 closed
      obtain ⟨-, -, call, member, idle⟩ := sending.torn rfl
      exact absurd idle (busy call (by simp [Round.calls, member]))
  | answered asked answered sending rest ih =>
      simp only [List.flatMap_cons, List.forall_mem_append] at busy
      obtain ⟨brought, taken⟩ := ih busy.2 closed
      constructor
      · simp [Round.calls, heard, asked.brings, sending.brings, brought]
      · simp [Round.calls, replies_cons, asked.read.takes.1, sending.whole rfl, answered, taken]

theorem Spoken.torn
    (spoken : Spoken settings handler remote state link rounds outcome final last)
    (balked : ∃ call ∈ rounds.flatMap Round.calls, call.TakesNothing) :
    outcome = .ok .peerClosed ∧ Exchange.Countable (some settings.operationTimeout) ∧
      receivedBy (rounds.flatMap Round.calls) = heard (rounds.filterMap (·.question)) ∧
      TornAtEnd (rounds.filterMap (·.question)) (acceptedBy (rounds.flatMap Round.calls)) := by
  obtain ⟨call, member, idle⟩ := balked
  induction spoken with
  | unheard read lawful nothing =>
      exact absurd idle (read.takes.2 call (by simpa [Round.calls] using member))
  | silent asked silence rest ih =>
      obtain ⟨nothing, reading⟩ := asked.read.takes
      simp only [List.flatMap_cons, Round.calls, List.append_nil, List.mem_append] at member
      rcases member with now | later
      · exact absurd idle (reading call now)
      · obtain ⟨closed, near, brought, torn⟩ := ih later
        refine ⟨closed, near, ?_, ?_⟩
        · simp [Round.calls, heard, asked.brings, brought]
        · simpa [Round.calls, nothing] using torn.after silence
  | unanswered asked answered sending =>
      obtain ⟨nothing, reading⟩ := asked.read.takes
      simp only [List.flatMap_cons, List.flatMap_nil, Round.calls, List.append_nil,
        List.mem_append] at member
      rcases member with now | sent
      · exact absurd idle (reading call now)
      · obtain ⟨failed, near⟩ := sending.balked ⟨call, sent, idle⟩
        obtain ⟨part, short, -⟩ := sending.torn failed
        cases failed
        refine ⟨rfl, near, ?_, ?_⟩
        · simp [Round.calls, heard, asked.brings, sending.brings]
        · refine ⟨[], _, _, _, rfl, answered, ?_, part, short⟩
          simp [Round.calls, nothing, replies, Wire.answered]
  | answered asked answered sending rest ih =>
      obtain ⟨nothing, reading⟩ := asked.read.takes
      simp only [List.flatMap_cons, Round.calls, List.mem_append] at member
      rcases member with (now | sent) | later
      · exact absurd idle (reading call now)
      · obtain ⟨failed, -⟩ := sending.balked ⟨call, sent, idle⟩
        cases failed
      · obtain ⟨closed, near, brought, torn⟩ := ih later
        refine ⟨closed, near, ?_, ?_⟩
        · simp [Round.calls, heard, asked.brings, sending.brings, brought]
        · simpa [Round.calls, nothing, sending.whole rfl] using torn.after answered

theorem farewell_silent (outcome : Outcome SessionEnd) (exchange : Exchange) :
    receivedBy (farewellCalls outcome exchange) = [] ∧
      acceptedBy (farewellCalls outcome exchange) = [] ∧
      ∀ call ∈ farewellCalls outcome exchange, ¬ call.TakesNothing := by
  obtain ⟨-, parting⟩ := farewellCalls_shutdown outcome exchange
  refine ⟨?_, ?_, ?_⟩
  · apply List.flatMap_eq_nil_iff.2
    intro call member
    simp [received, parting call member]
  · apply List.flatMap_eq_nil_iff.2
    intro call member
    simp [accepted, parting call member]
  · rintro call member ⟨offered, asked, -⟩
    simp [parting call member] at asked

theorem conclude_peerClosed {exchange : Exchange}
    (closed : (conclude outcome exchange).1 = .ok .peerClosed) : outcome = .ok .peerClosed := by
  unfold conclude at closed
  split at closed
  · cases closed
  · cases closed
  · split at closed
    · cases closed
    · exact closed
  · split at closed
    · cases closed
    · exact closed

/-- If a session ends because its peer has closed, it has read whole frames and nothing else, and the
socket has taken every answer whole, unless a write took nothing. Such a write always ends a session
like this: it has torn the last answer. -/
theorem peerClosed_clean_or_torn (handler : Handler σ) (state : σ) (remote : SocketAddress)
    (cancel : CancelToken) (resources : Resources) (link : Link) (tidy : resources.Tidy) :
    let session := (start remote cancel resources).1
    let exchange : Exchange := { resources := (start remote cancel resources).2, link }
    let calls := socketCalls handler session state exchange
    let questions := questions handler session state exchange
    let ended := run handler session state exchange
    Linked link calls ended.2.2.link ∧
      link.inbound = receivedBy calls ++ ended.2.2.link.inbound ∧
      (link.Faithful → ended.2.2.link.written = link.written ++ acceptedBy calls) ∧
      Handled handler state questions ended.2.1 ∧
      (ended.1 = .ok .peerClosed → (∀ call ∈ calls, ¬ call.TakesNothing) →
        receivedBy calls = heard questions ∧ acceptedBy calls = replies questions) ∧
      ((∃ call ∈ calls, call.TakesNothing) →
        ended.1 = .ok .peerClosed ∧ receivedBy calls = heard questions ∧
          TornAtEnd questions (acceptedBy calls)) := by
  intro session exchange calls questions ended
  obtain ⟨rounds, outcome, last, same, spoken, clean, made, told, parted⟩ :=
    start_spoken handler state remote cancel resources link tidy
  replace made : calls = rounds.flatMap Round.calls ++ farewellCalls outcome last := made
  have asked : questions = rounds.filterMap (·.question) := by rw [same]; rfl
  replace told : ended.1 = (conclude outcome last).1 := told
  replace parted : ended.2.2.link = (conclude outcome last).2.link := parted
  obtain ⟨silent, mute, busy⟩ := farewell_silent outcome last
  have linked : Linked link calls ended.2.2.link := by
    rw [made, parted]
    exact spoken.traced.linked.append (linked_conclude outcome last)
  have brought : receivedBy calls = receivedBy (rounds.flatMap Round.calls) := by
    rw [made, receivedBy_append, silent, List.append_nil]
  have taken : acceptedBy calls = acceptedBy (rounds.flatMap Round.calls) := by
    rw [made, acceptedBy_append, mute, List.append_nil]
  refine ⟨linked, linked.inbound, linked.written, ?_, ?_, ?_⟩
  · rw [asked]
    exact spoken.handled
  · intro closed quiet
    rw [brought, taken, asked]
    apply spoken.clean
    · intro call member
      exact quiet call (made ▸ List.mem_append_left _ member)
    · exact conclude_peerClosed (told ▸ closed)
  · rintro ⟨call, member, idle⟩
    rw [made] at member
    rcases List.mem_append.1 member with early | late
    · obtain ⟨rfl, near, whole, torn⟩ := spoken.torn ⟨call, early, idle⟩
      obtain ⟨kept, -⟩ := conclude_spec (.ok .peerClosed) clean (near _ rfl)
      rw [brought, taken, asked]
      exact ⟨told.trans kept, whole, torn⟩
    · exact absurd idle (busy call late)

def echoing : Handler Unit := fun request state => (some request.payload, state)

def deafRemote : SocketAddress := { ip := IpAddress.loopback, port := 7 }

def deafPeer : Link where
  reads := [{ cue := .act (.data [0, 0, 0, 1, 97]) }]
  writes := [{ cue := .act (.accept 3) }, { cue := .act (.accept 0) }]

def deafSession : Session := (start deafRemote ⟨[0]⟩ (Resources.ofSettings {})).1

def deafExchange : Exchange where
  resources := (start deafRemote ⟨[0]⟩ (Resources.ofSettings {})).2
  link := deafPeer

theorem questions_deafPeer :
    questions echoing deafSession () deafExchange =
      [{ time := {}
         request := { remote := deafRemote, header := ⟨1, by decide⟩, payload := [97] }
         answer := some [97] }] := by
  rw [questions, dialogue_eq]
  cbv

theorem accepted_deafPeer :
    acceptedBy (socketCalls echoing deafSession () deafExchange) = [0, 0, 0] := by
  rw [socketCalls, dialogue_eq, serve_eq]
  cbv

theorem run_deafPeer : (run echoing deafSession () deafExchange).1 = .ok .peerClosed := by
  rw [run, serve_eq]
  cbv

/-- The session of a peer that does not take its answer ends as if nothing were missing. -/
theorem deafPeer_not_clean :
    (run echoing deafSession () deafExchange).1 = .ok .peerClosed ∧
      acceptedBy (socketCalls echoing deafSession () deafExchange) ≠
        replies (questions echoing deafSession () deafExchange) := by
  constructor
  · exact run_deafPeer
  · rw [accepted_deafPeer, questions_deafPeer]
    decide

theorem deafPeer_clean_or_torn :
    receivedBy (socketCalls echoing deafSession () deafExchange) = Wire.image [97] ∧
      TornAtEnd (questions echoing deafSession () deafExchange) [0, 0, 0] := by
  obtain ⟨-, -, -, -, clean, torn⟩ := peerClosed_clean_or_torn echoing () deafRemote ⟨[0]⟩
    (Resources.ofSettings {}) deafPeer (Resources.tidy_ofSettings {})
  have balked : ∃ call ∈ socketCalls echoing deafSession () deafExchange, call.TakesNothing := by
    apply Classical.byContradiction
    intro absent
    have whole : acceptedBy (socketCalls echoing deafSession () deafExchange) =
        replies (questions echoing deafSession () deafExchange) :=
      (clean run_deafPeer fun call member idle => absent ⟨call, member, idle⟩).2
    rw [accepted_deafPeer, questions_deafPeer] at whole
    revert whole
    decide
  obtain ⟨-, brought, torn⟩ := torn balked
  replace brought : receivedBy (socketCalls echoing deafSession () deafExchange) =
      heard (questions echoing deafSession () deafExchange) := brought
  rw [questions_deafPeer] at brought
  exact ⟨brought, accepted_deafPeer ▸ torn⟩

end Session

end FramedTransport
