import FramedTransport.Proofs.Replenishing
import Mathlib.Data.List.Perm.Basic

/-!
What a datagram server has out.
As long as it has not ended, a server has as many receives issued as it started
with. Each one that waits has a ticket and a buffer, each one that has brought a
frame has its buffer, and so has the one that is being handled; a reply that is
on its way has a ticket and a buffer of its own.
-/

namespace FramedTransport

namespace DatagramServer

variable {σ : Type}

namespace Receive

def tickets : Receive → Nat
  | .waiting _ => 1
  | .met .. | .failed _ => 0

def buffers : Receive → Nat
  | .waiting _ => 1
  | .met _ outcome => lent (outcome.map some)
  | .failed _ => 0

/-- What an issued receive can be, with these datagrams arrived. -/
inductive Fine (limit : Nat) (arrived : List Datagram) : Receive → Prop
  | waiting {signals : Signals} {room : Buffer} (roomy : room.length = limit + 1) :
      Fine limit arrived (.waiting { armed := some signals, lease := some room })
  | met {number : Nat} {datagram : Datagram} {outcome : Outcome Delivery}
      (present : arrived[number]? = some datagram) (judged : datagram.Judged limit outcome) :
      Fine limit arrived (.met number outcome)
  | failed (fault : Fault) : Fine limit arrived (.failed (.error (.transport .receive fault)))
  | cancelled : Fine limit arrived (.failed (.error (.cancelled .receive)))

variable {limit : Nat} {arrived : List Datagram} {receive : Receive}

theorem present_arrive {number : Nat} {datagram : Datagram}
    (present : arrived[number]? = some datagram) (new : Datagram) :
    (arrived ++ [new])[number]? = some datagram :=
  (List.getElem?_append_left (List.getElem?_eq_some_iff.1 present).1).trans present

theorem Fine.arrive (fine : receive.Fine limit arrived) (datagram : Datagram) :
    receive.Fine limit (arrived ++ [datagram]) := by
  cases fine with
  | waiting roomy => exact .waiting roomy
  | met present judged => exact .met (present_arrive present datagram) judged
  | failed fault => exact .failed fault
  | cancelled => exact .cancelled

theorem Fine.afterJoin (fine : receive.Fine limit arrived) (complete : receive.waits = false) :
    (∃ number delivery, receive = .met number (.ok delivery)) ∨
      (receive.buffers = 0 ∧ receive.frame? = none) ∧
        (Stage.afterJoin receive = .selecting ∨ Stage.afterJoin receive = .ended (.ok ())) := by
  cases fine with
  | waiting roomy => cases complete
  | met present judged =>
      cases judged with
      | frame framed payload remote => exact Or.inl ⟨_, _, rfl⟩
      | oversize excess => exact Or.inr ⟨⟨rfl, rfl⟩, Or.inl rfl⟩
      | malformed detail odd => exact Or.inr ⟨⟨rfl, rfl⟩, Or.inl rfl⟩
  | failed fault => exact Or.inr ⟨⟨rfl, rfl⟩, Or.inl rfl⟩
  | cancelled => exact Or.inr ⟨⟨rfl, rfl⟩, Or.inr rfl⟩

def total (weight : Receive → Nat) (receives : List Receive) : Nat := (receives.map weight).sum

theorem total_cons (weight : Receive → Nat) (receive : Receive) (receives : List Receive) :
    total weight (receive :: receives) = weight receive + total weight receives := rfl

theorem total_append_singleton (weight : Receive → Nat) (receives : List Receive)
    (receive : Receive) :
    total weight (receives ++ [receive]) = total weight receives + weight receive := by
  simp [total]

variable {receives : List Receive} {position : Nat}

theorem perm_eraseIdx (there : receives[position]? = some receive) :
    receives.Perm (receive :: receives.eraseIdx position) := by
  obtain ⟨within, same⟩ := List.getElem?_eq_some_iff.1 there
  exact same ▸ (List.getElem_cons_eraseIdx_perm within).symm

theorem perm_set (there : receives[position]? = some receive) (next : Receive) :
    (receives.set position next).Perm (next :: receives.eraseIdx position) :=
  List.set_perm_cons_eraseIdx (List.getElem?_eq_some_iff.1 there).1 next

theorem total_eraseIdx (weight : Receive → Nat) (there : receives[position]? = some receive) :
    total weight receives = weight receive + total weight (receives.eraseIdx position) :=
  ((perm_eraseIdx there).map weight).sum_nat

theorem total_set (weight : Receive → Nat) (there : receives[position]? = some receive)
    (next : Receive) :
    total weight (receives.set position next) =
      weight next + total weight (receives.eraseIdx position) :=
  ((perm_set there next).map weight).sum_nat

end Receive

namespace Stage

def posts (count : Nat) : Stage → Nat
  | .selecting | .handling .. | .answering .. => count
  | .ended _ => 0

def tickets : Stage → Nat
  | .answering .. => 1
  | .selecting | .handling .. | .ended _ => 0

def buffers : Stage → Nat
  | .handling .. | .answering .. => 1
  | .selecting | .ended _ => 0

end Stage

open Receive

/-- So many receives are issued, and besides what they have, so many tickets and buffers are out. -/
structure Staffed (start : Resources) (count tickets buffers : Nat) (serving : Serving σ) :
    Prop where
  lends : start.Lends serving.exchange.resources
    (total Receive.tickets serving.receives + tickets)
    (total Receive.buffers serving.receives + buffers)
  length : serving.receives.length = count
  fine : ∀ receive ∈ serving.receives,
    receive.Fine start.settings.maxDatagramSize serving.arrived

variable {start : Resources} {count tickets buffers : Nat} {serving : Serving σ}

theorem Staffed.arrive (staffed : Staffed start count tickets buffers serving)
    (datagram : Datagram) : Staffed start count tickets buffers (serving.arrive datagram) :=
  { staffed with fine := fun receive issued => (staffed.fine receive issued).arrive datagram }

theorem Staffed.complete {position : Nat} {signals : Signals} {room : Buffer} {receive : Receive}
    (staffed : Staffed start count tickets buffers serving)
    (waiting : serving.receives[position]? =
      some (.waiting { armed := some signals, lease := some room }))
    (arrival : Outcome Datagram)
    (bare : receive.tickets = 0)
    (keeps : receive.buffers = lent ((Endpoint.received arrival
      { armed := some signals, lease := some room } serving.exchange).1.map some))
    (fine : receive.Fine start.settings.maxDatagramSize serving.arrived)
    (pending : List Nat) :
    Staffed start count tickets buffers
      { serving with
        exchange := (Endpoint.received arrival
          { armed := some signals, lease := some room } serving.exchange).2
        receives := serving.receives.set position receive
        pending } where
  lends := by
    have fewer : total Receive.tickets serving.receives =
      1 + total Receive.tickets (serving.receives.eraseIdx position) := total_eraseIdx _ waiting
    have lighter : total Receive.buffers serving.receives =
      1 + total Receive.buffers (serving.receives.eraseIdx position) := total_eraseIdx _ waiting
    have settled := Endpoint.received_lends arrival
      { armed := some signals, lease := some room }
      (staffed.lends.recount
        (show _ = total Receive.tickets (serving.receives.eraseIdx position) + tickets + 1 by omega)
        (show _ = total Receive.buffers (serving.receives.eraseIdx position) + buffers + 1 by
          omega))
    refine settled.recount ?_ ?_
    · rw [total_set _ waiting, bare, Nat.zero_add]
    · rw [total_set _ waiting, keeps]
      omega
  length := (List.length_set ..).trans staffed.length
  fine := by
    intro other issued
    rcases List.mem_or_eq_of_mem_set issued with before | rfl
    · exact staffed.fine other before
    · exact fine

theorem Staffed.meet {position number : Nat} {signals : Signals} {room : Buffer}
    {datagram : Datagram} (staffed : Staffed start count tickets buffers serving)
    (waiting : serving.receives[position]? =
      some (.waiting { armed := some signals, lease := some room }))
    (present : serving.arrived[number]? = some datagram) :
    Staffed start count tickets buffers
      (serving.meet position signals room number datagram) := by
  have settings := staffed.lends.settings
  cases staffed.fine _ (List.mem_of_getElem? waiting) with
  | waiting roomy =>
      rw [← settings] at roomy
      have judged := Endpoint.settle_judged datagram signals roomy
      rw [settings] at judged
      exact staffed.complete waiting (.ok (datagram.cut room.length)) rfl rfl
        (.met present judged) _

theorem Staffed.fail {position : Nat} {ticket : Ticket} {halt : Halt}
    (staffed : Staffed start count tickets buffers serving)
    (waiting : serving.receives[position]? = some (.waiting ticket))
    (fine : (Receive.failed halt).Fine start.settings.maxDatagramSize serving.arrived) :
    Staffed start count tickets buffers (serving.fail position ticket halt) := by
  cases staffed.fine _ (List.mem_of_getElem? waiting) with
  | waiting roomy => exact staffed.complete waiting (.error halt) rfl rfl fine serving.pending

theorem Staffed.take {position : Nat} {receive : Receive}
    (staffed : Staffed start (count + 1) tickets buffers serving)
    (there : serving.receives[position]? = some receive) (complete : receive.waits = false) :
    Staffed start count tickets (receive.buffers + buffers) (serving.take position receive) where
  lends := by
    have bare : receive.tickets = 0 := by
      cases receive with
      | waiting ticket => cases complete
      | met number outcome => rfl
      | failed halt => rfl
    refine staffed.lends.recount ?_ ?_
    · rw [total_eraseIdx _ there, bare, Nat.zero_add]
      rfl
    · rw [total_eraseIdx _ there, Nat.add_comm receive.buffers, Nat.add_assoc]
      rfl
  length := by
    have longer := (perm_eraseIdx there).length_eq
    rw [staffed.length] at longer
    exact (Nat.succ.inj longer).symm
  fine receive issued := staffed.fine receive (List.mem_of_mem_eraseIdx issued)

theorem Staffed.issue (staffed : Staffed start count tickets buffers serving) :
    Staffed start (count + 1) tickets buffers serving.issue := by
  obtain ⟨room, next, armed, roomy, lends⟩ :=
    Endpoint.armReceive_lends none serving.endpoint staffed.lends
  simp only [Serving.issue, armed]
  constructor
  · refine lends.recount ?_ ?_
    · rw [total_append_singleton]
      exact Nat.add_right_comm ..
    · rw [total_append_singleton]
      exact Nat.add_right_comm ..
  · rw [List.length_append, staffed.length]
    rfl
  · intro receive issued
    rcases List.mem_append.1 issued with before | new
    · exact staffed.fine receive before
    · obtain rfl := List.mem_singleton.1 new
      exact .waiting roomy

theorem Staffed.issueMany (more : Nat)
    (staffed : Staffed start count tickets buffers serving) :
    Staffed start (count + more) tickets buffers (Serving.issueMany more serving) := by
  induction more generalizing count serving with
  | zero => exact staffed
  | succ more ih =>
      have further := ih staffed.issue
      rwa [Nat.add_right_comm] at further

theorem Receive.Fine.abandon_lends {limit : Nat} {arrived : List Datagram} {receive : Receive}
    {resources : Resources} (fine : receive.Fine limit arrived)
    (lends : start.Lends resources (receive.tickets + tickets) (receive.buffers + buffers)) :
    start.Lends (abandon resources receive.issued) tickets buffers := by
  cases fine with
  | waiting roomy =>
      exact Resources.Lends.giveBackTicket (lends.recount (Nat.add_comm ..) (Nat.add_comm ..))
  | @met number datagram outcome present judged =>
      cases outcome with
      | ok delivery =>
          exact (lends.recount (Nat.zero_add _) (Nat.add_comm ..)).giveBackBuffer delivery.buffer
      | error halt => exact lends.recount (Nat.zero_add _) (Nat.zero_add _)
  | failed fault => exact lends.recount (Nat.zero_add _) (Nat.zero_add _)
  | cancelled => exact lends.recount (Nat.zero_add _) (Nat.zero_add _)

theorem abandonAll_lends {receives : List Receive} {limit : Nat} {arrived : List Datagram}
    {resources : Resources} (fine : ∀ receive ∈ receives, receive.Fine limit arrived)
    (lends : start.Lends resources (total Receive.tickets receives + tickets)
      (total Receive.buffers receives + buffers)) :
    start.Lends ((receives.map (·.issued)).foldl abandon resources) tickets buffers := by
  induction receives generalizing resources with
  | nil => exact lends.recount (Nat.zero_add _) (Nat.zero_add _)
  | cons receive rest ih =>
      refine ih (fun other issued => fine other (List.mem_cons_of_mem receive issued)) ?_
      refine (fine receive List.mem_cons_self).abandon_lends (lends.recount ?_ ?_)
      · rw [total_cons, Nat.add_assoc]
      · rw [total_cons, Nat.add_assoc]

theorem Staffed.stop (staffed : Staffed start count tickets buffers serving)
    (result : Except TransportError Unit) :
    Staffed start 0 tickets buffers (serving.stop result) where
  lends := (abandonAll_lends staffed.fine staffed.lends).recount (Nat.zero_add _).symm
    (Nat.zero_add _).symm
  length := rfl
  fine receive issued := by cases issued

/-! ### What a server has out at each stage -/

/-- A server has out what its stage says, and if it has ended, then not for an error. -/
structure Kept (start : Resources) (count : Nat) (serving : Serving σ) : Prop where
  staffed : Staffed start (serving.stage.posts count) serving.stage.tickets serving.stage.buffers
    serving
  unbroken : ∀ result, serving.stage = .ended result → result = .ok ()

theorem Staffed.kept (staffed : Staffed start (serving.stage.posts count) serving.stage.tickets
    serving.stage.buffers serving) (unended : serving.stage.result? = none) :
    Kept start count serving := by
  refine ⟨staffed, fun result ended => ?_⟩
  rw [ended] at unended
  cases unended

theorem stage_issueMany (count : Nat) (serving : Serving σ) :
    (Serving.issueMany count serving).stage = serving.stage := by
  induction count generalizing serving with
  | zero => rfl
  | succ count ih =>
      obtain ⟨more, resources, new, -⟩ := issue_eq serving
      rw [Serving.issueMany, ih, new]

theorem stage_opening (endpoint : Endpoint) (count : Nat) (exchange : DatagramExchange)
    (state : σ) : (Serving.opening endpoint count exchange state).stage = .selecting :=
  stage_issueMany count _

theorem kept_opening (endpoint : Endpoint) (count : Nat) (exchange : DatagramExchange) (state : σ)
    (tidy : exchange.resources.Tidy) :
    Kept exchange.resources count (Serving.opening endpoint count exchange state) := by
  have first : Staffed exchange.resources 0 0 0
      ({ endpoint, exchange, state, receives := [] } : Serving σ) :=
    { lends := Resources.Lends.none tidy
      length := rfl
      fine := fun receive issued => by cases issued }
  have issued := first.issueMany count
  rw [Nat.zero_add] at issued
  have selects := stage_opening endpoint count exchange state
  refine Staffed.kept ?_ ?_
  · rw [selects]
    exact issued
  · rw [selects]
    rfl

theorem start_eq_opening (endpoint : Endpoint) {count : Nat} (some : 0 < count)
    (exchange : DatagramExchange) (state : σ) (tidy : exchange.resources.Tidy) :
    DatagramServer.start endpoint count exchange.resources =
      ((Serving.opening endpoint count exchange state).server,
        (Serving.opening endpoint count exchange state).exchange.resources) := by
  have issued := server_issueMany count ({ endpoint, exchange, state, receives := [] } : Serving σ)
  have kept := kept_opening endpoint count exchange state tidy
  have busy : (Serving.opening endpoint count exchange state).server.issued.isEmpty = false := by
    have length := kept.staffed.length
    rw [stage_opening] at length
    rw [Serving.server, List.isEmpty_map, List.isEmpty_eq_false_iff]
    intro idle
    rw [idle] at length
    exact absurd length (Nat.ne_of_lt some)
  unfold DatagramServer.start
  rw [show DatagramServer.issueMany count { endpoint } exchange.resources = _ from issued]
  dsimp only
  rw [← Serving.opening, busy]
  rfl

theorem Staffed.reply (staffed : Staffed start count 0 0 serving) (number : Nat)
    (remote : SocketAddress) (answer : Option Bytes) :
    Kept start count (serving.reply number remote answer) := by
  cases answer with
  | none => exact Staffed.kept { staffed with } rfl
  | some payload =>
      have lends := staffed.lends
      rcases Endpoint.armSend_lends payload
          (some serving.exchange.resources.settings.operationTimeout) serving.endpoint lends with
        ⟨halt, next, refused, lends⟩ | ⟨signals, frame, next, armed, -, lends⟩
      · simp only [Serving.reply, refused]
        exact Staffed.kept { staffed with lends := lends } rfl
      · simp only [Serving.reply, armed]
        exact Staffed.kept { staffed with lends := lends } rfl

theorem Staffed.handle (staffed : Staffed start count 0 1 serving) (handler : Handler σ)
    (number : Nat) (delivery : Delivery) :
    Kept start count (serving.handle handler number delivery) := by
  have released := staffed.lends.giveBackBuffer delivery.buffer
  unfold Serving.handle
  dsimp only
  split
  · exact Staffed.kept { staffed with lends := released } rfl
  · refine Staffed.reply ?_ number delivery.remote _
    exact { staffed with lends := released }

theorem Staffed.answered {number : Nat} {remote : SocketAddress} {signals : Signals}
    {frame : Buffer} (staffed : Staffed start count 1 1 serving) (taken : Outcome Nat)
    (link : DatagramLink) :
    Kept start count (serving.answered number remote signals frame taken link) := by
  have sent := Endpoint.departed_lends remote { armed := some signals, lease := some frame }
    frame.length taken (show start.Lends
      ({ serving.exchange with link } : DatagramExchange).resources _ _ from staffed.lends)
  unfold Serving.answered
  generalize Endpoint.departed remote { armed := some signals, lease := some frame } frame.length
    taken { serving.exchange with link } = settled at sent ⊢
  obtain ⟨_ | delivery, exchange⟩ := settled
  · exact Staffed.kept { staffed with lends := sent } rfl
  · exact Staffed.kept { staffed with lends := sent.giveBackBuffer delivery.buffer } rfl

theorem Staffed.join {position : Nat} {receive : Receive}
    (staffed : Staffed start count 0 0 serving)
    (there : serving.receives[position]? = some receive) (complete : receive.waits = false) :
    Kept start count (serving.join position receive) := by
  have fine := staffed.fine receive (List.mem_of_getElem? there)
  -- The receive that is joined is one of `count`, so its replacement makes them `count` again.
  obtain ⟨others, rfl⟩ : ∃ others, count = others + 1 := by
    obtain ⟨within, -⟩ := List.getElem?_eq_some_iff.1 there
    rw [staffed.length] at within
    exact ⟨count - 1, by omega⟩
  have replaced := (staffed.take there complete).issue
  unfold Serving.join Serving.turn
  rcases fine.afterJoin complete with ⟨number, delivery, rfl⟩ | ⟨⟨nothing, -⟩, goes | ends⟩
  · exact Staffed.kept { replaced with } rfl
  · rw [nothing] at replaced
    rw [goes]
    exact Staffed.kept { replaced with } rfl
  · rw [nothing] at replaced
    rw [ends]
    refine ⟨replaced.stop (.ok ()), ?_⟩
    rintro result ⟨⟩
    rfl

/-- Nothing that can happen takes a receive from a server for good or leaves one behind. -/
theorem Kept.step {handler : Handler σ} {next : Serving σ} (kept : Kept start count serving)
    (step : Step handler serving next) : Kept start count next := by
  have staffed := kept.staffed
  cases step with
  | arrive datagram => exact ⟨staffed.arrive datagram, kept.unbroken⟩
  | close => exact ⟨{ staffed with }, kept.unbroken⟩
  | shutDown => exact ⟨{ staffed with }, kept.unbroken⟩
  | meet waiting pending present => exact ⟨staffed.meet waiting present, kept.unbroken⟩
  | fail fault waiting => exact ⟨staffed.fail waiting (.failed fault), kept.unbroken⟩
  | cancel closed waiting => exact ⟨staffed.fail waiting .cancelled, kept.unbroken⟩
  | join selecting running there complete =>
      rw [selecting] at staffed
      exact staffed.join there complete
  | handle handling =>
      rw [handling] at staffed
      exact staffed.handle handler _ _
  | answer answering takes =>
      rw [answering] at staffed
      exact staffed.answered _ _
  | stop selecting finished =>
      rw [selecting] at staffed
      refine ⟨staffed.stop (.ok ()), ?_⟩
      rintro result ⟨⟩
      rfl

theorem Kept.run {handler : Handler σ} {next : Serving σ} (kept : Kept start count serving)
    (run : Run handler serving next) : Kept start count next := by
  induction run with
  | refl => exact kept
  | tail _ step ih => exact ih.step step

end DatagramServer

end FramedTransport
