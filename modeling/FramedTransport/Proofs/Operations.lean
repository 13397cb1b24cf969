import FramedTransport.Stream.Exchange
import FramedTransport.Proofs.Recycling
import FramedTransport.Proofs.Transfers

/-!
The operations of a stream half.
A ticket and a deadline that can be counted are all that stands between an
operation and its link, and from tidy resources the ticket is never refused. A
receive takes from the link what it delivers; a send gives to the link the
beginning of what it was to send, and all of it if it succeeds.
-/

namespace FramedTransport

namespace Exchange

variable {β γ : Type}

/-- What every operation keeps: tidy resources, and the settings of the engine. -/
structure Tidy (settings : Settings) (exchange : Exchange) : Prop where
  resources : exchange.resources.Tidy
  settings : exchange.resources.settings = settings

variable {settings : Settings} {exchange : Exchange}

theorem Tidy.giveBackBuffer (tidy : exchange.Tidy settings) (buffer : Buffer) :
    (exchange.giveBackBuffer buffer).Tidy settings where
  resources := tidy.resources.giveBackBuffer buffer
  settings := tidy.settings

theorem Tidy.rentBuffer (tidy : exchange.Tidy settings) (count : Nat) :
    Tidy settings { exchange with resources := (exchange.resources.rentBuffer count).2 } where
  resources := tidy.resources.rentBuffer count
  settings := tidy.settings

theorem Tidy.relinked (tidy : exchange.Tidy settings) (link : Link) :
    Tidy settings { exchange with link } where
  resources := tidy.resources
  settings := tidy.settings

/-- What holds of every body, and of a link that an operation without a ticket leaves alone,
holds of the operation. -/
theorem withTicket_link {signals : Signals} {refused : Halt → β}
    {body : Watch → Ticket → Exchange → (β × Ticket) × Exchange} (holds : β → Link → Prop)
    (aborted : ∀ reason, holds (refused (.abort reason)) exchange.link)
    (ran : ∀ ticket inner, inner.link = exchange.link →
      holds (body (Watch.starting signals exchange.link.time.now) ticket inner).1.1
        (body (Watch.starting signals exchange.link.time.now) ticket inner).2.link) :
    holds (withTicket signals refused body exchange).1
      (withTicket signals refused body exchange).2.link := by
  rw [withTicket_eq]
  split
  · exact aborted _
  · rename_i ticket resources rented
    exact ran ticket { exchange with resources } rfl

theorem withTicket_tidy {signals : Signals} {refused : Halt → β}
    {body : Watch → Ticket → Exchange → (β × Ticket) × Exchange} (holds : β → Link → Prop)
    (tidy : exchange.Tidy settings)
    (ran : ∀ inner, inner.link = exchange.link → inner.Tidy settings →
      holds (body (Watch.starting signals exchange.link.time.now) { armed := some signals }
          inner).1.1
        (body (Watch.starting signals exchange.link.time.now) { armed := some signals }
          inner).2.link ∧
      (body (Watch.starting signals exchange.link.time.now) { armed := some signals }
          inner).2.Tidy settings) :
    holds (withTicket signals refused body exchange).1
        (withTicket signals refused body exchange).2.link ∧
      (withTicket signals refused body exchange).2.Tidy settings := by
  obtain ⟨resources, rented, clean, same⟩ := tidy.resources.rentTicket signals
  obtain ⟨held, after⟩ :=
    ran { exchange with resources } rfl ⟨clean, same.trans tidy.settings⟩
  rw [withTicket_eq]
  rw [rented]
  exact ⟨held, after.resources.giveBackTicket _, after.settings⟩

theorem withTicket_granted {signals : Signals} {refused : Halt → β}
    {body : Watch → Ticket → Exchange → (β × Ticket) × Exchange} (holds : β → Link → Prop)
    (tidy : exchange.Tidy settings)
    (ran : ∀ inner : Exchange, inner.link = exchange.link → inner.Tidy settings →
      holds (body (Watch.starting signals exchange.link.time.now) { armed := some signals }
          inner).1.1
        (body (Watch.starting signals exchange.link.time.now) { armed := some signals }
          inner).2.link) :
    holds (withTicket signals refused body exchange).1
      (withTicket signals refused body exchange).2.link := by
  obtain ⟨resources, rented, clean, same⟩ := tidy.resources.rentTicket signals
  rw [withTicket_eq]
  rw [rented]
  exact ran { exchange with resources } rfl ⟨clean, same.trans tidy.settings⟩

/-- A transfer under the deadline of its watch, which is refused if it cannot be counted. -/
def timed (transfer : Watch → Link → (Outcome Unit × γ) × Link) (frame : γ) (watch : Watch)
    (ticket : Ticket) (exchange : Exchange) : ((Outcome Unit × γ) × Ticket) × Exchange :=
  if watch.beyondHorizon then (((.error (.abort .deadlineOverflow), frame), ticket), exchange)
  else
    let (moved, link) := transfer watch exchange.link
    ((moved, ticket), { exchange with link })

def Ran (transfer : Watch → Link → (Outcome Unit × γ) × Link) (deadline : Option Duration)
    (link : Link) (result : Outcome Unit × γ) (next : Link) : Prop :=
  ∃ watch : Watch, watch.deadline = deadline ∧ watch.beyondHorizon = false ∧
    transfer watch link = (result, next)

def Attempted (transfer : Watch → Link → (Outcome Unit × γ) × Link) (frame : γ)
    (deadline : Option Duration) (link : Link) (result : Outcome Unit × γ) (next : Link) : Prop :=
  ((∃ reason, result = (.error (.abort reason), frame)) ∧ next = link) ∨
    Ran transfer deadline link result next

theorem attempted_timed (signals : Signals)
    (transfer : Watch → Link → (Outcome Unit × γ) × Link) (frame : γ) (exchange : Exchange) :
    Attempted transfer frame signals.deadline exchange.link
      (withTicket signals (fun halt => (.error halt, frame)) (timed transfer frame) exchange).1
      (withTicket signals (fun halt => (.error halt, frame)) (timed transfer frame)
        exchange).2.link := by
  refine withTicket_link (Attempted transfer frame signals.deadline exchange.link) ?_ ?_
  · intro reason
    exact Or.inl ⟨⟨reason, rfl⟩, rfl⟩
  · intro ticket inner same
    unfold timed
    split
    · exact Or.inl ⟨⟨_, rfl⟩, same⟩
    · rename_i counted
      exact Or.inr ⟨_, rfl, by simpa using counted, by rw [same]⟩

def Countable (deadline : Option Duration) : Prop :=
  ∀ span, deadline = some span → span.seconds < Watch.horizon

theorem Countable.beyondHorizon {watch : Watch} (countable : Countable watch.deadline) :
    watch.beyondHorizon = false := by
  unfold Watch.beyondHorizon
  split
  · rename_i span counted
    simpa using countable span counted
  · rfl

theorem dueAt_ne_none {watch : Watch} {span : Duration} (deadline : watch.deadline = some span)
    (countable : watch.beyondHorizon = false) : watch.dueAt ≠ none := by
  simp only [Watch.beyondHorizon, deadline, decide_eq_false_iff_not, Nat.not_le] at countable
  simp [Watch.dueAt, deadline, countable]

theorem timed_tidy (signals : Signals) (transfer : Watch → Link → (Outcome Unit × γ) × Link)
    (frame : γ) (tidy : exchange.Tidy settings) :
    (Countable signals.deadline →
        Ran transfer signals.deadline exchange.link
          (withTicket signals (fun halt => (.error halt, frame)) (timed transfer frame) exchange).1
          (withTicket signals (fun halt => (.error halt, frame)) (timed transfer frame)
            exchange).2.link) ∧
      (withTicket signals (fun halt => (.error halt, frame)) (timed transfer frame)
        exchange).2.Tidy settings := by
  refine withTicket_tidy (fun result link =>
    Countable signals.deadline → Ran transfer signals.deadline exchange.link result link) tidy ?_
  intro inner same clean
  unfold timed
  split
  · rename_i uncounted
    refine ⟨?_, clean⟩
    intro countable
    rw [Countable.beyondHorizon countable] at uncounted
    cases uncounted
  · rename_i counted
    exact ⟨fun _ => ⟨_, rfl, by simpa using counted, by rw [same]⟩, clean.relinked _⟩

theorem fillFrame_attempted (cancel : CancelToken) (deadline : Option Duration) (frame : Incoming)
    (exchange : Exchange) :
    Attempted (fun watch => frame.fill watch) frame deadline exchange.link
      (exchange.fillFrame cancel deadline frame).1
      (exchange.fillFrame cancel deadline frame).2.link :=
  attempted_timed { operation := .receive, deadline, cancel := some cancel }
    (fun watch => frame.fill watch) frame exchange

theorem fillFrame_tidy (cancel : CancelToken) (deadline : Option Duration) (frame : Incoming)
    (tidy : exchange.Tidy settings) :
    (Countable deadline →
        Ran (fun watch => frame.fill watch) deadline exchange.link
          (exchange.fillFrame cancel deadline frame).1
          (exchange.fillFrame cancel deadline frame).2.link) ∧
      (exchange.fillFrame cancel deadline frame).2.Tidy settings :=
  timed_tidy { operation := .receive, deadline, cancel := some cancel }
    (fun watch => frame.fill watch) frame tidy

theorem pushFrame_attempted (cancel : CancelToken) (deadline : Option Duration) (frame : Outgoing)
    (exchange : Exchange) :
    Attempted (fun watch => frame.push watch) frame deadline exchange.link
      (exchange.pushFrame cancel deadline frame).1
      (exchange.pushFrame cancel deadline frame).2.link :=
  attempted_timed { operation := .send, deadline, cancel := some cancel }
    (fun watch => frame.push watch) frame exchange

theorem pushFrame_tidy (cancel : CancelToken) (deadline : Option Duration) (frame : Outgoing)
    (tidy : exchange.Tidy settings) :
    (Countable deadline →
        Ran (fun watch => frame.push watch) deadline exchange.link
          (exchange.pushFrame cancel deadline frame).1
          (exchange.pushFrame cancel deadline frame).2.link) ∧
      (exchange.pushFrame cancel deadline frame).2.Tidy settings :=
  timed_tidy { operation := .send, deadline, cancel := some cancel }
    (fun watch => frame.push watch) frame tidy

theorem pushed_frame {frame pushed : Outgoing} {image : Bytes} {deadline : Option Duration}
    {link next : Link} {outcome : Outcome Unit} (whole : frame.Whole) (fresh : frame.sent = 0)
    (pending : frame.pending = image) (sincere : link.Sincere)
    (attempted : Attempted (fun watch => frame.push watch) frame deadline link
      (outcome, pushed) next) :
    ∃ torn, torn <+: image ∧ next.written = link.written ++ torn ∧ pushed.sent = torn.length ∧
      (∀ reason, outcome = .error (.abort reason) → torn = []) ∧
      (outcome = .ok () → torn = image ∧ pushed.isComplete = true) := by
  rcases attempted with ⟨⟨reason, refused⟩, same⟩ | ⟨watch, -, -, ran⟩
  · cases refused
    exact ⟨[], List.nil_prefix, by simp [same], fresh, fun _ _ => rfl, by simp⟩
  · obtain ⟨torn, moved⟩ := Outgoing.push_spec whole watch sincere
    rw [show frame.push watch link = ((outcome, pushed), next) from ran] at moved
    refine ⟨torn, ?_, moved.written, ?_, ?_, ?_⟩
    · rw [← pending, moved.pending]
      exact List.prefix_append _ _
    · rw [moved.counted, fresh, Nat.zero_add]
    · intro reason broken
      exact absurd broken (moved.unbroken reason)
    · intro complete
      have nothing := Outgoing.pending_of_isComplete moved.whole (moved.complete complete)
      have all := moved.pending
      rw [nothing, List.append_nil] at all
      exact ⟨all.symm.trans pending, moved.complete complete⟩

theorem writes_attempted {frame pushed : Outgoing} {deadline : Option Duration}
    {link next : Link} {outcome : Outcome Unit}
    (attempted : Attempted (fun watch => frame.push watch) frame deadline link
      (outcome, pushed) next) : next.writes <:+ link.writes := by
  rcases attempted with ⟨-, same⟩ | ⟨watch, -, -, ran⟩
  · exact same ▸ List.suffix_refl _
  · have writes := Outgoing.writes_push watch frame link
    rwa [show frame.push watch link = ((outcome, pushed), next) from ran] at writes

/-- A receive takes exactly what it delivers, and nothing if it fails. -/
def Received (link : Link) : Outcome Delivery → Link → Prop
  | .ok delivery, next => link.inbound = delivery.payload ++ next.inbound
  | .error _, next => link.inbound = next.inbound

theorem slice_overwrite {buffer : Buffer} {received : Bytes}
    (fits : received.length ≤ buffer.length) :
    (buffer.overwrite 0 received).slice 0 received.length = received := by
  have room : ([] : Bytes).length + received.length ≤ buffer.length := by simpa using fits
  have front := Buffer.front_overwrite List.nil_prefix room
  exact (List.prefix_iff_eq_take.1 front).symm

theorem receiveSome_received (cancel : CancelToken) (remote : SocketAddress) (maxLength : Nat)
    (deadline : Option Duration) (exchange : Exchange) :
    Received exchange.link (exchange.receiveSome cancel remote maxLength deadline).1
      (exchange.receiveSome cancel remote maxLength deadline).2.link := by
  refine withTicket_link (Received exchange.link) ?_ ?_
  · intro reason
    rfl
  · intro ticket inner same
    have size := inner.resources.length_rentFilled maxLength
    have read := Link.read_spec (Watch.starting
      { operation := .receive, deadline, cancel := some cancel } exchange.link.time.now)
      maxLength inner.link
    rw [same] at read
    dsimp only
    rw [same]
    cases lease : ticket.lease with
    -- A ticket that still carries a buffer refuses another one before anything is read.
    | some carried =>
        simp only [Ticket.attach, lease]
        rfl
    | none =>
        simp only [Ticket.attach, lease, Ticket.carried]
        split
        · rename_i halt next stopped
          rw [stopped] at read
          exact read.1
        · rename_i received next arrived
          rw [arrived] at read
          obtain ⟨fits, kept, -⟩ := read
          split
          · rename_i nothing
            have empty : received = [] := List.length_eq_zero_iff.1 nothing.1
            rw [empty] at kept
            exact kept
          · simp only [Ticket.changeLease, reclaim, Ticket.detach, Option.map, Except.map, Received,
              Delivery.payload]
            rw [slice_overwrite (by omega)]
            exact kept

theorem sendAll_sent (cancel : CancelToken) (remote : SocketAddress) (payload : Bytes)
    (deadline : Option Duration) (tidy : exchange.Tidy settings)
    (sincere : exchange.link.Sincere) :
    (Outgoing.Sent exchange.link payload (exchange.sendAll cancel remote payload deadline).1
        (exchange.sendAll cancel remote payload deadline).2.link ∧
      (exchange.sendAll cancel remote payload deadline).2.link.writes <:+
        exchange.link.writes) ∧
      (exchange.sendAll cancel remote payload deadline).2.Tidy settings := by
  refine withTicket_tidy (fun result link =>
    Outgoing.Sent exchange.link payload result link ∧ link.writes <:+ exchange.link.writes) tidy ?_
  intro inner same clean
  have empty := clean.resources.bytes_rentBuffer payload.length
  have after := clean.rentBuffer payload.length
  dsimp only
  split
  · rename_i ticket reason refused
    cases refused
  · rename_i ticket attached
    cases attached
    split
    · refine ⟨⟨?_, ?_⟩, after⟩
      · exact congrArg Link.written same
      · exact same ▸ List.suffix_refl _
    · obtain ⟨whole, pending⟩ := Outgoing.whole_append empty payload
      have sent := Outgoing.push_sent whole (Watch.starting
        { operation := .send, deadline, cancel := some cancel } exchange.link.time.now) sincere
      have writes := Outgoing.writes_push (Watch.starting
        { operation := .send, deadline, cancel := some cancel } exchange.link.time.now)
        { buffer := (inner.resources.rentBuffer payload.length).1.append payload
          progress := Progress.start payload.length } exchange.link
      dsimp only [Ticket.carried]
      rw [same]
      split
      · rename_i halt frame link stopped
        rw [stopped, pending] at sent
        rw [stopped] at writes
        cases halt <;> exact ⟨⟨sent, writes⟩, after.relinked link⟩
      · rename_i frame link ended
        rw [ended, pending] at sent
        rw [ended] at writes
        exact ⟨⟨sent, writes⟩, after.relinked link⟩

theorem shutdown_tidy (signals : Signals) (tidy : exchange.Tidy settings) :
    let ended : Outcome Unit × Exchange := withTicket signals .error
      (fun watch ticket exchange =>
        let (ended, link) := exchange.link.shutdown watch
        ((ended, ticket), { exchange with link })) exchange
    (ended.2.link.written = exchange.link.written ∧ ended.2.link.writes = exchange.link.writes) ∧
      ended.2.Tidy settings := by
  refine withTicket_tidy (fun _ link =>
    link.written = exchange.link.written ∧ link.writes = exchange.link.writes) tidy ?_
  intro inner same clean
  obtain ⟨written, writes, -⟩ :=
    Link.shutdown_spec (Watch.starting signals exchange.link.time.now) inner.link
  rw [same] at written writes
  refine ⟨⟨?_, ?_⟩, clean.relinked _⟩
  · rw [← same] at written ⊢
    exact written
  · rw [← same] at writes ⊢
    exact writes

end Exchange

end FramedTransport
