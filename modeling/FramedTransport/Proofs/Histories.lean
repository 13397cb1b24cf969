import FramedTransport.Proofs.Tickets
import FramedTransport.Proofs.Twins
import Mathlib.Tactic

/-!
Engines with different pasts.
Two sessions over the same link read, ask and answer alike round by round, so their
handlers are asked the same; what an engine was used for before shows neither in them nor
in the calls on a half.
-/

namespace FramedTransport

/-! ### Sessions -/

namespace Link

variable {link : Link}

theorem cancelled_write (watch : Watch) (offered : Bytes) (cancelled : link.time.cancelled = true) :
    (link.write watch offered).2.time.cancelled = true := by
  have raced := Race.cancelled_run link.time { watch, source := link.writes } cancelled
  unfold write
  dsimp only
  split <;> exact raced

theorem cancelled_flush (watch : Watch) (cancelled : link.time.cancelled = true) :
    (link.flush watch).2.time.cancelled = true := by
  have raced := Race.cancelled_run link.time { watch, source := link.flushes } cancelled
  unfold flush
  dsimp only
  split <;> exact raced

theorem cancelled_shutdown (watch : Watch) (cancelled : link.time.cancelled = true) :
    (link.shutdown watch).2.time.cancelled = true := by
  have raced := Race.cancelled_run link.time { watch, source := link.shutdowns } cancelled
  unfold shutdown
  dsimp only
  split <;> exact raced

end Link

theorem Outgoing.cancelled_push (watch : Watch) (frame : Outgoing) {link : Link}
    (cancelled : link.time.cancelled = true) :
    (push watch frame link).2.time.cancelled = true := by
  fun_induction push watch frame link with
  | case1 frame link complete flushed next ended =>
      simpa only [ended] using Link.cancelled_flush watch cancelled
  | case2 frame link incomplete halt next stopped =>
      simpa only [stopped] using Link.cancelled_write watch frame.pending cancelled
  | case3 frame link incomplete count next taken reason refused =>
      simpa only [taken] using Link.cancelled_write watch frame.pending cancelled
  | case4 frame link incomplete count next taken after accepted ih =>
      exact ih (by simpa only [taken] using Link.cancelled_write watch frame.pending cancelled)

namespace Exchange

variable {γ : Type} {exchange : Exchange}

theorem cancelled_timed (signals : Signals)
    {transfer : Watch → Link → (Outcome Unit × γ) × Link} (frame : γ)
    (kept : ∀ watch link, link.time.cancelled = true →
      (transfer watch link).2.time.cancelled = true)
    (cancelled : exchange.link.time.cancelled = true) :
    (withTicket signals (fun halt => (.error halt, frame)) (timed transfer frame)
      exchange).2.link.time.cancelled = true := by
  rcases attempted_timed signals transfer frame exchange with ⟨-, same⟩ | ⟨watch, -, -, ran⟩
  · rwa [same]
  · simpa only [ran] using kept watch exchange.link cancelled

theorem cancelled_pushFrame (cancel : CancelToken) (deadline : Option Duration) (frame : Outgoing)
    (cancelled : exchange.link.time.cancelled = true) :
    (exchange.pushFrame cancel deadline frame).2.link.time.cancelled = true :=
  cancelled_timed _ frame (fun watch _ => Outgoing.cancelled_push watch frame) cancelled

theorem cancelled_fillFrame (reader : Reader) (cancel : CancelToken) (deadline : Option Duration)
    (frame : Incoming) (cancelled : exchange.link.time.cancelled = true) :
    (reader.fillFrame cancel deadline frame exchange).2.link.time.cancelled = true :=
  cancelled_timed _ frame (fun watch => reader.cancelled_fill watch frame) cancelled

end Exchange

namespace Session

open Exchange

variable {settings : Settings} {exchange one other : Exchange}

theorem cancelled_respond (cancel : CancelToken) (answer : Bytes)
    (cancelled : exchange.link.time.cancelled = true) :
    (respond cancel answer exchange).2.link.time.cancelled = true := by
  unfold respond
  dsimp only
  split
  · exact cancelled
  · exact cancelled_pushFrame _ _ _ cancelled

theorem cancelled_conclude (outcome : Outcome SessionEnd)
    (cancelled : exchange.link.time.cancelled = true) :
    (conclude outcome exchange).2.link.time.cancelled = true := by
  have shut : (farewell exchange).2.link.time.cancelled = true :=
    Link.cancelled_shutdown _ cancelled
  unfold conclude
  split
  · exact cancelled
  · exact cancelled
  · split <;> rename_i ended <;> rwa [ended] at shut
  · split <;> rename_i ended <;> rwa [ended] at shut

theorem respond_agree (cancel : CancelToken) (answer : Bytes) (alike : Alike settings one other) :
    Agree settings Eq (respond cancel answer one) (respond cancel answer other) := by
  unfold respond
  dsimp only
  rw [alike.first.settings, alike.second.settings]
  have lent := alike.rentBuffer (FrameHeader.size + answer.length)
  generalize one.resources.rentBuffer (FrameHeader.size + answer.length) = mine at lent ⊢
  generalize other.resources.rentBuffer (FrameHeader.size + answer.length) = yours at lent ⊢
  obtain ⟨reason, first, second⟩ | ⟨frame, copy, first, second, frames⟩ :=
    Outgoing.encode_alike mine.1 yours.1 answer settings.maxFrameSize
  · rw [first, second]
    exact fun _ => ⟨rfl, lent.giveBackBuffer _ _⟩
  · rw [first, second]
    intro running
    obtain ⟨⟨same, -⟩, after⟩ :=
      pushFrame_agree cancel (some settings.operationTimeout) frames lent running
    exact ⟨same, after.giveBackBuffer _ _⟩

theorem conclude_agree (outcome : Outcome SessionEnd) (alike : Alike settings one other) :
    (conclude outcome one).1 = (conclude outcome other).1 ∧
      Alike settings (conclude outcome one).2 (conclude outcome other).2 := by
  have same : (farewell one).1 = (farewell other).1 ∧
      Alike settings (farewell one).2 (farewell other).2 := by
    unfold farewell
    dsimp only
    rw [alike.first.settings, alike.second.settings, alike.link]
    exact ⟨rfl, alike.relinked rfl⟩
  unfold conclude
  generalize farewell one = left at same ⊢
  generalize farewell other = right at same ⊢
  obtain ⟨ended, first⟩ := left
  obtain ⟨_, second⟩ := right
  obtain ⟨rfl, after⟩ := same
  split
  · exact ⟨rfl, alike⟩
  · exact ⟨rfl, alike⟩
  · rcases ended with (_ | _ | _) | _ <;> exact ⟨rfl, after⟩
  · rcases ended with (_ | _ | _) | _ <;> exact ⟨rfl, after⟩

end Session

namespace Reader

open Exchange

variable {σ : Type} {settings : Settings} {exchange one other : Exchange}

theorem cancelled_serve (reader : Reader) (handler : Handler σ) (remote : SocketAddress)
    (cancel : CancelToken) (frame : Incoming) (state : σ)
    (cancelled : exchange.link.time.cancelled = true) :
    (reader.serve handler remote cancel frame state exchange).exchange.link.time.cancelled =
      true := by
  have reads {exchange next : Exchange} {frame : Incoming} {result : Outcome Unit × Incoming}
      (cancelled : exchange.link.time.cancelled = true)
      (ended : reader.fillFrame cancel exchange.resources.settings.idleTimeout frame exchange =
        (result, next)) : next.link.time.cancelled = true := by
    simpa only [ended] using cancelled_fillFrame reader cancel
      exchange.resources.settings.idleTimeout frame cancelled
  have answers {exchange next : Exchange} {answer : Bytes} {result : Outcome Unit}
      (cancelled : exchange.link.time.cancelled = true)
      (sent : Session.respond cancel answer exchange = (result, next)) :
      next.link.time.cancelled = true := by
    simpa only [sent] using Session.cancelled_respond cancel answer cancelled
  fun_induction reader.serve handler remote cancel frame state exchange with
  | case1 frame state exchange halt after last ended => exact reads cancelled ended
  | case2 frame state exchange filled next complete nothing => exact reads cancelled complete
  | case3 frame state exchange filled next complete header payload shown answer later asked ready
      reason refused => exact reads cancelled complete
  | case4 frame state exchange filled next complete header payload shown later ready rearmed asked
      ih => exact ih (reads cancelled complete)
  | case5 frame state exchange filled next complete header payload shown later ready rearmed answer
      halt last failed asked => exact answers (reads cancelled complete) failed
  | case6 frame state exchange filled next complete header payload shown later ready rearmed answer
      last sent asked ih => exact ih (answers (reads cancelled complete) sent)

/-- What two sessions have in common when they stop serving. -/
structure SameServed (settings : Settings) (one other : Session.Served σ) : Prop where
  outcome : one.outcome = other.outcome
  state : one.state = other.state
  alike : Alike settings one.exchange other.exchange

theorem round_agree (reader : Reader) (cancel : CancelToken) {another next : Exchange}
    {frame frameToo filled : Incoming} {held : Bytes} {outcome : Outcome Unit}
    (frames : Incoming.Alike held frame frameToo) (alike : Alike settings exchange another)
    (ended : reader.fillFrame cancel exchange.resources.settings.idleTimeout frame exchange =
      ((outcome, filled), next))
    (running : next.link.time.cancelled = false) :
    ∃ copy also, reader.fillFrame cancel another.resources.settings.idleTimeout frameToo another =
        ((outcome, copy), also) ∧ Alike settings next also ∧
      (outcome = .ok () → ∃ held, Incoming.Alike held filled copy) := by
  have agree := fillFrame_agree reader cancel settings.idleTimeout frames alike
  rw [alike.first.settings] at ended
  rw [alike.second.settings]
  rw [ended] at agree
  generalize reader.fillFrame cancel settings.idleTimeout frameToo another = right at agree ⊢
  obtain ⟨⟨_, copy⟩, also⟩ := right
  obtain ⟨same, after⟩ := agree running
  obtain rfl := same.outcome
  exact ⟨copy, also, rfl, after, same.filled⟩

theorem serve_agree (reader : Reader) (handler : Handler σ) (remote : SocketAddress)
    (cancel : CancelToken) {frame frameToo : Incoming} {held : Bytes} (state : σ)
    (frames : Incoming.Alike held frame frameToo) (alike : Alike settings one other)
    (running : (reader.serve handler remote cancel frame state one).exchange.link.time.cancelled =
      false) :
    SameServed settings (reader.serve handler remote cancel frame state one)
      (reader.serve handler remote cancel frameToo state other) := by
  have served {ready : Incoming} {state : σ} {exchange : Exchange}
      (running : (reader.serve handler remote cancel ready state
        exchange).exchange.link.time.cancelled = false) : exchange.link.time.cancelled = false :=
    Link.running_before (reader.cancelled_serve handler remote cancel ready state) running
  have answered {exchange next : Exchange} {answer : Bytes} {result : Outcome Unit}
      (sent : Session.respond cancel answer exchange = (result, next))
      (running : next.link.time.cancelled = false) : exchange.link.time.cancelled = false :=
    Link.running_before (Session.cancelled_respond cancel answer) (sent ▸ running)
  -- What is not cancelled in the end was not cancelled in any round before, so every round agrees.
  fun_induction reader.serve handler remote cancel frame state one
    generalizing frameToo held other with
  | case1 frame state exchange halt filled last ended =>
      obtain ⟨copy, also, endedToo, after, -⟩ :=
        reader.round_agree cancel frames alike ended running
      rw [serve_eq, endedToo]
      exact ⟨rfl, rfl, after⟩
  | case2 frame state exchange filled next complete nothing =>
      obtain ⟨copy, also, completeToo, after, whole⟩ :=
        reader.round_agree cancel frames alike complete running
      obtain ⟨held, whole⟩ := whole rfl
      rw [serve_eq, completeToo]
      simp only [← whole.frame?_eq, nothing]
      exact ⟨rfl, rfl, after⟩
  | case3 frame state exchange filled next complete header payload shown answer later asked ready
      reason refused =>
      obtain ⟨copy, also, completeToo, after, whole⟩ :=
        reader.round_agree cancel frames alike complete running
      obtain ⟨held, whole⟩ := whole rfl
      obtain ⟨again, refusedToo, -⟩ := whole.rearm refused
      rw [serve_eq, completeToo]
      simp only [← whole.frame?_eq, shown, asked, refusedToo]
      exact ⟨rfl, rfl, after⟩
  | case4 frame state exchange filled next complete header payload shown later ready rearmed asked
      ih =>
      obtain ⟨copy, also, completeToo, after, whole⟩ :=
        reader.round_agree cancel frames alike complete (served running)
      obtain ⟨held, whole⟩ := whole rfl
      obtain ⟨again, rearmedToo, readies⟩ := whole.rearm rearmed
      rw [serve_eq reader handler remote cancel frameToo, completeToo]
      simp only [← whole.frame?_eq, shown, asked, rearmedToo]
      exact ih (readies rfl) after running
  | case5 frame state exchange filled next complete header payload shown later ready rearmed answer
      halt last failed asked =>
      obtain ⟨copy, also, completeToo, after, whole⟩ :=
        reader.round_agree cancel frames alike complete (answered failed running)
      obtain ⟨held, whole⟩ := whole rfl
      obtain ⟨again, rearmedToo, -⟩ := whole.rearm rearmed
      have agree := Session.respond_agree cancel answer after
      rw [failed] at agree
      obtain ⟨same, ends⟩ := agree running
      have failedToo : Session.respond cancel answer also =
          (.error halt, (Session.respond cancel answer also).2) := Prod.ext same.symm rfl
      rw [serve_eq, completeToo]
      simp only [← whole.frame?_eq, shown, asked, rearmedToo]
      rw [failedToo]
      exact ⟨rfl, rfl, ends⟩
  | case6 frame state exchange filled next complete header payload shown later ready rearmed answer
      last sent asked ih =>
      obtain ⟨copy, also, completeToo, after, whole⟩ :=
        reader.round_agree cancel frames alike complete (answered sent (served running))
      obtain ⟨held, whole⟩ := whole rfl
      obtain ⟨again, rearmedToo, readies⟩ := whole.rearm rearmed
      have agree := Session.respond_agree cancel answer after
      rw [sent] at agree
      obtain ⟨same, goes⟩ := agree (served running)
      have sentToo : Session.respond cancel answer also =
          (.ok (), (Session.respond cancel answer also).2) := Prod.ext same.symm rfl
      rw [serve_eq reader handler remote cancel frameToo, completeToo]
      simp only [← whole.frame?_eq, shown, asked, rearmedToo]
      rw [sentToo]
      exact ih (readies rfl) goes running

theorem session_agree (reader : Reader) (handler : Handler σ) (remote : SocketAddress)
    (cancel : CancelToken) (state : σ) (alike : Alike settings one other) :
    AgreeCall settings id (reader.session handler remote cancel state one)
      (reader.session handler remote cancel state other) := by
  have empty := Incoming.alike_start
    (one.resources.rentBuffer settings.bufferCapacity).1
    (other.resources.rentBuffer settings.bufferCapacity).1 settings.maxFrameSize
  have lent := alike.rentBuffer settings.bufferCapacity
  intro running
  simp only [session, run, Session.start, alike.first.settings, alike.second.settings]
    at running ⊢
  have served := reader.serve_agree handler remote cancel state empty lent
    (Link.running_before (Session.cancelled_conclude _) running)
  rw [← served.outcome, ← served.state]
  obtain ⟨outcome, after⟩ := Session.conclude_agree
    (reader.serve handler remote cancel (Incoming.start
      (one.resources.rentBuffer settings.bufferCapacity).1 settings.maxFrameSize) state
      { one with resources := (one.resources.rentBuffer settings.bufferCapacity).2 }).outcome
    served.alike
  exact ⟨congrArg (Except.map id) outcome, rfl, after.giveBackBuffer _ _⟩

end Reader

/-! ### Handler calls -/

section Notes

variable {σ : Type}

/-- A handler that keeps what it was asked and what it answered. -/
def Handler.noting (handler : Handler σ) : Handler (σ × List (Request × Option Bytes)) :=
  fun request (state, notes) =>
    let (answer, next) := handler request state
    (answer, next, notes ++ [(request, answer)])

namespace Reader

theorem serve_noting (reader : Reader) (handler : Handler σ) (remote : SocketAddress)
    (cancel : CancelToken) (frame : Incoming) (state : σ) (notes : List (Request × Option Bytes))
    (exchange : Exchange) :
    let plain := reader.serve handler remote cancel frame state exchange
    ∃ taken, reader.serve handler.noting remote cancel frame (state, notes) exchange =
      { outcome := plain.outcome, frame := plain.frame, state := (plain.state, taken)
        exchange := plain.exchange } := by
  fun_induction reader.serve handler remote cancel frame state exchange generalizing notes with
  | case1 frame state exchange halt after last ended =>
      rw [serve_eq reader handler.noting, ended]
      exact ⟨notes, rfl⟩
  | case2 frame state exchange filled next complete nothing =>
      rw [serve_eq reader handler.noting]
      simp only [complete, nothing]
      exact ⟨notes, rfl⟩
  | case3 frame state exchange filled next complete header payload shown answer later asked ready
      reason refused =>
      rw [serve_eq reader handler.noting]
      simp only [complete, shown, Handler.noting, asked, refused]
      exact ⟨_, rfl⟩
  | case4 frame state exchange filled next complete header payload shown later ready rearmed asked
      ih =>
      rw [serve_eq reader handler.noting]
      simp only [complete, shown, Handler.noting, asked, rearmed]
      exact ih _
  | case5 frame state exchange filled next complete header payload shown later ready rearmed answer
      halt last failed asked =>
      rw [serve_eq reader handler.noting]
      simp only [complete, shown, Handler.noting, asked, rearmed, failed]
      exact ⟨_, rfl⟩
  | case6 frame state exchange filled next complete header payload shown later ready rearmed answer
      last sent asked ih =>
      rw [serve_eq reader handler.noting]
      simp only [complete, shown, Handler.noting, asked, rearmed, sent]
      exact ih _

/-- What a handler is asked in a session, and what it answers. -/
def handled (reader : Reader) (handler : Handler σ) (remote : SocketAddress)
    (cancel : CancelToken) (state : σ) (exchange : Exchange) : List (Request × Option Bytes) :=
  (reader.session handler.noting remote cancel (state, []) exchange).2.1.2

theorem session_noting (reader : Reader) (handler : Handler σ) (remote : SocketAddress)
    (cancel : CancelToken) (state : σ) (exchange : Exchange) :
    reader.session handler.noting remote cancel (state, []) exchange =
      let plain := reader.session handler remote cancel state exchange
      (plain.1, (plain.2.1, reader.handled handler remote cancel state exchange), plain.2.2) := by
  obtain ⟨taken, noted⟩ := reader.serve_noting handler remote cancel
    (Session.start remote cancel exchange.resources).1.frame state []
    { exchange with resources := (Session.start remote cancel exchange.resources).2 }
  change reader.serve handler.noting (Session.start remote cancel exchange.resources).1.remote
    (Session.start remote cancel exchange.resources).1.cancel _ _ _ = _ at noted
  simp only [handled, session, run, noted]
  rfl

end Reader

end Notes

/-! ### Pasts -/

namespace Resources

/-- What may happen to the pools of an engine. What is given back need not be as it was lent. -/
inductive Use where
  | rentBuffer (count : Nat)
  | rentFilled (count : Nat)
  | giveBackBuffer (buffer : Buffer)
  | shrinkBuffers
  | rentTicket (signals : Signals)
  | giveBackTicket (ticket : Ticket)
  | shrinkTickets
deriving DecidableEq, Repr

def use (resources : Resources) : Use → Resources
  | .rentBuffer count => (resources.rentBuffer count).2
  | .rentFilled count => (resources.rentFilled count).2
  | .giveBackBuffer buffer => resources.giveBackBuffer buffer
  | .shrinkBuffers => { resources with buffers := resources.buffers.shrink.2 }
  | .rentTicket signals => (resources.rentTicket signals).2
  | .giveBackTicket ticket => resources.giveBackTicket ticket
  | .shrinkTickets => resources.shrinkTickets

def after (settings : Settings) (past : List Use) : Resources :=
  past.foldl use (ofSettings settings)

theorem Tidy.use {resources : Resources} (tidy : resources.Tidy) (step : Use) :
    (resources.use step).Tidy ∧ (resources.use step).settings = resources.settings := by
  have even := Lends.none tidy
  cases step with
  | rentBuffer count => exact ⟨tidy.rentBuffer count, rfl⟩
  | rentFilled count => exact ⟨tidy.rentBuffer count, rfl⟩
  | giveBackBuffer buffer => exact ⟨tidy.giveBackBuffer buffer, rfl⟩
  | shrinkBuffers => exact ⟨even.shrink.tidy, rfl⟩
  | rentTicket signals =>
      obtain ⟨next, rented, clean, same⟩ := tidy.rentTicket signals
      simp only [Resources.use, rented]
      exact ⟨clean, same⟩
  | giveBackTicket ticket => exact ⟨tidy.giveBackTicket ticket, rfl⟩
  | shrinkTickets => exact ⟨even.shrinkTickets.tidy, even.shrinkTickets.settings⟩

/-- Whatever has happened, everything that waits is clean. -/
theorem tidy_after (settings : Settings) (past : List Use) :
    (after settings past).Tidy ∧ (after settings past).settings = settings := by
  refine List.foldlRecOn (motive := fun resources => resources.Tidy ∧ resources.settings = settings)
    past use ⟨tidy_ofSettings settings, rfl⟩ ?_
  rintro resources ⟨tidy, same⟩ step -
  obtain ⟨clean, kept⟩ := tidy.use step
  exact ⟨clean, kept.trans same⟩

end Resources

namespace Exchange

/-- What shows of a call: what is told of its outcome, the half or the handler that it leaves, and
the link, which tells the time and all the bytes that were taken and given. -/
def shown {α β η : Type} (tell : α → β) (result : Outcome α × η × Exchange) :
    Outcome β × η × Link :=
  (result.1.map tell, result.2.1, result.2.2.link)

theorem AgreeCall.shown_eq {α β η : Type} {settings : Settings} {tell : α → β}
    {one other : Outcome α × η × Exchange} (agree : AgreeCall settings tell one other)
    (running : one.2.2.link.time.cancelled = false) : shown tell one = shown tell other := by
  obtain ⟨told, left, after⟩ := agree running
  rw [shown, shown, told, left, after.link]

theorem alike_after (settings : Settings) (past other : List Resources.Use) (link : Link) :
    Alike settings { resources := .after settings past, link }
      { resources := .after settings other, link } where
  link := rfl
  first := ⟨(Resources.tidy_after settings past).1, (Resources.tidy_after settings past).2⟩
  second := ⟨(Resources.tidy_after settings other).1, (Resources.tidy_after settings other).2⟩

end Exchange

namespace Reader

open Exchange

/-- Nothing that was done with the pools of an engine shows in what a half or a session does later,
as long as nobody is cancelled. -/
theorem pasts_do_not_show (reader : Reader) (settings : Settings) (past other : List Resources.Use)
    (link : Link) :
    let one : Exchange := { resources := .after settings past, link }
    let two : Exchange := { resources := .after settings other, link }
    (∀ call receiver, (reader.calls call receiver one).2.2.link.time.cancelled = false →
      shown (Option.map Delivery.told) (reader.calls call receiver one) =
        shown (Option.map Delivery.told) (reader.calls call receiver two)) ∧
    (∀ call sender, (Sender.calls call sender one).2.2.link.time.cancelled = false →
      shown (Option.map Delivery.told) (Sender.calls call sender one) =
        shown (Option.map Delivery.told) (Sender.calls call sender two)) ∧
    ∀ (σ : Type) (handler : Handler σ) remote cancel state,
      (reader.session handler remote cancel state one).2.2.link.time.cancelled = false →
        shown id (reader.session handler remote cancel state one) =
            shown id (reader.session handler remote cancel state two) ∧
          reader.handled handler remote cancel state one =
            reader.handled handler remote cancel state two := by
  intro one two
  have alike : Alike settings one two := alike_after settings past other link
  refine ⟨?_, ?_, ?_⟩
  · intro call receiver
    exact (reader.calls_agree call receiver alike).shown_eq
  · intro call sender
    exact (Sender.calls_agree call sender alike).shown_eq
  · intro σ handler remote cancel state running
    refine ⟨(reader.session_agree handler remote cancel state alike).shown_eq running, ?_⟩
    -- What the handler is asked is the state of the session that takes notes, and states agree.
    have noted := reader.session_noting handler remote cancel state one
    obtain ⟨-, notes, -⟩ := reader.session_agree handler.noting remote cancel (state, []) alike
      (by rw [noted]; exact running)
    exact congrArg Prod.snd notes

def threePieces : Link where
  reads := [{ cue := .act (.data [0, 0, 0, 2]) }, { cue := .act (.data [7]) },
    { notBefore := 5, cue := .act (.data [8]) }]

/-- A pool that has taken a large buffer back tells what a new pool tells. -/
theorem used_pool_receives_the_same :
    shown (Option.map Delivery.told) (Gathering.greedy.reader.calls (.receiveFrame none)
        { remote := ⟨IpAddress.loopback, 80, 0⟩, cancel := ⟨[0]⟩ }
        { resources := .after {} [.giveBackBuffer { bytes := [1, 2, 3], capacity := 4096 }]
          link := threePieces }) =
      (.ok (some ([7, 8], 6, ⟨IpAddress.loopback, 80, 0⟩)),
        { remote := ⟨IpAddress.loopback, 80, 0⟩, cancel := ⟨[0]⟩ }, { time := { now := 5 } }) := by
  have fresh : shown (Option.map Delivery.told) (Gathering.greedy.reader.calls (.receiveFrame none)
      { remote := ⟨IpAddress.loopback, 80, 0⟩, cancel := ⟨[0]⟩ }
      { resources := .after {} [], link := threePieces }) =
      (.ok (some ([7, 8], 6, ⟨IpAddress.loopback, 80, 0⟩)),
        { remote := ⟨IpAddress.loopback, 80, 0⟩, cancel := ⟨[0]⟩ }, { time := { now := 5 } }) := by
    cbv
  have running := congrArg (fun seen => seen.2.2.time.cancelled) fresh
  obtain ⟨received, -, -⟩ := Gathering.greedy.reader.pasts_do_not_show {} []
    [.giveBackBuffer { bytes := [1, 2, 3], capacity := 4096 }] threePieces
  exact (received _ _ running).symm.trans fresh

end Reader

end FramedTransport
