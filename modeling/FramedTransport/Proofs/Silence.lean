import FramedTransport.Proofs.Dialogue
import FramedTransport.Proofs.Repaying
import Mathlib.Tactic

/-!
Nothing moves after a cancellation.
The calls of an operation listen for it, each of them before each of its polls, and no pause
takes it back. So a cancelled half keeps its link as it is for good and closes at the next call,
and a cancelled session asks its handler no more about anything that it had not read before.
-/

namespace FramedTransport

open SocketCall

namespace HalfDesk

variable {κ η : Type} {calls : Calls κ η} {made : κ → η → Exchange → List SocketCall}
  {start desk last : HalfDesk η} {record : List (Answered κ)}

def Traces (calls : Calls κ η) (made : κ → η → Exchange → List SocketCall) : Prop :=
  ∀ settings call half exchange, exchange.Tidy settings →
    Traced exchange.link (made call half exchange) (calls call half exchange).2.2.link

theorem Run.tidy (run : Run calls start record last) (repays : Repays calls)
    (tidy : start.exchange.resources.Tidy) : last.exchange.resources.Tidy := by
  refine run.invariant (fun _ desk => desk.exchange.resources.Tidy) tidy ?_ ?_
  · intro record desk later before same
    exact same.tidy before
  · intro record desk call before returned
    exact (repays _ _ _ call desk.half desk.exchange (.none before)).tidy

structure Silent (link : Link) (desk : HalfDesk η) : Prop where
  cancelled : desk.exchange.link.time.cancelled = true
  same : desk.exchange.link = { link with time := desk.exchange.link.time }

theorem cancelled_sleep {time : Timeline} (cancelled : time.cancelled = true) (millis : Nat) :
    (time.sleep millis).cancelled = true := by
  unfold Timeline.sleep
  dsimp only
  split
  · split
    · rfl
    · exact cancelled
  · exact cancelled

theorem link_giveBackAll (deliveries : List Delivery) (desk : HalfDesk η) :
    (deliveries.foldl giveBack desk).exchange.link = desk.exchange.link := by
  induction deliveries generalizing desk with
  | nil => rfl
  | cons delivery rest ih => exact ih (desk.giveBack delivery)

theorem cancelled_pause {action : Action κ} (quiet : ∀ call keep, action ≠ .call call keep)
    (cancelled : desk.exchange.link.time.cancelled = true) :
    (desk.perform calls action).2.exchange.link.time.cancelled = true := by
  cases action with
  | call call keep => exact absurd rfl (quiet call keep)
  | cancel => rfl
  | sleep millis => exact cancelled_sleep cancelled millis
  | takeBytes =>
      unfold perform
      dsimp only
      split
      · exact cancelled
      · exact cancelled
  | release =>
      have same := link_giveBackAll desk.kept { desk with kept := [] }
      exact (congrArg (fun link => link.time.cancelled) same).trans cancelled

theorem link_perform_call (call : κ) (keep : Bool) :
    (desk.perform calls (.call call keep)).2.exchange.link =
      (calls call desk.half desk.exchange).2.2.link := by
  unfold perform
  dsimp only
  split
  · rfl
  · rfl
  · split
    · rfl
    · rfl

theorem Run.silent (run : Run calls start record last) (repays : Repays calls)
    (traces : Traces calls made) (tidy : start.exchange.resources.Tidy)
    (cancelled : start.exchange.link.time.cancelled = true) :
    Silent start.exchange.link last := by
  induction run with
  | start => exact ⟨cancelled, rfl⟩
  | call call keep before returned ih =>
      rename_i record desk
      obtain ⟨still, -⟩ := (traces _ call desk.half desk.exchange
        ⟨before.tidy repays tidy, rfl⟩).cancelled ih.cancelled
      rw [← @link_perform_call _ _ calls desk call keep] at still
      constructor
      · rw [still]
        exact ih.cancelled
      · rw [still]
        exact ih.same
  | pause action before quiet ih =>
      rename_i record desk
      refine ⟨cancelled_pause quiet ih.cancelled, ?_⟩
      rw [(undisturbed_pause calls action quiet desk).link, ih.same]
  | elsewhere resources before clean ih => exact ⟨ih.cancelled, ih.same⟩

/-- What a cancellation means for a call on a half, at whatever moment it comes. -/
structure Heeds (calls : Calls κ η) (made : κ → η → Exchange → List SocketCall)
    (desk : HalfDesk η) (call : κ) : Prop where
  hushed : Hushed desk.exchange.link (made call desk.half desk.exchange)
    (calls call desk.half desk.exchange).2.2.link
  silent : desk.exchange.link.time.cancelled = true →
    ∀ more later, Run calls desk more later → Silent desk.exchange.link later

theorem heeds (repays : Repays calls) (traces : Traces calls made)
    (tidy : desk.exchange.resources.Tidy) (call : κ) : Heeds calls made desk call where
  hushed := (traces _ call desk.half desk.exchange ⟨tidy, rfl⟩).hushed
  silent cancelled _ _ run := run.silent repays traces tidy cancelled

end HalfDesk

theorem Receiver.traces :
    HalfDesk.Traces Receiver.calls fun call receiver => receiver.socketCalls call :=
  fun _ call receiver _ tidy => calls_traced call receiver tidy

theorem Sender.traces :
    HalfDesk.Traces Sender.calls fun call sender => sender.socketCalls call :=
  fun _ call sender _ tidy => calls_traced call sender tidy

theorem Receiver.repays : HalfDesk.Repays Receiver.calls :=
  fun _ _ _ call receiver _ => calls_lends call receiver

theorem Sender.repays : HalfDesk.Repays Sender.calls :=
  fun _ _ _ call sender _ => calls_lends call sender

namespace Session

variable {σ : Type} {settings : Settings} {handler : Handler σ} {remote : SocketAddress}
  {state final : σ} {link last : Link} {rounds : List Round} {outcome : Outcome SessionEnd}

theorem Spoken.unasked
    (spoken : Spoken settings handler remote state link rounds outcome final last)
    (cancelled : link.time.cancelled = true) : rounds.filterMap (·.question) = [] := by
  cases spoken with
  | unheard read lawful closed => rfl
  | silent asked silence rest => simp [asked.running] at cancelled
  | unanswered asked answered sending => simp [asked.running] at cancelled
  | answered asked answered sending rest => simp [asked.running] at cancelled

/-- A question that comes after the cancellation is the last. -/
theorem Spoken.latest
    (spoken : Spoken settings handler remote state link rounds outcome final last)
    {before after : List Question} {question : Question}
    (asked : rounds.filterMap (·.question) = before ++ question :: after)
    (late : question.time.cancelled = true) : after = [] := by
  induction spoken generalizing before with
  | unheard read lawful closed => simp at asked
  | silent now silence rest ih =>
      cases before with
      | nil =>
          obtain ⟨rfl, rfl⟩ : _ = question ∧ _ = after := by simpa using asked
          exact rest.unasked (now.time ▸ late)
      | cons first before =>
          obtain ⟨-, later⟩ : _ = first ∧ _ = before ++ question :: after := by simpa using asked
          exact ih later
  | unanswered now answered sending =>
      cases before with
      | nil =>
          obtain ⟨-, rfl⟩ : _ = question ∧ [] = after := by simpa using asked
          rfl
      | cons first before => simp at asked
  | answered now answered sending rest ih =>
      cases before with
      | nil =>
          obtain ⟨rfl, rfl⟩ : _ = question ∧ _ = after := by simpa using asked
          -- The answer is not written any more, so the next round finds the cancellation as well.
          have stopped := now.time ▸ late
          obtain ⟨same, -⟩ := sending.traced.cancelled stopped
          exact rest.unasked (same ▸ stopped)
      | cons first before =>
          obtain ⟨-, later⟩ : _ = first ∧ _ = before ++ question :: after := by simpa using asked
          exact ih later

theorem Spoken.heard
    (spoken : Spoken settings handler remote state link rounds outcome final last) :
    ∀ round ∈ rounds, ∀ question, round.question = some question →
      receivedBy round.reads = Wire.image question.request.payload := by
  induction spoken with
  | unheard read lawful closed => simp
  | silent asked silence rest ih => simpa using ⟨asked.brings, ih⟩
  | unanswered asked answered sending => simpa using asked.brings
  | answered asked answered sending rest ih => simpa using ⟨asked.brings, ih⟩

/-- What a cancellation means for a session, at whatever moment it comes. -/
structure Heeds (link : Link) (rounds : List Round) (farewell : List SocketCall) (last : Link) :
    Prop where
  hushed : ∃ middle, Hushed link (rounds.flatMap Round.calls) middle ∧ Linked middle farewell last
  serving : ∀ call ∈ rounds.flatMap Round.calls, call.request ≠ .shutdown
  parting : farewell.length ≤ 1 ∧ ∀ call ∈ farewell, call.request = .shutdown
  heard : ∀ round ∈ rounds, ∀ question, round.question = some question →
    receivedBy round.reads = Wire.image question.request.payload
  latest : ∀ before question after,
    rounds.filterMap (·.question) = before ++ question :: after →
      question.time.cancelled = true → after = []

theorem start_heeds (handler : Handler σ) (state : σ) (remote : SocketAddress)
    (cancel : CancelToken) (resources : Resources) (link : Link) (tidy : resources.Tidy) :
    let session := (start remote cancel resources).1
    let exchange : Exchange := { resources := (start remote cancel resources).2, link }
    let rounds := dialogue handler remote cancel session.frame state exchange
    let ended := run handler session state exchange
    Handled handler state (rounds.filterMap (·.question)) ended.2.1 ∧
      ∃ farewell, socketCalls handler session state exchange =
          rounds.flatMap Round.calls ++ farewell ∧
        Heeds link rounds farewell ended.2.2.link := by
  intro session exchange rounds ended
  obtain ⟨_, outcome, last, rfl, spoken, clean, made, -, parted⟩ :=
    start_spoken handler state remote cancel resources link tidy
  refine ⟨spoken.handled, farewellCalls outcome last, made, ?_⟩
  constructor
  · refine ⟨last.link, spoken.traced.hushed, ?_⟩
    have linked := linked_conclude outcome last
    rwa [← parted] at linked
  · exact spoken.not_shutdown
  · exact farewellCalls_shutdown outcome last
  · exact spoken.heard
  · intro before question after
    exact spoken.latest

end Session

namespace Exchange

open HalfDesk

/-- Whenever a receiver, a sender or a session is cancelled: no poll of a read, a write or a flush
begins after that, and the link stays as it is. The next call on an open half says so and closes the
half, unless it has a frame to send that is too large. A session puts no question after the one that
it had already read, and makes no call after its rounds but one shutdown. -/
theorem cancellation_silences :
    (∀ (start desk : HalfDesk Receiver) record, start.exchange.resources.Tidy →
      Run Receiver.calls start record desk → ∀ call,
      let ended := Receiver.calls call desk.half desk.exchange
      HalfDesk.Heeds Receiver.calls (fun call receiver => receiver.socketCalls call) desk call ∧
        (desk.half.isOpen = true → desk.exchange.link.time.cancelled = true →
          Countable call.deadline →
            ended.1 = .error (.error (.cancelled .receive)) ∧ ended.2.1.isOpen = false)) ∧
    (∀ (start desk : HalfDesk Sender) record, start.exchange.resources.Tidy →
      Run Sender.calls start record desk → ∀ call,
      let ended := Sender.calls call desk.half desk.exchange
      let excessive := call.Excessive desk.exchange.resources.settings.maxFrameSize
      HalfDesk.Heeds Sender.calls (fun call sender => sender.socketCalls call) desk call ∧
        (desk.half.isOpen = true → desk.exchange.link.time.cancelled = true →
          (excessive → desk.half.socketCalls call desk.exchange = [] ∧
            ∃ length limit, ended.1 = .error (.error (.frameTooLarge length limit))) ∧
          (¬ excessive → Countable call.deadline →
            ended.1 = .error (.error (.cancelled call.operation)) ∧ ended.2.1.isOpen = false))) ∧
    (∀ (σ : Type) (handler : Handler σ) state remote cancel (resources : Resources) link,
      resources.Tidy →
      let session := (Session.start remote cancel resources).1
      let exchange : Exchange := { resources := (Session.start remote cancel resources).2, link }
      let rounds := Session.dialogue handler remote cancel session.frame state exchange
      let ended := Session.run handler session state exchange
      Session.Handled handler state (rounds.filterMap (·.question)) ended.2.1 ∧
        ∃ farewell, Session.socketCalls handler session state exchange =
            rounds.flatMap Session.Round.calls ++ farewell ∧
          Session.Heeds link rounds farewell ended.2.2.link) := by
  refine ⟨?_, ?_, ?_⟩
  · intro start desk record tidy run call ended
    have clean : desk.exchange.Tidy _ := ⟨run.tidy Receiver.repays tidy, rfl⟩
    refine ⟨HalfDesk.heeds Receiver.repays Receiver.traces clean.resources call, ?_⟩
    intro opened cancelled countable
    exact Receiver.calls_cancelled opened countable clean cancelled
  · intro start desk record tidy run call ended excessive
    have clean : desk.exchange.Tidy _ := ⟨run.tidy Sender.repays tidy, rfl⟩
    refine ⟨HalfDesk.heeds Sender.repays Sender.traces clean.resources call, ?_⟩
    intro opened cancelled
    constructor
    · intro large
      obtain ⟨refused, -, -, silent⟩ := Sender.calls_excessive opened large
      exact ⟨silent, refused⟩
    · intro moderate countable
      exact Sender.calls_cancelled opened countable clean cancelled moderate
  · intro σ handler state remote cancel resources link tidy
    exact Session.start_heeds handler state remote cancel resources link tidy

def cancelledReceiver : HalfDesk Receiver where
  half := { remote := ⟨IpAddress.loopback, 80, 0⟩, cancel := ⟨[]⟩ }
  exchange :=
    { resources := Resources.ofSettings {}
      link := { time := { cancelled := true }, reads := [{ cue := .act (.data [0, 0, 0, 1, 7]) }] } }

def cancelledSender : HalfDesk Sender where
  half := { remote := ⟨IpAddress.loopback, 80, 0⟩, cancel := ⟨[]⟩ }
  exchange := { resources := Resources.ofSettings {}, link := { time := { cancelled := true } } }

/-- A peer whose session is cancelled inside the poll that reads the last byte of a frame. -/
def lastByteCancels : Link where
  reads :=
    [{ cue := .act (.data [0, 0, 0, 1]) }, { cue := .cancel }, { cue := .act (.data [7]) },
      { cue := .act (.data [0, 0, 0, 0]) }]

def lateSession : Session := (Session.start ⟨IpAddress.loopback, 80, 0⟩ ⟨[]⟩ (Resources.ofSettings {})).1

def lateExchange : Exchange where
  resources := (Session.start ⟨IpAddress.loopback, 80, 0⟩ ⟨[]⟩ (Resources.ofSettings {})).2
  link := lastByteCancels

def lateRounds : List Session.Round :=
  Session.dialogue Session.twice ⟨IpAddress.loopback, 80, 0⟩ ⟨[]⟩ lateSession.frame 0 lateExchange

theorem questions_lateRounds :
    (lateRounds.filterMap (·.question)).map (·.time.cancelled) = [true] := by
  rw [lateRounds, Session.dialogue_eq]
  cbv

theorem lastByteCancels_silences :
    (Receiver.calls (.receiveFrame none) cancelledReceiver.half cancelledReceiver.exchange).1 =
        .error (.error (.cancelled .receive)) ∧
      (Sender.calls (.sendFrame [7] none) cancelledSender.half cancelledSender.exchange).1 =
        .error (.error (.cancelled .send)) ∧
      (lateRounds.filterMap (·.question)).map (·.time.cancelled) = [true] ∧
      ∃ farewell last, Session.Heeds lastByteCancels lateRounds farewell last := by
  obtain ⟨receiving, sending, serving⟩ := cancellation_silences
  have tidy : (Resources.ofSettings {}).Tidy := Resources.tidy_ofSettings {}
  refine ⟨?_, ?_, questions_lateRounds, ?_⟩
  · have law := receiving cancelledReceiver cancelledReceiver [] tidy .start (.receiveFrame none)
    exact (law.2 rfl rfl (by simp [Countable, Receiver.Call.deadline])).1
  · have law := sending cancelledSender cancelledSender [] tidy .start (.sendFrame [7] none)
    have moderate : ¬ Sender.Call.Excessive 16777216 (.sendFrame [7] none) := by
      simp [Sender.Call.Excessive, UInt32.size]
    exact ((law.2 rfl rfl).2 moderate (by simp [Countable, Sender.Call.deadline])).1
  · obtain ⟨-, farewell, -, heeds⟩ := serving Nat Session.twice 0 ⟨IpAddress.loopback, 80, 0⟩ ⟨[]⟩
      (Resources.ofSettings {}) lastByteCancels tidy
    exact ⟨farewell, _, heeds⟩

end Exchange

end FramedTransport
