import FramedTransport.Proofs.Handling
import Mathlib.Data.List.Nodup

/-!
A datagram server after whatever has happened to it.
No order of arrivals, faults, completions, closings and replies takes a reader
from a server that has not ended, keeps a ticket or a buffer from the pools, or
makes the handler see a datagram twice or not at all.
-/

namespace FramedTransport

namespace DatagramServer

variable {σ : Type}

namespace Receive

theorem total_tickets (receives : List Receive) :
    total tickets receives = receives.countP waits :=
  sum_map_eq_countP (fun receive => by cases receive <;> rfl) receives

theorem total_buffers (receives : List Receive) :
    total buffers receives = receives.countP waits + (receives.filterMap frame?).length := by
  induction receives with
  | nil => rfl
  | cons receive rest ih =>
      rw [total_cons, ih, List.countP_cons, List.filterMap_cons]
      cases receive with
      | waiting ticket =>
          change 1 + (rest.countP waits + (rest.filterMap frame?).length) =
            rest.countP waits + 1 + (rest.filterMap frame?).length
          omega
      | met number outcome =>
          cases outcome with
          | ok delivery => exact Nat.add_comm ..
          | error halt => exact Nat.zero_add _
      | failed halt => exact Nat.zero_add _

theorem frame?_sublist_number? (receives : List Receive) :
    (receives.filterMap frame?).Sublist (receives.filterMap number?) := by
  induction receives with
  | nil => exact List.Sublist.slnil
  | cons receive rest ih =>
      rw [List.filterMap_cons, List.filterMap_cons]
      cases receive with
      | waiting ticket => exact ih
      | met number outcome =>
          cases outcome with
          | ok delivery => exact ih.cons_cons number
          | error halt => exact ih.cons number
      | failed halt => exact ih

end Receive

theorem Receive.Fine.met_frame {limit number : Nat} {arrived : List Datagram}
    {outcome : Outcome Delivery} {datagram : Datagram}
    (fine : (Receive.met number outcome).Fine limit arrived)
    (present : arrived[number]? = some datagram) :
    datagram.Framed limit ↔ ∃ delivery, outcome = .ok delivery := by
  cases fine with
  | met found judged =>
      obtain rfl := Option.some.inj (found.symm.trans present)
      cases judged with
      | frame framed payload remote => exact ⟨fun _ => ⟨_, rfl⟩, fun _ => framed⟩
      | oversize excess =>
          exact ⟨fun framed => absurd framed.1 (Nat.not_le_of_lt excess), nofun⟩
      | malformed detail odd => exact ⟨fun framed => absurd framed odd, nofun⟩

variable {handler : Handler σ} {limit count : Nat} {first : σ} {before : List Datagram}
  {handles answers : List Nat} {serving : Serving σ}

/-! ### What follows from the records -/

section

variable (recorded : Recorded handler limit first before handles answers serving)
include recorded

theorem Recorded.nodup_joined : (serving.joined.filterMap Receive.number?).Nodup := by
  have all := recorded.numbers.nodup_iff.2 List.nodup_range
  rw [Serving.numbers, Serving.everyReceive, List.filterMap_append, List.filterMap_append] at all
  have behind := (List.nodup_append.1 (List.nodup_append.1 all).2.1).2.1
  exact (List.nodup_append.1 behind).1

theorem Recorded.nodup_calls : (serving.calls.map (·.number)).Nodup := by
  have frames := (Receive.frame?_sublist_number? serving.joined).nodup recorded.nodup_joined
  rw [← recorded.handled] at frames
  exact (List.nodup_append.1 frames).1

theorem Recorded.answered_sublist :
    (serving.answers.map (·.number)).Sublist (serving.calls.map (·.number)) :=
  ((List.sublist_append_left _ _).trans recorded.answered).trans (List.filter_sublist.map _)

theorem Recorded.once {number : Nat} {outcome : Outcome Delivery} {datagram : Datagram}
    (joined : .met number outcome ∈ serving.joined)
    (present : serving.arrived[number]? = some datagram) (framed : datagram.Framed limit)
    (settled : number ∉ handles) : (serving.calls.map (·.number)).count number = 1 := by
  obtain ⟨delivery, rfl⟩ := ((recorded.joined _ joined).met_frame present).1 framed
  have listed : number ∈ serving.calls.map (·.number) ++ handles := by
    rw [recorded.handled]
    exact List.mem_filterMap.2 ⟨_, joined, rfl⟩
  refine List.count_eq_one_of_mem recorded.nodup_calls ?_
  exact (List.mem_append.1 listed).resolve_right settled

end

/-! ### All runs -/

theorem recorded_opening (endpoint : Endpoint) (count : Nat) (exchange : DatagramExchange)
    (limit : Nat) :
    Recorded handler limit first exchange.link.sent [] []
      (Serving.opening endpoint count exchange first) := by
  have none : Recorded handler limit first exchange.link.sent [] []
      ({ endpoint, exchange, state := first, receives := [] } : Serving σ) :=
    { numbers := List.Perm.refl _
      joined := nofun
      handled := rfl
      asked := nofun
      heard := .nothing
      answered := List.Sublist.refl _
      replies := nofun
      sent := (List.append_nil _).symm }
  unfold Serving.opening
  generalize ({ endpoint, exchange, state := first, receives := [] } : Serving σ) = idle at none
  induction count generalizing idle with
  | zero => exact none
  | succ count ih => exact ih idle.issue none.issue

theorem attended_opening (endpoint : Endpoint) (count : Nat) (exchange : DatagramExchange)
    (limit : Nat) :
    Attended handler limit first exchange.link.sent
      (Serving.opening endpoint count exchange first) := by
  have selects := stage_opening endpoint count exchange first
  constructor
  · rw [selects]
    exact recorded_opening endpoint count exchange limit
  · rw [selects]
    exact .selecting

theorem Attended.run {start : Resources} {next : Serving σ}
    (attended : Attended handler start.settings.maxDatagramSize first before serving)
    (kept : Kept start count serving) (run : Run handler serving next) :
    Attended handler start.settings.maxDatagramSize first before next := by
  induction run with
  | refl => exact attended
  | tail earlier step ih => exact ih.step (kept.run earlier) step

/-- What holds at any time of a server that keeps `count` receives and has started on this
exchange, with its handler in the state `first`. -/
structure Served (handler : Handler σ) (count : Nat) (exchange : DatagramExchange) (first : σ)
    (serving : Serving σ) : Prop where
  /-- Every datagram that has arrived is pending or has been met by one receive. -/
  numbers : serving.numbers.Perm (List.range serving.arrived.length)
  /-- A receive, joined or not, hands over a frame or says what the datagram is instead. -/
  judged : ∀ number outcome, .met number outcome ∈ serving.receives ++ serving.joined →
    ∃ datagram, serving.arrived[number]? = some datagram ∧
      datagram.Judged exchange.resources.settings.maxDatagramSize outcome
  /-- All its receives are issued, also while its handler runs, until it has ended. -/
  readers : serving.receives.length = serving.stage.posts count
  /-- A ticket is out for each receive that waits, and for a reply on its way. -/
  tickets : serving.exchange.resources.tickets.stats.outstanding =
    exchange.resources.tickets.stats.outstanding +
      (serving.receives.countP Receive.waits + serving.stage.tickets)
  /-- A buffer is out for each receive that waits, for each that has brought a frame, and for what
  is being handled or answered. -/
  buffers : serving.exchange.resources.buffers.stats.outstanding =
    exchange.resources.buffers.stats.outstanding +
      (serving.receives.countP Receive.waits +
        (serving.receives.filterMap Receive.frame?).length + serving.stage.buffers)
  /-- The handler has seen the frames in the order in which they were joined, and nothing else. -/
  handled : serving.calls.map (·.number) ++ serving.stage.handles =
    serving.joined.filterMap Receive.frame?
  /-- A frame that is joined is about to be handled, and then it has been handled once. -/
  once : ∀ number outcome datagram, .met number outcome ∈ serving.joined →
    serving.arrived[number]? = some datagram →
      datagram.Framed exchange.resources.settings.maxDatagramSize →
        number ∉ serving.stage.handles → (serving.calls.map (·.number)).count number = 1
  ignored : ∀ number outcome datagram, .met number outcome ∈ serving.joined →
    serving.arrived[number]? = some datagram →
      ¬ datagram.Framed exchange.resources.settings.maxDatagramSize →
        number ∉ serving.calls.map (·.number) ∧ number ∉ serving.answers.map (·.number)
  asked : ∀ call ∈ serving.calls, ∃ datagram, serving.arrived[call.number]? = some datagram ∧
    datagram.Framed exchange.resources.settings.maxDatagramSize ∧ call.Asks datagram
  heard : Heard handler first serving.calls serving.state
  answeredOnce : (serving.answers.map (·.number)).Nodup
  /-- A reply says what the handler has said, to where the datagram came from. -/
  replies : ∀ answer ∈ serving.answers,
    (∃ call ∈ serving.calls, call.Answers answer.number answer.datagram) ∧
      ∃ datagram, serving.arrived[answer.number]? = some datagram ∧
        answer.datagram.remote = datagram.remote
  sent : serving.exchange.link.sent =
    exchange.link.sent ++ serving.answers.map (·.datagram)
  unbroken : ∀ result, serving.stage = .ended result → result = .ok ()

theorem Attended.served {exchange : DatagramExchange} (sound : exchange.resources.Sound)
    (kept : Kept exchange.resources count serving)
    (attended : Attended handler exchange.resources.settings.maxDatagramSize first
      exchange.link.sent serving) : Served handler count exchange first serving := by
  have recorded := attended.recorded
  have staffed := kept.staffed
  obtain ⟨tickets, buffers⟩ := staffed.lends.outstanding sound
  rw [Receive.total_tickets] at tickets
  rw [Receive.total_buffers] at buffers
  refine
    { numbers := recorded.numbers
      judged := ?_
      readers := staffed.length
      tickets
      buffers
      handled := recorded.handled
      once := fun _ _ _ joined present framed => recorded.once joined present framed
      ignored := ?_
      asked := recorded.asked
      heard := recorded.heard
      answeredOnce := recorded.answered_sublist.nodup recorded.nodup_calls
      replies := ?_
      sent := recorded.sent
      unbroken := kept.unbroken }
  · intro number outcome held
    have fine : (Receive.met number outcome).Fine _ serving.arrived :=
      (List.mem_append.1 held).elim (staffed.fine _) (recorded.joined _)
    cases fine with
    | met present judged => exact ⟨_, present, judged⟩
  · intro number outcome datagram joined present odd
    have uncalled : number ∉ serving.calls.map (·.number) := by
      intro listed
      obtain ⟨call, called, rfl⟩ := List.mem_map.1 listed
      obtain ⟨asked, found, framed, -⟩ := recorded.asked call called
      obtain rfl := Option.some.inj (found.symm.trans present)
      exact odd framed
    exact ⟨uncalled, fun listed => uncalled (recorded.answered_sublist.mem listed)⟩
  · intro answer answered
    obtain ⟨call, called, number, remote, said⟩ := recorded.replies answer answered
    obtain ⟨datagram, present, -, asks⟩ := recorded.asked call called
    rw [number] at present
    exact ⟨⟨call, called, number, remote, said⟩, datagram, present, remote.trans asks.remote⟩

/-- Whatever arrives, fails or is answered, and in whatever order, a server keeps its readers and
its handler sees every frame once. -/
theorem serves_each_datagram_once (handler : Handler σ) (endpoint : Endpoint) (count : Nat)
    (exchange : DatagramExchange) (first : σ) (sound : exchange.resources.Sound)
    {serving : Serving σ}
    (run : Run handler (Serving.opening endpoint count exchange first) serving) :
    Served handler count exchange first serving :=
  have kept := kept_opening endpoint count exchange first sound.toTidy
  Attended.served sound (kept.run run)
    ((attended_opening endpoint count exchange _).run kept run)

def narrow : DatagramExchange where
  resources := Resources.ofSettings { maxDatagramSize := 8 }
  link := {}

def echo : Handler Nat := fun request asked => (some request.payload, asked + 1)

/-- Two receives, of which the second one meets a frame and is joined before the first one, which
has met no frame. -/
theorem narrow_serves_each_datagram_once :
    ∃ serving, Run echo (Serving.opening ⟨⟨IpAddress.loopback, 80, 0⟩, ⟨[]⟩⟩ 2 narrow 0) serving ∧
      serving.joined.length = 2 ∧ serving.answers.map (·.number) = [1] ∧
      Served echo 2 narrow 0 serving := by
  have arrived : Run echo (Serving.opening ⟨⟨IpAddress.loopback, 80, 0⟩, ⟨[]⟩⟩ 2 narrow 0) _ :=
    .tail (.single (.arrive ⟨[1], ⟨IpAddress.loopback, 81, 0⟩⟩))
      (.arrive ⟨[0, 0, 0, 1, 7], ⟨IpAddress.loopback, 82, 0⟩⟩)
  have met := arrived.tail (@Step.meet _ _ _ 1 1 _ _ _ rfl (by decide) rfl)
  have both := met.tail (@Step.meet _ _ _ 0 0 _ _ _ rfl (by decide) rfl)
  have joined := both.tail (@Step.join _ _ _ 1 _ rfl rfl rfl rfl)
  have handled := joined.tail (.handle rfl)
  have answered := handled.tail (.answer rfl (@DatagramLink.Takes.some _ _
    { sent := [⟨[0, 0, 0, 1, 7], ⟨IpAddress.loopback, 82, 0⟩⟩] } 5 rfl))
  have last := answered.tail (@Step.join _ _ _ 0 _ rfl rfl rfl rfl)
  refine ⟨_, last, rfl, rfl, ?_⟩
  exact serves_each_datagram_once echo _ 2 narrow 0 (Resources.sound_ofSettings _) last

end DatagramServer

end FramedTransport
