import FramedTransport.Proofs.Attendance
import Mathlib.Data.List.Induction

/-!
The readers of a datagram server in a burst.
A receive that has completed keeps its place until the server joins it, and only
then is its replacement issued. So the socket has all its readers exactly as long
as nothing has completed that is not joined. A burst takes away as many of them
as it has datagrams, all but the one that has just been replaced.
-/

namespace FramedTransport

namespace DatagramServer

variable {σ : Type}

namespace Serving

def readers (serving : Serving σ) : Nat := serving.receives.countP Receive.waits

def unjoined (serving : Serving σ) : Nat := serving.receives.countP fun receive => !receive.waits

variable {serving : Serving σ} {position : Nat}

theorem readers_add_unjoined (serving : Serving σ) :
    serving.readers + serving.unjoined = serving.receives.length := by
  rw [List.length_eq_countP_add_countP Receive.waits]
  simp only [readers, unjoined, Bool.not_eq_true, Bool.decide_eq_false]

theorem unjoined_eq_zero :
    serving.unjoined = 0 ↔ ∀ receive ∈ serving.receives, receive.waits = true := by
  simp [unjoined, List.countP_eq_zero]

theorem unjoined_issue (serving : Serving σ) : serving.issue.unjoined = serving.unjoined := by
  unfold issue
  rcases serving.endpoint.armReceive none serving.exchange.resources with ⟨_ | ticket, resources⟩
  · rfl
  · simp only [unjoined, List.countP_append]
    rfl

theorem unjoined_take {receive : Receive} (there : serving.receives[position]? = some receive)
    (complete : receive.waits = false) :
    (serving.take position receive).unjoined + 1 = serving.unjoined := by
  simp only [unjoined, (Receive.perm_eraseIdx there).countP_eq, List.countP_cons, complete]
  rfl

theorem unjoined_meet {signals : Signals} {room : Buffer}
    (waiting : serving.receives[position]? =
      some (.waiting { armed := some signals, lease := some room })) (number : Nat)
    (datagram : Datagram) :
    (serving.meet position signals room number datagram).unjoined = serving.unjoined + 1 := by
  have after := (Receive.perm_set waiting (.met number (Endpoint.received
    (.ok (datagram.cut room.length)) { armed := some signals, lease := some room }
      serving.exchange).1)).countP_eq fun receive => !receive.waits
  refine after.trans ?_
  simp only [unjoined, (Receive.perm_eraseIdx waiting).countP_eq, List.countP_cons]
  rfl

end Serving

/-- What a server that has issued its first receives has of its own is as it was before. -/
theorem issueMany_eq (count : Nat) (serving : Serving σ) :
    ∃ receives exchange, Serving.issueMany count serving = { serving with receives, exchange } ∧
      (Serving.issueMany count serving).unjoined = serving.unjoined := by
  induction count generalizing serving with
  | zero => exact ⟨_, _, rfl, rfl⟩
  | succ count ih =>
      obtain ⟨more, resources, new, -⟩ := issue_eq serving
      obtain ⟨receives, exchange, same, unjoined⟩ := ih serving.issue
      refine ⟨receives, exchange, ?_, ?_⟩
      · rw [Serving.issueMany, same, new]
      · rw [Serving.issueMany, unjoined, Serving.unjoined_issue]

variable {handler : Handler σ} {start : Resources} {count : Nat} {opening serving : Serving σ}
  {burst : List Datagram}

/-- A burst has been met by as many receives as it has datagrams, and none of them is joined. -/
structure Overtaken (handler : Handler σ) (burst : List Datagram) (opening serving : Serving σ) :
    Prop where
  run : Run handler opening serving
  selecting : serving.stage = .selecting
  running : serving.shutDown = false
  arrived : serving.arrived = burst
  unjoined : serving.unjoined = burst.length
  met : burst ≠ [] → ∃ (position number : Nat) (delivery : Delivery),
    serving.receives[position]? = some (.met number (.ok delivery))

theorem Overtaken.further (overtaken : Overtaken handler burst opening serving)
    (kept : Kept start count opening) (short : burst.length < count) {datagram : Datagram}
    (framed : datagram.Framed start.settings.maxDatagramSize) :
    ∃ next, Overtaken handler (burst ++ [datagram]) opening next := by
  -- The burst has used up as many of the issued receives as have met one of its frames.
  have some_reader : 0 < serving.readers := by
    have issued := (kept.run overtaken.run).staffed.length
    rw [overtaken.selecting, ← serving.readers_add_unjoined, overtaken.unjoined] at issued
    change serving.readers + burst.length = count at issued
    omega
  obtain ⟨receive, issued, waits⟩ := List.countP_pos_iff.1 some_reader
  obtain ⟨position, there⟩ := List.mem_iff_getElem?.1 issued
  cases (kept.run overtaken.run).staffed.fine receive issued with
  | met present judged => cases waits
  | failed fault => cases waits
  | cancelled => cases waits
  | @waiting signals room roomy =>
      let number := serving.arrived.length
      have present : (serving.arrive datagram).arrived[number]? = some datagram :=
        List.getElem?_concat_length
      have met : Run handler opening
          ((serving.arrive datagram).meet position signals room number datagram) :=
        (overtaken.run.tail (.arrive datagram)).tail
          (.meet there (List.mem_append_right _ (List.mem_singleton_self _)) present)
      generalize outcome : (Endpoint.received (.ok (datagram.cut room.length))
        { armed := some signals, lease := some room }
        (serving.arrive datagram).exchange).1 = received
      have place : ((serving.arrive datagram).meet position signals room number
          datagram).receives[position]? = some (.met number received) := by
        rw [← outcome]
        exact List.getElem?_set_self (List.getElem?_eq_some_iff.1 there).1
      -- The receive has met a frame, so it has a delivery to hand over.
      have fine := (kept.run met).staffed.fine _ (List.mem_of_getElem? place)
      obtain ⟨delivery, rfl⟩ := (fine.met_frame present).1 framed
      refine ⟨_, met, overtaken.selecting, overtaken.running, ?_, ?_, ?_⟩
      · rw [← overtaken.arrived]
        rfl
      · have issued : (serving.arrive datagram).receives[position]? = _ := there
        have more := Serving.unjoined_meet issued number datagram
        rw [more, List.length_append, ← overtaken.unjoined]
        rfl
      · exact fun _ => ⟨position, number, delivery, place⟩

/-- A burst of frames that is no larger than the number of receives may be met at once. -/
theorem overtaken_burst (kept : Kept start count opening)
    (first : Overtaken handler [] opening opening) (fits : burst.length ≤ count)
    (framed : ∀ datagram ∈ burst, datagram.Framed start.settings.maxDatagramSize) :
    ∃ serving, Overtaken handler burst opening serving := by
  induction burst using List.reverseRecOn with
  | nil => exact ⟨opening, first⟩
  | append_singleton earlier last ih =>
      rw [List.length_append, List.length_singleton] at fits
      obtain ⟨serving, overtaken⟩ := ih (by omega) fun datagram member =>
        framed datagram (List.mem_append_left _ member)
      exact overtaken.further kept (by omega) (framed last (by simp))

theorem overtaken_opening (handler : Handler σ) (endpoint : Endpoint) (count : Nat)
    (exchange : DatagramExchange) (first : σ) :
    Overtaken handler [] (Serving.opening endpoint count exchange first)
      (Serving.opening endpoint count exchange first) := by
  obtain ⟨receives, opened, same, unjoined⟩ :=
    issueMany_eq count ({ endpoint, exchange, state := first, receives := [] } : Serving σ)
  change Serving.opening endpoint count exchange first = _ at same
  exact
    { run := .refl
      selecting := stage_opening endpoint count exchange first
      running := by rw [same]
      arrived := by rw [same]
      unjoined
      met := fun some => absurd rfl some }

/-- The handler of a server finds all its receives issued, but on the socket only those of them that
have not completed: it has all its readers only if none has completed. A burst of frames that is
met before the first of them is joined leaves no more readers than it has left over and the one that
has just been issued. -/
theorem readers_wait_unless_completed (handler : Handler σ) (endpoint : Endpoint) (count : Nat)
    (exchange : DatagramExchange) (first : σ) (sound : exchange.resources.Sound) :
    (∀ serving number delivery,
      Run handler (Serving.opening endpoint count exchange first) serving →
      serving.stage = .handling number delivery →
        serving.exchange.resources.tickets.stats.outstanding =
            exchange.resources.tickets.stats.outstanding + serving.readers ∧
          serving.readers + serving.unjoined = count ∧
          (serving.readers = count ↔ ∀ receive ∈ serving.receives, receive.waits = true)) ∧
      ∀ burst : List Datagram, burst ≠ [] → burst.length ≤ count →
        (∀ datagram ∈ burst, datagram.Framed exchange.resources.settings.maxDatagramSize) →
          ∃ serving number delivery,
            Run handler (Serving.opening endpoint count exchange first) serving ∧
              serving.stage = .handling number delivery ∧ serving.arrived = burst ∧
              serving.readers + burst.length = count + 1 := by
  have kept := kept_opening endpoint count exchange first sound.toTidy
  have issued {serving : Serving σ} {number : Nat} {delivery : Delivery}
      (run : Run handler (Serving.opening endpoint count exchange first) serving)
      (handling : serving.stage = .handling number delivery) :
      serving.readers + serving.unjoined = count := by
    have length := (kept.run run).staffed.length
    rw [handling] at length
    exact serving.readers_add_unjoined.trans length
  constructor
  · intro serving number delivery run handling
    have tickets := (Attended.served sound (kept.run run)
      ((attended_opening endpoint count exchange _).run kept run)).tickets
    rw [handling] at tickets
    have parts := issued run handling
    refine ⟨tickets, parts, ?_⟩
    rw [← Serving.unjoined_eq_zero]
    omega
  · intro burst present fits framed
    obtain ⟨serving, overtaken⟩ := overtaken_burst kept
      (overtaken_opening handler endpoint count exchange first) fits framed
    obtain ⟨position, number, delivery, there⟩ := overtaken.met present
    -- One of them is joined, and its replacement is on the socket before the handler is asked.
    have joined := overtaken.run.tail (.join overtaken.selecting overtaken.running there rfl)
    obtain ⟨more, resources, new, -⟩ :=
      issue_eq (serving.take position (.met number (.ok delivery)))
    refine ⟨_, number, delivery, joined, rfl, ?_, ?_⟩
    · rw [← overtaken.arrived, Serving.join, new]
      rfl
    · have left := Serving.unjoined_take there rfl
      rw [← Serving.unjoined_issue, overtaken.unjoined] at left
      have parts := issued joined rfl
      change _ + (serving.take position (.met number (.ok delivery))).issue.unjoined = count
        at parts
      omega

/-- Three receives and three frames at once. -/
theorem three_frames_leave_one_reader :
    ∃ serving number delivery,
      Run echo (Serving.opening ⟨⟨IpAddress.loopback, 80, 0⟩, ⟨[]⟩⟩ 3 narrow 0) serving ∧
        serving.stage = .handling number delivery ∧
          serving.exchange.resources.tickets.stats.outstanding = 1 := by
  obtain ⟨law, burst⟩ := readers_wait_unless_completed echo ⟨⟨IpAddress.loopback, 80, 0⟩, ⟨[]⟩⟩ 3
    narrow 0 (Resources.sound_ofSettings _)
  obtain ⟨serving, number, delivery, run, handling, -, readers⟩ :=
    burst (List.replicate 3 ⟨Wire.image [], IpAddress.loopback, 81, 0⟩) (by simp) (by simp) (by
      intro datagram member
      rw [List.eq_of_mem_replicate member]
      exact ⟨by decide, ⟨[], by decide⟩, rfl⟩)
  obtain ⟨tickets, -, -⟩ := law serving number delivery run handling
  rw [List.length_replicate] at readers
  refine ⟨serving, number, delivery, run, handling, tickets.trans ?_⟩
  change 0 + serving.readers = 1
  omega

/-- The socket does not always have as many readers as the server was started with: of two receives
that have met a frame each, the one that is joined last has no replacement yet when the handler is
asked about the other one. -/
theorem burst_takes_a_reader :
    ∃ serving delivery,
      Run echo (Serving.opening ⟨⟨IpAddress.loopback, 80, 0⟩, ⟨[]⟩⟩ 2 narrow 0) serving ∧
        serving.arrived = [⟨[0, 0, 0, 1, 7], ⟨IpAddress.loopback, 81, 0⟩⟩,
          ⟨[0, 0, 0, 1, 8], ⟨IpAddress.loopback, 82, 0⟩⟩] ∧
        serving.stage = .handling 0 delivery ∧ delivery.payload = [7] ∧ serving.readers = 1 ∧
          serving.exchange.resources.tickets.stats.outstanding = 1 := by
  have arrived : Run echo (Serving.opening ⟨⟨IpAddress.loopback, 80, 0⟩, ⟨[]⟩⟩ 2 narrow 0) _ :=
    .tail (.single (.arrive ⟨[0, 0, 0, 1, 7], ⟨IpAddress.loopback, 81, 0⟩⟩))
      (.arrive ⟨[0, 0, 0, 1, 8], ⟨IpAddress.loopback, 82, 0⟩⟩)
  have met := arrived.tail (@Step.meet _ _ _ 0 0 _ _ _ rfl (by decide) rfl)
  have both := met.tail (@Step.meet _ _ _ 1 1 _ _ _ rfl (by decide) rfl)
  have joined := both.tail (@Step.join _ _ _ 0 _ rfl rfl rfl rfl)
  exact ⟨_, _, joined, rfl, rfl, rfl, rfl, rfl⟩

end DatagramServer

end FramedTransport
