import FramedTransport.Stream.Session
import FramedTransport.Stream.Acceptance
import FramedTransport.Proofs.Recycling
import Mathlib.Data.List.Nodup
import Mathlib.Data.List.Range
import Mathlib.Logic.Relation

/-!
An accept loop and all that happens around it.
The permits are numbered, and one that is let go of is free again. The loop waits
for a permit or for its shutdown, then for a connection or for its shutdown; it
looks at the shutdown first, but the shutdown may be cancelled between that look and
the other one. Sessions end at any time and in any way, and the rest of the engine
goes on renting, giving back and cancelling. The events of an accept loop are among
the runs here.
-/

namespace FramedTransport

namespace Cancellations

variable {before after : Cancellations} {token : CancelToken}

theorem isCancelled_mono (grown : before.cancelled ⊆ after.cancelled)
    (cancelled : before.isCancelled token = true) : after.isCancelled token = true := by
  simp only [isCancelled, List.any_eq_true, List.contains_iff_mem] at cancelled ⊢
  obtain ⟨number, known, among⟩ := cancelled
  exact ⟨number, known, grown among⟩

theorem isCancelled_descendant (number : Nat) (cancelled : before.isCancelled token = true) :
    before.isCancelled ⟨number :: token.lineage⟩ = true := by
  rw [isCancelled, List.any_cons, show token.lineage.any _ = true from cancelled, Bool.or_true]

end Cancellations

namespace AcceptLoop

/-- The session of the accepted connection with this number, and the permit that it holds. -/
structure Guest where
  number : Nat
  client : Client
  permit : Option Nat
deriving DecidableEq, Repr

/-- What a loop waits for. It is `cleared` if it has just found its shutdown not cancelled. -/
inductive Gate.Stage where
  | seeking (cleared : Bool)
  | accepting (cleared : Bool) (permit : Option Nat) (ticket : Ticket)
  | ended (result : Except TransportError Unit)

/-- A loop with its permits one by one, its sessions, and the connections that it has accepted. -/
structure Gate where
  limit : Option Nat
  shutdown : CancelToken
  shared : Shared
  free : List Nat
  stage : Gate.Stage := .seeking false
  live : List Guest := []
  past : List (Guest × Outcome SessionEnd) := []
  accepted : List SocketAddress := []

namespace Gate

def opening (loop : AcceptLoop) (shared : Shared) : Gate where
  limit := loop.limit
  shutdown := loop.shutdown
  shared
  free := List.range (loop.limit.getD 0)

def guests (gate : Gate) : List Guest := gate.live ++ gate.past.map Prod.fst

def shutDown (gate : Gate) : Bool := gate.shared.cancellations.isCancelled gate.shutdown

def Stage.permit? : Stage → Option Nat
  | .accepting _ permit _ => permit
  | .seeking _ | .ended _ => none

def Stage.phase : Stage → Phase
  | .seeking _ => .waiting
  | .accepting _ _ ticket => .accepting ticket
  | .ended result => .stopped result

def Stage.Looks (limited : Bool) : Stage → Prop
  | .seeking cleared => limited = true ∧ cleared = false
  | .accepting cleared _ _ => cleared = false
  | .ended _ => False

def held (gate : Gate) : Option Nat := gate.stage.permit?

def permits (gate : Gate) : List Nat :=
  gate.free ++ (gate.held.toList ++ gate.live.filterMap (·.permit))

def loop (gate : Gate) : AcceptLoop where
  limit := gate.limit
  shutdown := gate.shutdown
  phase := gate.stage.phase
  clients := gate.live.map (·.client)

def turn (stage : Stage) (gate : Gate) : Gate := { gate with stage }

def putBack (permit : Option Nat) (gate : Gate) : Gate :=
  { gate with free := permit.toList ++ gate.free }

def begin (permit : Option Nat) (gate : Gate) : Gate :=
  match gate.shared.resources.rentTicket { operation := .accept, cancel := some gate.shutdown } with
  | (.ok ticket, resources) =>
      { gate with
        shared := { gate.shared with resources }
        free := permit.elim gate.free gate.free.erase
        stage := .accepting false permit ticket }
  | (.error _, resources) => { gate with shared := { gate.shared with resources } }

/-- A session for the next connection. The permit is no longer the loop's. -/
def welcome (permit : Option Nat) (ticket : Ticket) (remote : SocketAddress) (gate : Gate) : Gate :=
  let shared := giveBack ticket gate.shared
  let (cancel, cancellations) := shared.cancellations.child gate.shutdown
  { gate with
    shared := { shared with cancellations }
    stage := .seeking false
    live := { number := gate.accepted.length, client := { cancel, remote }, permit } :: gate.live
    accepted := gate.accepted ++ [remote] }

def Stage.afterFailure : TransportError → Stage
  | .cancelled _ => .ended (.ok ())
  | reason => if reason.isFatal then .ended (.error reason) else .seeking false

def fail (permit : Option Nat) (ticket : Ticket) (reason : TransportError) (gate : Gate) : Gate :=
  putBack permit
    { gate with shared := giveBack ticket gate.shared, stage := Stage.afterFailure reason }

def depart (guest : Guest) (outcome : Outcome SessionEnd) (gate : Gate) : Gate :=
  putBack guest.permit
    { gate with live := gate.live.erase guest, past := (guest, outcome) :: gate.past }

inductive Step : Gate → Gate → Prop
  -- The rest of the engine rents and gives back, issues tokens and cancels some; it never takes a
  -- cancellation back, and the permits are none of its business.
  | elsewhere {gate : Gate} {shared : Shared} (tidy : shared.resources.Tidy)
      (issued : gate.shared.cancellations.issued ≤ shared.cancellations.issued)
      (cancelled : gate.shared.cancellations.cancelled ⊆ shared.cancellations.cancelled) :
      Step gate { gate with shared }
  | ask {gate : Gate} (seeks : gate.stage = .seeking false) (limited : gate.limit.isSome = true)
      (running : gate.shutDown = false) : Step gate (gate.turn (.seeking true))
  | stop {gate : Gate} (seeks : gate.stage = .seeking false) (limited : gate.limit.isSome = true)
      (seen : gate.shutDown = true) : Step gate (gate.turn (.ended (.ok ())))
  | wait {gate : Gate} (seeks : gate.stage = .seeking true) : Step gate (gate.turn (.seeking false))
  | acquire {gate : Gate} {permit : Nat} (seeks : gate.stage = .seeking true)
      (available : permit ∈ gate.free) : Step gate (gate.begin (some permit))
  | enter {gate : Gate} (seeks : gate.stage = .seeking false) (unlimited : gate.limit = none) :
      Step gate (gate.begin none)
  -- The shutdown is looked at before the socket is. It may be cancelled in between, so a connection
  -- may still be let in behind a look that has found nothing.
  | listen {gate : Gate} {permit : Option Nat} {ticket : Ticket}
      (accepts : gate.stage = .accepting false permit ticket) (running : gate.shutDown = false) :
      Step gate (gate.turn (.accepting true permit ticket))
  | cancelled {gate : Gate} {permit : Option Nat} {ticket : Ticket}
      (accepts : gate.stage = .accepting false permit ticket) (seen : gate.shutDown = true) :
      Step gate (gate.fail permit ticket (.cancelled .accept))
  | pause {gate : Gate} {permit : Option Nat} {ticket : Ticket}
      (accepts : gate.stage = .accepting true permit ticket) :
      Step gate (gate.turn (.accepting false permit ticket))
  | welcome {gate : Gate} {permit : Option Nat} {ticket : Ticket} (remote : SocketAddress)
      (accepts : gate.stage = .accepting true permit ticket) :
      Step gate (gate.welcome permit ticket remote)
  | fail {gate : Gate} {permit : Option Nat} {ticket : Ticket} (fault : Fault)
      (accepts : gate.stage = .accepting true permit ticket) :
      Step gate (gate.fail permit ticket (.transport .accept fault))
  | depart {gate : Gate} {guest : Guest} {outcome : Outcome SessionEnd} (there : guest ∈ gate.live)
      (finished : outcome ≠ .error .stalled) : Step gate (gate.depart guest outcome)

abbrev Run : Gate → Gate → Prop := Relation.ReflTransGen Step

/-- Whoever has been spawned holds a token of their own below the shutdown. -/
structure Guest.Belongs (gate : Gate) (guest : Guest) : Prop where
  remote : gate.accepted[guest.number]? = some guest.client.remote
  token : ∃ number < gate.shared.cancellations.issued,
    guest.client.cancel = ⟨number :: gate.shutdown.lineage⟩

/-- Every permit is in one place, and everyone who needs one has one. -/
structure Accounted (gate : Gate) : Prop where
  permits : gate.permits.Perm (List.range (gate.limit.getD 0))
  holding : ∀ cleared permit ticket, gate.stage = .accepting cleared permit ticket →
    permit.isSome = gate.limit.isSome
  admitted : ∀ guest ∈ gate.live, guest.permit.isSome = gate.limit.isSome

/-- Every accepted connection has one session, with a token of its own. -/
structure Registered (gate : Gate) : Prop where
  numbers : (gate.guests.map (·.number)).Perm (List.range gate.accepted.length)
  belongs : ∀ guest ∈ gate.guests, Guest.Belongs gate guest
  apart : (gate.guests.map (·.client.cancel)).Nodup

structure Orderly (gate : Gate) : Prop where
  tidy : gate.shared.resources.Tidy
  accounted : gate.Accounted
  registered : gate.Registered
  ended : ∀ result, gate.stage = .ended result → result = .ok () ∧ gate.shutDown = true

variable {gate next later : Gate} {permit : Option Nat} {ticket : Ticket} {stage : Stage}
  {guest : Guest} {outcome : Outcome SessionEnd}

theorem begin_eq (permit : Option Nat) (tidy : gate.shared.resources.Tidy) :
    ∃ ticket resources, resources.Tidy ∧ gate.begin permit =
      { gate with
        shared := { gate.shared with resources }
        free := permit.elim gate.free gate.free.erase
        stage := .accepting false permit ticket } := by
  obtain ⟨resources, rented, still, -⟩ :=
    tidy.rentTicket { operation := .accept, cancel := some gate.shutdown }
  refine ⟨{ armed := some { operation := .accept, cancel := some gate.shutdown } }, resources,
    still, ?_⟩
  unfold begin
  rw [rented]

theorem Stage.afterFailure_cases (reason : TransportError) :
    afterFailure reason = .seeking false ∨ ∃ result, afterFailure reason = .ended result := by
  unfold afterFailure
  split
  · exact .inr ⟨_, rfl⟩
  · split
    · exact .inr ⟨_, rfl⟩
    · exact .inl rfl

/-! ### The permits -/

theorem filterMap_permit (guest : Guest) (guests : List Guest) :
    (guest :: guests).filterMap (·.permit) =
      guest.permit.toList ++ guests.filterMap (·.permit) := by
  rw [List.filterMap_cons]
  cases guest.permit <;> rfl

theorem permits_putBack (permit : Option Nat) (gate : Gate) :
    (gate.putBack permit).permits = permit.toList ++ gate.permits :=
  List.append_assoc _ _ _

theorem permits_turn (same : stage.permit? = gate.stage.permit?) :
    (gate.turn stage).permits = gate.permits := by
  simp only [permits, held, turn, same]

theorem permits_begin (tidy : gate.shared.resources.Tidy) (empty : gate.held = none)
    (available : ∀ number ∈ permit, number ∈ gate.free) :
    (gate.begin permit).permits.Perm gate.permits := by
  obtain ⟨ticket, resources, -, same⟩ := begin_eq permit tidy
  have before : gate.permits = gate.free ++ gate.live.filterMap (·.permit) := by
    rw [permits, empty]
    rfl
  rw [same, before]
  cases permit with
  | none => exact .refl _
  | some number =>
      have taken := List.perm_cons_erase (available number rfl)
      exact List.perm_middle.trans (taken.symm.append_right _)

theorem permits_welcome (remote : SocketAddress) (holds : gate.held = permit) :
    (gate.welcome permit ticket remote).permits = gate.permits := by
  simp only [permits, holds]
  exact congrArg (gate.free ++ ·) (filterMap_permit _ _)

theorem permits_fail {reason : TransportError} (holds : gate.held = permit) :
    (gate.fail permit ticket reason).permits.Perm gate.permits := by
  have empty : (Stage.afterFailure reason).permit? = none := by
    rcases Stage.afterFailure_cases reason with after | ⟨result, after⟩ <;> rw [after] <;> rfl
  rw [fail, permits_putBack]
  simp only [permits, held] at holds ⊢
  rw [empty, holds]
  exact List.perm_append_comm_assoc _ _ _

theorem permits_depart (there : guest ∈ gate.live) :
    (gate.depart guest outcome).permits.Perm gate.permits := by
  have left := (List.perm_cons_erase there).filterMap (·.permit)
  rw [filterMap_permit] at left
  rw [depart, permits_putBack]
  refine (List.perm_append_comm_assoc _ _ _).trans (.append_left _ ?_)
  exact (List.perm_append_comm_assoc _ _ _).trans (left.symm.append_left _)

theorem Accounted.limited_of_mem (accounted : gate.Accounted) {number : Nat}
    (available : number ∈ gate.free) : gate.limit.isSome = true := by
  have counted := accounted.permits.mem_iff.1 (List.mem_append_left _ available)
  cases limit : gate.limit with
  | none =>
      rw [limit] at counted
      exact absurd counted List.not_mem_nil
  | some permits => rfl

theorem Accounted.turn (accounted : gate.Accounted) (same : stage.permit? = gate.stage.permit?)
    (kept : ∀ cleared permit ticket, stage = .accepting cleared permit ticket →
      ∃ cleared, gate.stage = .accepting cleared permit ticket) :
    (gate.turn stage).Accounted where
  permits := by
    rw [permits_turn same]
    exact accounted.permits
  holding cleared permit ticket accepts := by
    obtain ⟨before, accepted⟩ := kept cleared permit ticket accepts
    exact accounted.holding before permit ticket accepted
  admitted := accounted.admitted

theorem Accounted.begin (accounted : gate.Accounted) (tidy : gate.shared.resources.Tidy)
    (empty : gate.held = none) (available : ∀ number ∈ permit, number ∈ gate.free)
    (needed : permit.isSome = gate.limit.isSome) : (gate.begin permit).Accounted := by
  have moved := permits_begin tidy empty available
  obtain ⟨ticket, resources, -, same⟩ := begin_eq permit tidy
  rw [same] at moved ⊢
  exact
    { permits := moved.trans accounted.permits
      holding := by
        intro cleared other armed accepting
        rw [← (Stage.accepting.inj accepting).2.1]
        exact needed
      admitted := accounted.admitted }

theorem Accounted.welcome (accounted : gate.Accounted) (remote : SocketAddress) {cleared : Bool}
    (accepts : gate.stage = .accepting cleared permit ticket) :
    (gate.welcome permit ticket remote).Accounted where
  permits := by
    have holds : gate.held = permit := congrArg Stage.permit? accepts
    rw [permits_welcome remote holds]
    exact accounted.permits
  holding := by rintro - - - ⟨⟩
  admitted guest there := by
    rcases List.mem_cons.1 there with rfl | before
    · exact accounted.holding cleared permit ticket accepts
    · exact accounted.admitted guest before

theorem Accounted.fail (accounted : gate.Accounted) (reason : TransportError) {cleared : Bool}
    (accepts : gate.stage = .accepting cleared permit ticket) :
    (gate.fail permit ticket reason).Accounted where
  permits := (permits_fail (congrArg Stage.permit? accepts)).trans accounted.permits
  holding := by
    intro cleared other armed accepting
    change Stage.afterFailure reason = _ at accepting
    rcases Stage.afterFailure_cases reason with after | ⟨result, after⟩
    · cases after.symm.trans accepting
    · cases after.symm.trans accepting
  admitted := accounted.admitted

theorem Accounted.depart (accounted : gate.Accounted) (there : guest ∈ gate.live) :
    (gate.depart guest outcome).Accounted where
  permits := (permits_depart there).trans accounted.permits
  holding := accounted.holding
  admitted other still := accounted.admitted other (List.mem_of_mem_erase still)

/-! ### The sessions -/

theorem guests_welcome (permit : Option Nat) (ticket : Ticket) (remote : SocketAddress)
    (gate : Gate) :
    (gate.welcome permit ticket remote).guests =
      { number := gate.accepted.length, permit
        client :=
          { cancel := ⟨gate.shared.cancellations.issued :: gate.shutdown.lineage⟩
            remote } } :: gate.guests := rfl

theorem guests_depart (there : guest ∈ gate.live) :
    (gate.depart guest outcome).guests.Perm gate.guests :=
  List.perm_middle.trans ((List.perm_cons_erase there).symm.append_right _)

theorem Registered.onward (registered : gate.Registered) (guests : next.guests = gate.guests)
    (accepted : next.accepted = gate.accepted) (shutdown : next.shutdown = gate.shutdown)
    (issued : gate.shared.cancellations.issued ≤ next.shared.cancellations.issued) :
    next.Registered where
  numbers := by
    rw [guests, accepted]
    exact registered.numbers
  belongs guest spawned := by
    obtain ⟨remote, number, below, token⟩ := registered.belongs guest (guests ▸ spawned)
    exact ⟨accepted ▸ remote, number, below.trans_le issued, shutdown ▸ token⟩
  apart := by
    rw [guests]
    exact registered.apart

theorem Registered.welcome (registered : gate.Registered) (permit : Option Nat) (ticket : Ticket)
    (remote : SocketAddress) : (gate.welcome permit ticket remote).Registered where
  numbers := by
    have longer : (gate.welcome permit ticket remote).accepted.length = gate.accepted.length + 1 :=
      List.length_append
    rw [guests_welcome, longer, List.range_succ]
    exact (registered.numbers.cons _).trans (List.perm_append_singleton _ _).symm
  belongs guest spawned := by
    rw [guests_welcome] at spawned
    rcases List.mem_cons.1 spawned with rfl | before
    · exact ⟨List.getElem?_concat_length, _, Nat.lt_succ_self _, rfl⟩
    · obtain ⟨known, number, below, token⟩ := registered.belongs guest before
      exact ⟨List.getElem?_append_left (List.getElem?_eq_some_iff.1 known).1 ▸ known, number,
        Nat.lt_succ_of_lt below, token⟩
  apart := by
    rw [guests_welcome, List.map_cons, List.nodup_cons]
    refine ⟨?_, registered.apart⟩
    -- The new token has a number that was not issued before.
    intro taken
    obtain ⟨guest, spawned, same⟩ := List.mem_map.1 taken
    obtain ⟨-, number, below, token⟩ := registered.belongs guest spawned
    obtain rfl : number = gate.shared.cancellations.issued := by
      simpa [token] using same
    exact absurd below (lt_irrefl _)

theorem Registered.depart (registered : gate.Registered) (there : guest ∈ gate.live) :
    (gate.depart guest outcome).Registered where
  numbers := ((guests_depart there).map _).trans registered.numbers
  belongs other spawned := by
    obtain ⟨remote, token⟩ := registered.belongs other ((guests_depart there).mem_iff.1 spawned)
    exact ⟨remote, token⟩
  apart := ((guests_depart there).map _).nodup_iff.2 registered.apart

/-! ### One step and a whole run -/

theorem lasting_begin (permit : Option Nat) (gate : Gate) :
    (gate.begin permit).limit = gate.limit ∧ (gate.begin permit).shutdown = gate.shutdown ∧
      (gate.begin permit).shutDown = gate.shutDown := by
  unfold begin
  split
  · exact ⟨rfl, rfl, rfl⟩
  · exact ⟨rfl, rfl, rfl⟩

theorem Step.lasting (step : Step gate next) :
    next.limit = gate.limit ∧ next.shutdown = gate.shutdown ∧
      (gate.shutDown = true → next.shutDown = true) := by
  cases step with
  | elsewhere tidy issued cancelled =>
      exact ⟨rfl, rfl, Cancellations.isCancelled_mono cancelled⟩
  | ask | stop | wait | listen | cancelled | pause | welcome | fail | depart => exact ⟨rfl, rfl, id⟩
  | acquire | enter =>
      obtain ⟨limit, shutdown, same⟩ := lasting_begin _ gate
      exact ⟨limit, shutdown, same.trans⟩

theorem Orderly.turn (orderly : gate.Orderly) (same : stage.permit? = gate.stage.permit?)
    (kept : ∀ cleared permit ticket, stage = .accepting cleared permit ticket →
      ∃ cleared, gate.stage = .accepting cleared permit ticket)
    (ended : ∀ result, stage = .ended result → result = .ok () ∧ gate.shutDown = true) :
    (gate.turn stage).Orderly where
  tidy := orderly.tidy
  accounted := orderly.accounted.turn same kept
  registered := orderly.registered.onward rfl rfl rfl le_rfl
  ended := ended

theorem Orderly.begin (orderly : gate.Orderly) (empty : gate.held = none)
    (available : ∀ number ∈ permit, number ∈ gate.free)
    (needed : permit.isSome = gate.limit.isSome) : (gate.begin permit).Orderly := by
  have accounted := orderly.accounted.begin orderly.tidy empty available needed
  obtain ⟨ticket, resources, tidy, same⟩ := begin_eq permit orderly.tidy
  rw [same] at accounted ⊢
  exact
    { tidy
      accounted
      registered := orderly.registered.onward rfl rfl rfl le_rfl
      ended := by rintro - ⟨⟩ }

theorem Orderly.fail (orderly : gate.Orderly) {cleared : Bool} (reason : TransportError)
    (accepts : gate.stage = .accepting cleared permit ticket)
    (ended : ∀ result, Stage.afterFailure reason = .ended result →
      result = .ok () ∧ gate.shutDown = true) : (gate.fail permit ticket reason).Orderly where
  tidy := orderly.tidy.giveBackTicket ticket
  accounted := orderly.accounted.fail reason accepts
  registered := orderly.registered.onward rfl rfl rfl le_rfl
  ended := ended

theorem Step.orderly (step : Step gate next) (orderly : gate.Orderly) : next.Orderly := by
  cases step with
  | elsewhere tidy issued cancelled =>
      exact
        { tidy
          accounted := ⟨orderly.accounted.permits, orderly.accounted.holding,
            orderly.accounted.admitted⟩
          registered := orderly.registered.onward rfl rfl rfl issued
          ended := fun result finished =>
            (orderly.ended result finished).imp_right (Cancellations.isCancelled_mono cancelled) }
  | ask seeks limited running | wait seeks =>
      exact orderly.turn (by rw [seeks]; rfl) (by rintro - - - ⟨⟩) (by rintro - ⟨⟩)
  | stop seeks limited seen =>
      refine orderly.turn (by rw [seeks]; rfl) (by rintro - - - ⟨⟩) ?_
      rintro - ⟨⟩
      exact ⟨rfl, seen⟩
  | acquire seeks available =>
      -- A permit that is free shows that there is a limit, so the loop needs the one it gets.
      have limited := orderly.accounted.limited_of_mem available
      refine orderly.begin (congrArg Stage.permit? seeks) ?_ limited.symm
      intro number same
      rw [← Option.mem_some_iff.1 same]
      exact available
  | enter seeks unlimited =>
      exact orderly.begin (congrArg Stage.permit? seeks) (by rintro - ⟨⟩) (by rw [unlimited])
  | listen accepts running | pause accepts =>
      refine orderly.turn (by rw [accepts]; rfl) ?_ (by rintro - ⟨⟩)
      intro cleared permit ticket same
      obtain ⟨-, rfl, rfl⟩ := Stage.accepting.inj same
      exact ⟨_, accepts⟩
  | cancelled accepts seen =>
      refine orderly.fail _ accepts ?_
      rintro - ⟨⟩
      exact ⟨rfl, seen⟩
  | welcome remote accepts =>
      exact
        { tidy := orderly.tidy.giveBackTicket _
          accounted := orderly.accounted.welcome remote accepts
          registered := orderly.registered.welcome _ _ remote
          ended := by rintro - ⟨⟩ }
  | fail fault accepts =>
      exact orderly.fail _ accepts (by rintro - ⟨⟩)
  | depart there finished =>
      exact
        { tidy := orderly.tidy
          accounted := orderly.accounted.depart there
          registered := orderly.registered.depart there
          ended := orderly.ended }

theorem Run.orderly (run : Run gate later) (orderly : gate.Orderly) : later.Orderly := by
  induction run with
  | refl => exact orderly
  | tail earlier step ih => exact step.orderly ih

theorem orderly_opening (loop : AcceptLoop) {shared : Shared} (tidy : shared.resources.Tidy) :
    (opening loop shared).Orderly where
  tidy := tidy
  accounted :=
    { permits := by
        change (List.range _ ++ []).Perm _
        rw [List.append_nil]
        exact .refl _
      holding := by rintro - - - ⟨⟩
      admitted := by rintro - ⟨⟩ }
  registered := ⟨.refl _, by rintro - ⟨⟩, .nil⟩
  ended := by rintro - ⟨⟩

theorem Run.lasting (run : Run gate later) :
    later.limit = gate.limit ∧ later.shutdown = gate.shutdown ∧
      (gate.shutDown = true → later.shutDown = true) := by
  induction run with
  | refl => exact ⟨rfl, rfl, id⟩
  | tail earlier step ih =>
      obtain ⟨limit, shutdown, seen⟩ := step.lasting
      exact ⟨limit.trans ih.1, shutdown.trans ih.2.1, seen ∘ ih.2.2⟩

theorem Accounted.length (accounted : gate.Accounted) {permits : Nat}
    (limited : gate.limit = some permits) :
    gate.free.length + gate.held.toList.length + gate.live.length = permits := by
  have all : (gate.live.filterMap (·.permit)).length = gate.live.length := by
    rw [List.length_filterMap_eq_countP, List.countP_eq_length]
    intro guest there
    rw [accounted.admitted guest there, limited]
    rfl
  have counted := accounted.permits.length_eq
  rw [Gate.permits, List.length_append, List.length_append, all, limited, List.length_range]
    at counted
  exact (Nat.add_assoc _ _ _).trans counted

/-! ### The events of an accept loop -/

/-- What can happen to a loop: it hears of its shutdown only if it is cancelled, and of connections
and failures only if it was not when it looked. A loop without a limit looks only while it
accepts. -/
def Possible (gate : Gate) : Event → Prop
  | .run | .clientEnded _ => True
  | .accepted _ => gate.shutDown = false
  | .failed reason => gate.shutDown = false ∧ ∃ fault, reason = .transport .accept fault
  | .shutDown => gate.shutDown = true ∧ (gate.limit = none → gate.stage.phase ≠ .waiting)

/-- A gate that has come as far as its loop does with one event. -/
def Reaches (gate : Gate) (result : AcceptLoop × Shared) : Prop :=
  ∃ next, Run gate next ∧ (next.loop, next.shared) = result

theorem Orderly.hasFreePermit_iff (orderly : gate.Orderly) {permits : Nat}
    (limited : gate.limit = some permits) {cleared : Bool} (seeks : gate.stage = .seeking cleared) :
    gate.loop.hasFreePermit = true ↔ gate.free ≠ [] := by
  have counted := orderly.accounted.length limited
  rw [held, seeks] at counted
  simp only [hasFreePermit, loop, limited, List.length_map, AcceptLoop.held, seeks, Stage.phase,
    decide_eq_true_eq]
  rw [← List.length_pos_iff]
  change gate.free.length + 0 + gate.live.length = permits at counted
  omega

theorem Reaches.after {result : AcceptLoop × Shared} (run : Run gate next)
    (reaches : next.Reaches result) : gate.Reaches result := by
  obtain ⟨last, onward, same⟩ := reaches
  exact ⟨last, run.trans onward, same⟩

theorem loop_turn (same : stage.phase = gate.stage.phase) : (gate.turn stage).loop = gate.loop := by
  simp only [loop, turn, same]

theorem turn_self (stands : gate.stage = stage) : gate.turn stage = gate := by
  rw [turn, ← stands]

theorem run_seeking {cleared : Bool} (seeks : gate.stage = .seeking cleared) :
    Run gate (gate.turn (.seeking false)) := by
  cases cleared with
  | true => exact .single (.wait seeks)
  | false => rw [turn_self seeks]

theorem run_looking {cleared : Bool} (accepts : gate.stage = .accepting cleared permit ticket) :
    Run gate (gate.turn (.accepting false permit ticket)) := by
  cases cleared with
  | true => exact .single (.pause accepts)
  | false => rw [turn_self accepts]

theorem run_listening {cleared : Bool} (accepts : gate.stage = .accepting cleared permit ticket)
    (running : gate.shutDown = false) : Run gate (gate.turn (.accepting true permit ticket)) :=
  (run_looking accepts).tail (.listen rfl running)

theorem loop_begin (permit : Option Nat) (gate : Gate) (unseen : gate.limit = none ∨
      gate.shutDown = false) (granted : gate.loop.hasFreePermit = true) :
    ((gate.begin permit).loop, (gate.begin permit).shared) = gate.loop.proceed gate.shared := by
  have proceeds : ¬(gate.loop.limit.isSome &&
      gate.shared.cancellations.isCancelled gate.loop.shutdown) = true := by
    rcases unseen with unlimited | running
    · simp [loop, unlimited]
    · simp [loop, show gate.shared.cancellations.isCancelled gate.shutdown = false from running]
  rw [proceed, if_neg proceeds, if_pos granted]
  unfold begin
  rcases rented : gate.shared.resources.rentTicket
      { operation := .accept, cancel := some gate.shutdown } with ⟨_ | ticket, resources⟩
  · simp only [loop, rented]
  · simp only [loop, rented]
    rfl

theorem Orderly.reaches_proceed (orderly : gate.Orderly) (seeks : gate.stage = .seeking false) :
    gate.Reaches (gate.loop.proceed gate.shared) := by
  cases limit : gate.limit with
  | none =>
      exact ⟨_, .single (.enter seeks limit), loop_begin none gate (.inl limit)
        (by simp only [hasFreePermit, loop, limit])⟩
  | some permits =>
      have limited : gate.limit.isSome = true := by rw [limit]; rfl
      cases seen : gate.shutDown with
      | true =>
          refine ⟨_, .single (.stop seeks limited seen), ?_⟩
          have stops : (gate.loop.limit.isSome &&
              gate.shared.cancellations.isCancelled gate.loop.shutdown) = true := by
            rw [show gate.loop.limit.isSome = true from limited, Bool.true_and]
            exact seen
          rw [proceed, if_pos stops]
          rfl
      | false =>
          -- It has looked and found nothing; now it asks for a permit or goes on waiting.
          have onward : Run gate (gate.turn (.seeking true)) := .single (.ask seeks limited seen)
          have same : (gate.turn (.seeking true)).loop = gate.loop := by
            apply loop_turn
            rw [seeks]
            rfl
          cases granted : gate.loop.hasFreePermit with
          | true =>
              obtain ⟨permit, available⟩ := List.exists_mem_of_ne_nil _
                ((orderly.hasFreePermit_iff limit seeks).1 granted)
              refine ⟨_, onward.tail (.acquire rfl available), ?_⟩
              rw [← same]
              exact loop_begin (some permit) (gate.turn (.seeking true)) (.inr seen)
                (by rw [same]; exact granted)
          | false =>
              refine ⟨_, onward, ?_⟩
              have waits : ¬(gate.loop.limit.isSome &&
                  gate.shared.cancellations.isCancelled gate.loop.shutdown) = true := by
                rw [show gate.shared.cancellations.isCancelled gate.loop.shutdown = false from seen,
                  Bool.and_false]
                exact Bool.false_ne_true
              rw [proceed, if_neg waits, if_neg (by rw [granted]; exact Bool.false_ne_true), same]
              rfl

theorem Orderly.reaches_run (orderly : gate.Orderly) :
    gate.Reaches (gate.loop.step .run gate.shared) := by
  cases stage : gate.stage with
  | accepting cleared permit ticket =>
      refine ⟨gate, .refl, ?_⟩
      simp only [loop, step, stage, Stage.phase]
  | ended result =>
      refine ⟨gate, .refl, ?_⟩
      simp only [loop, step, stage, Stage.phase]
  | seeking cleared =>
      have again := run_seeking stage
      have same : (gate.turn (.seeking false)).loop = gate.loop := by
        apply loop_turn
        rw [stage]
        rfl
      have proceeds : gate.loop.step .run gate.shared = gate.loop.proceed gate.shared := by
        simp only [step, loop, stage, Stage.phase]
      rw [proceeds, ← same]
      exact .after again ((again.orderly orderly).reaches_proceed rfl)

theorem Registered.live_erase (registered : gate.Registered) (there : guest ∈ gate.live) :
    gate.live.erase guest =
      gate.live.filter fun other => other.client.cancel ≠ guest.client.cancel := by
  have apart : (gate.live.map (·.client.cancel)).Nodup := by
    have all := registered.apart
    rw [guests, List.map_append] at all
    exact all.of_append_left
  rw [(apart.of_map _).erase_eq_filter]
  refine List.filter_congr fun other among => ?_
  rw [bne, beq_eq_decide, decide_not, Bool.not_eq_eq_eq_not, Bool.not_not, decide_eq_decide]
  exact ⟨fun same => congrArg (·.client.cancel) same, List.inj_on_of_nodup_map apart among there⟩

theorem Orderly.reaches_clientEnded (orderly : gate.Orderly) (token : CancelToken) :
    gate.Reaches (gate.loop.step (.clientEnded token) gate.shared) := by
  have among : (gate.loop.clients.filter fun other => other.cancel ≠ token) =
      (gate.live.filter fun guest => guest.client.cancel ≠ token).map (·.client) :=
    List.filter_map
  by_cases known : ∃ guest ∈ gate.live, guest.client.cancel = token
  · obtain ⟨guest, there, rfl⟩ := known
    have finished : (.ok .peerClosed : Outcome SessionEnd) ≠ .error .stalled := nofun
    refine ⟨_, .single (.depart there finished), ?_⟩
    rw [step, among, ← orderly.registered.live_erase there]
    rfl
  · refine ⟨gate, .refl, ?_⟩
    have nobody : (gate.live.filter fun guest => guest.client.cancel ≠ token) = gate.live := by
      rw [List.filter_eq_self]
      intro guest there
      exact decide_eq_true fun same => known ⟨guest, there, same⟩
    rw [step, among, nobody]
    rfl

/-- Whatever happens to an accept loop, one of the runs here comes to the same. -/
theorem Orderly.reaches (orderly : gate.Orderly) {event : Event} (possible : gate.Possible event) :
    gate.Reaches (gate.loop.step event gate.shared) := by
  cases event with
  | run => exact orderly.reaches_run
  | clientEnded token => exact orderly.reaches_clientEnded token
  | accepted remote =>
      cases stage : gate.stage with
      | seeking | ended =>
          refine ⟨gate, .refl, ?_⟩
          simp only [step, loop, stage, Stage.phase]
      | accepting cleared permit ticket =>
          refine ⟨_, (run_listening stage possible).tail (.welcome remote rfl), ?_⟩
          simp only [step, loop, stage, Stage.phase]
          rfl
  | failed reason =>
      obtain ⟨running, fault, rfl⟩ := possible
      cases stage : gate.stage with
      | seeking | ended =>
          refine ⟨gate, .refl, ?_⟩
          simp only [step, loop, stage, Stage.phase]
      | accepting cleared permit ticket =>
          refine ⟨_, (run_listening stage running).tail (.fail fault rfl), ?_⟩
          simp only [step, loop, stage, Stage.phase]
          rfl
  | shutDown =>
      obtain ⟨seen, looks⟩ := possible
      cases stage : gate.stage with
      | ended =>
          refine ⟨gate, .refl, ?_⟩
          simp only [step, loop, stage, Stage.phase]
      | accepting cleared permit ticket =>
          refine ⟨_, (run_looking stage).tail (.cancelled rfl seen), ?_⟩
          simp only [step, loop, stage, Stage.phase]
          rfl
      | seeking cleared =>
          have limited : gate.limit.isSome = true := by
            rw [Option.isSome_iff_ne_none]
            intro unlimited
            exact looks unlimited (by rw [stage]; rfl)
          refine ⟨_, (run_seeking stage).tail (.stop rfl limited seen), ?_⟩
          simp only [step, loop, stage, Stage.phase]
          rfl

/-! ### The end -/

theorem Step.heeds (step : Step gate next) (seen : gate.shutDown = true)
    (looks : gate.stage.Looks gate.limit.isSome) :
    next.stage = gate.stage ∨ next.stage = .ended (.ok ()) := by
  cases step with
  | elsewhere | depart => exact .inl rfl
  | stop | cancelled => exact .inr rfl
  | ask seeks limited running | listen accepts running => simp [seen] at running
  | wait seeks | acquire seeks available => simp [seeks, Stage.Looks] at looks
  | enter seeks unlimited => simp [seeks, unlimited, Stage.Looks] at looks
  | pause accepts | welcome remote accepts | fail fault accepts =>
      simp [accepts, Stage.Looks] at looks

theorem heeds (seen : gate.shutDown = true) (looks : gate.stage.Looks gate.limit.isSome) :
    ∃ next, Step gate next ∧ next.stage = .ended (.ok ()) := by
  cases stage : gate.stage with
  | seeking cleared =>
      rw [stage] at looks
      obtain ⟨limited, rfl⟩ := looks
      exact ⟨_, .stop stage limited seen, rfl⟩
  | accepting cleared permit ticket =>
      rw [stage] at looks
      obtain rfl : cleared = false := looks
      exact ⟨_, .cancelled stage seen, rfl⟩
  | ended result =>
      rw [stage] at looks
      exact looks.elim

theorem Step.after_end (step : Step gate next) {result : Except TransportError Unit}
    (finished : gate.stage = .ended result) :
    next.stage = gate.stage ∧ next.accepted = gate.accepted := by
  cases step with
  | elsewhere | depart => exact ⟨rfl, rfl⟩
  | ask stands | stop stands | wait stands | acquire stands | enter stands | listen stands
  | cancelled stands | pause stands | welcome remote stands | fail fault stands =>
      cases finished.symm.trans stands

theorem Run.after_end (run : Run gate later) {result : Except TransportError Unit}
    (finished : gate.stage = .ended result) :
    later.stage = gate.stage ∧ later.accepted = gate.accepted := by
  induction run with
  | refl => exact ⟨rfl, rfl⟩
  | tail earlier step ih =>
      obtain ⟨stage, accepted⟩ := step.after_end (ih.1.trans finished)
      exact ⟨stage.trans ih.1, accepted.trans ih.2⟩

theorem Orderly.guest_cancelled (orderly : gate.Orderly) (seen : gate.shutDown = true)
    (spawned : guest ∈ gate.guests) :
    gate.shared.cancellations.isCancelled guest.client.cancel = true := by
  obtain ⟨-, number, -, token⟩ := orderly.registered.belongs guest spawned
  rw [token]
  exact Cancellations.isCancelled_descendant number seen

end Gate

open Gate in
/-- A loop whose limit can be counted begins, and at every point all its permits are there: free,
held by the loop, or held by a session that has not ended. Every connection that it has accepted has
one session. When it looks at a shutdown that is cancelled, it ends without an error, accepts
nothing more, and all its sessions are cancelled. -/
theorem limit_holds_until_shutdown (settings : Settings) (shutdown : CancelToken) (shared : Shared)
    {limit : Nat} (limited : settings.maxConnections = some limit) (fits : limit ≤ mostPermits)
    (tidy : shared.resources.Tidy) :
    ∃ loop, ofSettings settings shutdown = some loop ∧
      ∀ gate, Run (opening loop shared) gate →
        gate.free.length + (gate.live.filterMap (·.permit)).length + gate.held.toList.length =
            limit ∧
        gate.permits.Perm (List.range limit) ∧
        (∀ guest ∈ gate.live, guest.permit.isSome = true) ∧
        gate.live.length ≤ limit ∧
        (gate.guests.map (·.number)).Perm (List.range gate.accepted.length) ∧
        (∀ guest ∈ gate.guests, gate.accepted[guest.number]? = some guest.client.remote) ∧
        (gate.shutDown = true → gate.stage.Looks true →
          (∃ next, Step gate next ∧ next.stage = .ended (.ok ())) ∧
            ∀ next, Step gate next → next.stage = gate.stage ∨ next.stage = .ended (.ok ())) ∧
        ∀ result, gate.stage = .ended result → result = .ok () ∧
          ∀ later, Run gate later →
            later.stage = gate.stage ∧ later.accepted = gate.accepted ∧
              ∀ guest ∈ later.guests,
                later.shared.cancellations.isCancelled guest.client.cancel = true := by
  have opened : ofSettings settings shutdown = some { limit := some limit, shutdown } := by
    rw [ofSettings, limited]
    exact if_neg (Nat.not_lt.2 fits)
  refine ⟨_, opened, fun gate run => ?_⟩
  have orderly := run.orderly (orderly_opening _ tidy)
  have same : gate.limit = some limit := run.lasting.1
  have accounted : gate.permits.Perm (List.range limit) := by
    have all := orderly.accounted.permits
    rwa [same] at all
  have admitted : ∀ guest ∈ gate.live, guest.permit.isSome = true := by
    intro guest there
    rw [orderly.accounted.admitted guest there, same]
    rfl
  have counted := orderly.accounted.length same
  refine ⟨?_, accounted, admitted, by omega, orderly.registered.numbers,
    fun guest spawned => (orderly.registered.belongs guest spawned).remote, ?_, ?_⟩
  · have parts := accounted.length_eq
    rw [Gate.permits, List.length_append, List.length_append, List.length_range] at parts
    omega
  · intro seen looks
    have limited : gate.stage.Looks gate.limit.isSome := by
      rw [same]
      exact looks
    exact ⟨heeds seen limited, fun next step => step.heeds seen limited⟩
  · intro result finished
    obtain ⟨fine, seen⟩ := orderly.ended result finished
    refine ⟨fine, fun later onward => ?_⟩
    obtain ⟨stage, accepted⟩ := onward.after_end finished
    exact ⟨stage, accepted, fun guest spawned =>
      (onward.orderly orderly).guest_cancelled (onward.lasting.2.2 seen) spawned⟩

open Gate in
/-- One permit: its session breaks down, and then the loop is shut down. -/
theorem one_permit_comes_back :
    ∃ gate, Run (opening { limit := some 1, shutdown := ⟨[0]⟩ }
        ⟨Resources.ofSettings {}, { issued := 1 }⟩) gate ∧
      gate.accepted = [⟨IpAddress.loopback, 80, 0⟩] ∧ gate.stage = .ended (.ok ()) ∧
        gate.free.length = 1 ∧ ∀ guest ∈ gate.guests,
          gate.shared.cancellations.isCancelled guest.client.cancel = true := by
  obtain ⟨loop, opened, law⟩ := limit_holds_until_shutdown { maxConnections := some 1 } ⟨[0]⟩
    ⟨Resources.ofSettings {}, { issued := 1 }⟩ rfl (by decide) (Resources.tidy_ofSettings _)
  obtain rfl : { limit := some 1, shutdown := ⟨[0]⟩ } = loop := Option.some.inj opened
  have asked : Run (opening { limit := some 1, shutdown := ⟨[0]⟩ }
      ⟨Resources.ofSettings {}, { issued := 1 }⟩) _ := .single (.ask rfl rfl rfl)
  have acquired := asked.tail (@Step.acquire _ 0 rfl List.mem_cons_self)
  have listening := acquired.tail (@Step.listen _ _ _ rfl rfl)
  have admitted := listening.tail (@Step.welcome _ _ _ ⟨IpAddress.loopback, 80, 0⟩ rfl)
  have departed := admitted.tail (@Step.depart _ _ (.error (.abort .ticketArmedTwice))
    List.mem_cons_self nofun)
  have cancelled := departed.tail (@Step.elsewhere _
    ⟨Resources.ofSettings {}, { issued := 2, cancelled := [0] }⟩ (Resources.tidy_ofSettings _)
    le_rfl (List.nil_subset _))
  have stopped := cancelled.tail (@Step.stop _ rfl rfl rfl)
  obtain ⟨-, -, -, -, -, -, -, ending⟩ := law _ stopped
  obtain ⟨-, lasting⟩ := ending (.ok ()) rfl
  exact ⟨_, stopped, rfl, rfl, rfl, (lasting _ .refl).2.2⟩

end AcceptLoop

end FramedTransport
