import FramedTransport.Stream.Desk
import FramedTransport.Proofs.Operations

/-!
Runs of one half of a stream.
The caller makes any calls in any order, one after the other, and between them
cancels, waits or gives results back, while others use the same pools. A call
that never returns has no call after it.
-/

namespace FramedTransport

namespace HalfDesk

variable {κ η : Type}

structure Answered (κ : Type) where
  call : κ
  reply : Reply
deriving DecidableEq, Repr

/-- The calls that have been made from `start` on, and where they have led. -/
inductive Run (calls : Calls κ η) (start : HalfDesk η) : List (Answered κ) → HalfDesk η → Prop where
  | start : Run calls start [] start
  | call {record desk} (call : κ) (keep : Bool) :
      Run calls start record desk →
      (desk.perform calls (.call call keep)).1 ≠ .refused .stalled →
      Run calls start (record ++ [⟨call, (desk.perform calls (.call call keep)).1⟩])
        (desk.perform calls (.call call keep)).2
  | pause {record desk} (action : Action κ) :
      Run calls start record desk →
      (∀ call keep, action ≠ .call call keep) →
      Run calls start record (desk.perform calls action).2
  -- Others rent and give back in between; that the pools stay tidy is all a half can rely on.
  | elsewhere {record desk} (resources : Resources) :
      Run calls start record desk →
      resources.Tidy →
      Run calls start record { desk with exchange := { desk.exchange with resources } }

/-- Nothing has happened to the half, or to its link but that time has passed. -/
structure Undisturbed (desk later : HalfDesk η) : Prop where
  half : later.half = desk.half
  link : later.exchange.link = { desk.exchange.link with time := later.exchange.link.time }
  tidy : desk.exchange.resources.Tidy → later.exchange.resources.Tidy

theorem undisturbed_giveBack (desk : HalfDesk η) (delivery : Delivery) :
    Undisturbed desk (desk.giveBack delivery) where
  half := rfl
  link := rfl
  tidy tidy := tidy.giveBackBuffer delivery.buffer

theorem Undisturbed.trans {first second third : HalfDesk η} (before : Undisturbed first second)
    (after : Undisturbed second third) : Undisturbed first third where
  half := after.half.trans before.half
  link := by rw [after.link, before.link]
  tidy tidy := after.tidy (before.tidy tidy)

theorem Undisturbed.inbound {desk later : HalfDesk η} (same : Undisturbed desk later) :
    later.exchange.link.inbound = desk.exchange.link.inbound := by
  rw [same.link]
  rfl

theorem Undisturbed.written {desk later : HalfDesk η} (same : Undisturbed desk later) :
    later.exchange.link.written = desk.exchange.link.written := by
  rw [same.link]

theorem undisturbed_giveBackAll (deliveries : List Delivery) (desk : HalfDesk η) :
    Undisturbed desk (deliveries.foldl giveBack desk) := by
  induction deliveries generalizing desk with
  | nil => exact ⟨rfl, rfl, id⟩
  | cons delivery rest ih => exact (undisturbed_giveBack desk delivery).trans (ih _)

theorem undisturbed_pause (calls : Calls κ η) (action : Action κ)
    (quiet : ∀ call keep, action ≠ .call call keep) (desk : HalfDesk η) :
    Undisturbed desk (desk.perform calls action).2 := by
  cases action with
  | call call keep => exact absurd rfl (quiet call keep)
  | cancel => exact ⟨rfl, rfl, id⟩
  | sleep millis => exact ⟨rfl, rfl, id⟩
  | takeBytes =>
      unfold perform
      dsimp only
      split
      · exact ⟨rfl, rfl, fun tidy => tidy.giveBackBuffer _⟩
      · exact ⟨rfl, rfl, id⟩
  | release =>
      have given := undisturbed_giveBackAll desk.kept { desk with kept := [] }
      exact ⟨given.half, given.link, given.tidy⟩

def replyOf : Outcome (Option Delivery) → Reply
  | .error halt => .refused halt
  | .ok none => .done
  | .ok (some delivery) => .delivered delivery

theorem perform_call (calls : Calls κ η) (call : κ) (keep : Bool) (desk : HalfDesk η) :
    (desk.perform calls (.call call keep)).1 =
        replyOf (calls call desk.half desk.exchange).1 ∧
      Undisturbed
        { desk with
          half := (calls call desk.half desk.exchange).2.1
          exchange := (calls call desk.half desk.exchange).2.2 }
        (desk.perform calls (.call call keep)).2 := by
  unfold perform
  dsimp only
  split <;> rename_i answer <;> rw [answer]
  · exact ⟨rfl, rfl, rfl, id⟩
  · exact ⟨rfl, rfl, rfl, id⟩
  · split
    · exact ⟨rfl, rfl, rfl, id⟩
    · exact ⟨rfl, undisturbed_giveBack _ _⟩

/-- What every call keeps, and what pauses cannot disturb, holds after every run. -/
theorem Run.invariant {calls : Calls κ η} {start last : HalfDesk η} {record : List (Answered κ)}
    (run : Run calls start record last) (holds : List (Answered κ) → HalfDesk η → Prop)
    (first : holds [] start)
    (quiet : ∀ record desk later, holds record desk → Undisturbed desk later → holds record later)
    (called : ∀ record desk call, holds record desk →
      (calls call desk.half desk.exchange).1 ≠ .error .stalled →
      holds (record ++ [⟨call, replyOf (calls call desk.half desk.exchange).1⟩])
        { desk with
          half := (calls call desk.half desk.exchange).2.1
          exchange := (calls call desk.half desk.exchange).2.2 }) :
    holds record last := by
  induction run with
  | start => exact first
  -- A result that is given back at once disturbs no more than a pause does.
  | call call keep before returned ih =>
      rename_i record desk
      obtain ⟨reply, after⟩ := perform_call calls call keep desk
      rw [reply] at returned ⊢
      refine quiet _ _ _ (called record desk call ih ?_) after
      intro never
      exact returned (by rw [never, replyOf])
  | pause action before silent ih =>
      exact quiet _ _ _ ih (undisturbed_pause calls action silent _)
  | elsewhere resources before tidy ih =>
      exact quiet _ _ _ ih ⟨rfl, rfl, fun _ => tidy⟩

/-- A closed half answers at once and touches nothing. -/
def Refuses (isOpen : η → Bool) (calls : Calls κ η) : Prop :=
  ∀ call half exchange, isOpen half = false →
    calls call half exchange = (.error notOpen, half, exchange)

variable {isOpen : η → Bool} {calls : Calls κ η}

theorem Refuses.open_before (refuses : Refuses isOpen calls) {call : κ} {half : η}
    {exchange : Exchange} (still : isOpen (calls call half exchange).2.1 = true) :
    isOpen half = true := by
  by_cases before : isOpen half = true
  · exact before
  · rw [refuses call half exchange (Bool.eq_false_iff.2 before)] at still
    exact still

theorem Refuses.perform (refuses : Refuses isOpen calls) {desk : HalfDesk η}
    (closed : isOpen desk.half = false) (call : κ) (keep : Bool) :
    desk.perform calls (.call call keep) = (.refused notOpen, desk) := by
  simp only [HalfDesk.perform, refuses call desk.half desk.exchange closed]

theorem Run.closed {start last : HalfDesk η} {record : List (Answered κ)}
    (run : Run calls start record last) (refuses : Refuses isOpen calls)
    (closed : isOpen start.half = false) :
    isOpen last.half = false ∧
      last.exchange.link.inbound = start.exchange.link.inbound ∧
      last.exchange.link.written = start.exchange.link.written := by
  refine run.invariant (fun _ desk => isOpen desk.half = false ∧
    desk.exchange.link.inbound = start.exchange.link.inbound ∧
    desk.exchange.link.written = start.exchange.link.written) ?_ ?_ ?_
  · exact ⟨closed, rfl, rfl⟩
  · rintro record desk later ⟨shut, inbound, written⟩ same
    exact ⟨same.half ▸ shut, same.inbound.trans inbound, same.written.trans written⟩
  · rintro record desk call ⟨shut, inbound, written⟩ returned
    rw [refuses call desk.half desk.exchange shut]
    exact ⟨shut, inbound, written⟩

end HalfDesk

end FramedTransport
