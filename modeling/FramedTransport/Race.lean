import FramedTransport.Script
import FramedTransport.Ticket
import FramedTransport.Timeline

/-!
The race between a socket call, its deadline and its cancellation.
Every poll asks in this order: the cancellation, and if it is in force the
socket is not touched; then the socket; then the deadline, which is over at the
first whole millisecond at or after it.
-/

namespace FramedTransport

inductive Completion where
  | inline
  | deferred
deriving DecidableEq, Repr

inductive Verdict (α : Type) where
  | ready (value : α)
  | timedOut
  | cancelled
deriving DecidableEq, Repr

structure Watch where
  operation : Operation
  deadline : Option Duration := none
  cancellable : Bool := true
  since : Nat := 0
deriving DecidableEq, Repr

namespace Watch

/-- Seconds that the clock can no longer count ahead. Where the clock started and how far it has run
since then are left out: both are nothing beside a span of this length, so whether a deadline can be
counted is a question of its length alone. -/
def horizon : Nat := UInt64.size / 2

def beyondHorizon (watch : Watch) : Bool :=
  match watch.deadline with
  | some span => horizon ≤ span.seconds
  | none => false

/-- The moment at which the deadline is over; one beyond the horizon never is. -/
def dueAt (watch : Watch) : Option Nat :=
  match watch.deadline with
  | some span =>
      if span.seconds < horizon then some (watch.since + span.millisCovering) else none
  | none => none

def due (watch : Watch) (now : Nat) : Bool :=
  match watch.dueAt with
  | some moment => moment ≤ now
  | none => false

def judge {α : Type} (watch : Watch) (now : Nat) (answer : Poll α) : Option (Verdict α) :=
  match answer with
  | .ready value => some (.ready value)
  | .pending _ => if watch.due now then some .timedOut else none

def Wake.moment : Wake → Option Nat
  | .atTime moment => some moment
  | .immediately | .never => none

def sooner : Option Nat → Option Nat → Option Nat
  | some first, some second => some (min first second)
  | some first, none => some first
  | none, second => second

/-- The time of the next poll after one that decided nothing, if anything will ever happen. -/
def resume (watch : Watch) (time : Timeline) (wake : Wake) : Option Timeline :=
  if time.cancelDue then some time.fire
  else if wake = .immediately ∨ (watch.cancellable && time.cancelled) then some time
  else
    (sooner (Wake.moment wake) (sooner watch.dueAt time.cancelAt)).map fun moment =>
      { time with now := moment }

end Watch

structure Race (σ : Type) where
  watch : Watch
  source : σ
  polls : Nat := 0
deriving DecidableEq, Repr

structure Race.Step (σ α : Type) where
  verdict : Option (Verdict α)
  wake : Wake
  time : Timeline
  race : Race σ
deriving DecidableEq, Repr

namespace Race

variable {σ α : Type}

def poll (device : Device σ α) (time : Timeline) (race : Race σ) : Step σ α :=
  if race.watch.cancellable && time.cancelled then
    { verdict := some .cancelled, wake := .never, time, race }
  else
    let polled := device time.now race.source
    { verdict := race.watch.judge time.now polled.answer
      wake := match polled.answer with
        | .pending wake => wake
        | .ready _ => .never
      time := if polled.cancels then time.cancel else time
      race := { race with source := polled.rest, polls := race.polls + 1 } }

def completion (race : Race σ) : Completion :=
  if race.polls ≤ 1 then .inline else .deferred

/-- One for a moment that is still to come. -/
def ahead (now : Nat) : Option Nat → Nat
  | some moment => if moment ≤ now then 0 else 1
  | none => 0

def frontMoment (race : Race (Script α)) : Option Nat :=
  race.source.head?.map (·.notBefore)

def waits (time : Timeline) (race : Race (Script α)) : Nat :=
  (if time.cancelAt.isSome then 1 else 0) + ahead time.now time.cancelAt
    + ahead time.now race.watch.dueAt + ahead time.now race.frontMoment

theorem ahead_le {now later : Nat} (order : now ≤ later) (moment : Option Nat) :
    ahead later moment ≤ ahead now moment := by
  cases moment with
  | none => exact Nat.le_refl _
  | some moment =>
      simp only [ahead]
      grind

theorem ahead_reached {now moment : Nat} (early : now < moment) :
    ahead moment (some moment) < ahead now (some moment) := by
  simp [ahead, Nat.not_le.2 early]

theorem sooner_cases {first second : Option Nat} {moment : Nat}
    (soonest : Watch.sooner first second = some moment) :
    first = some moment ∨ second = some moment := by
  cases first <;> cases second <;> simp [Watch.sooner] at * <;> omega

theorem waits_later {time next : Timeline} {race : Race (Script α)} {wake : Wake}
    (pending : race.watch.due time.now = false)
    (waiting : wake = .never ∨ ∃ event rest, race.source = event :: rest ∧
      wake = .atTime event.notBefore ∧ time.now < event.notBefore)
    (uncancelled : (race.watch.cancellable && time.cancelled) = false)
    (resumed : race.watch.resume time wake = some next) :
    waits next race < waits time race := by
  unfold Watch.resume at resumed
  split at resumed
  · rename_i fired
    cases resumed
    cases planned : time.cancelAt with
    | none => simp [Timeline.cancelDue, planned] at fired
    | some moment =>
        have gone : ahead time.now (none : Option Nat) = 0 := rfl
        simp only [waits, Timeline.fire, planned, gone, Option.isSome, Bool.false_eq_true,
          if_true, if_false]
        omega
  · rename_i unfired
    split at resumed
    · rcases waiting with never | ⟨_, _, _, later, _⟩ <;> simp_all
    · obtain ⟨moment, soonest, rfl⟩ := Option.map_eq_some_iff.1 resumed
      have cases := sooner_cases soonest
      have reached : time.now < moment ∧
          (race.frontMoment = some moment ∨ race.watch.dueAt = some moment ∨
            time.cancelAt = some moment) := by
        rcases cases with front | others
        · rcases waiting with rfl | ⟨event, rest, source, rfl, early⟩
          · simp [Watch.Wake.moment] at front
          · simp only [Watch.Wake.moment, Option.some.injEq] at front
            subst front
            exact ⟨early, Or.inl (by simp [frontMoment, source])⟩
        · rcases sooner_cases others with due | planned
          · simp only [Watch.due, due, decide_eq_false_iff_not, Nat.not_le] at pending
            exact ⟨pending, Or.inr (Or.inl due)⟩
          · simp only [Timeline.cancelDue, planned, decide_eq_true_eq, Nat.not_le] at unfired
            exact ⟨unfired, Or.inr (Or.inr planned)⟩
      have front := ahead_le (Nat.le_of_lt reached.1) race.frontMoment
      have due := ahead_le (Nat.le_of_lt reached.1) race.watch.dueAt
      have planned := ahead_le (Nat.le_of_lt reached.1) time.cancelAt
      have strict := ahead_reached reached.1
      simp only [waits]
      rcases reached.2 with at_front | at_due | at_planned
      · rw [at_front] at front ⊢
        omega
      · rw [at_due] at due ⊢
        omega
      · rw [at_planned] at planned ⊢
        omega

theorem waits_decrease {time next : Timeline} {race : Race (Script α)}
    (undecided : (race.poll Script.poll time).verdict = none)
    (resumed : race.watch.resume (race.poll Script.poll time).time
      (race.poll Script.poll time).wake = some next) :
    Prod.Lex (· < ·) (· < ·)
      ((race.poll Script.poll time).race.source.length,
        waits next (race.poll Script.poll time).race)
      (race.source.length, waits time race) := by
  cases uncancelled : race.watch.cancellable && time.cancelled with
  | true => simp [poll, uncancelled] at undecided
  | false =>
      cases answer : (Script.poll time.now race.source).answer with
      | ready value => simp [poll, uncancelled, answer, Watch.judge] at undecided
      | pending wake =>
          have pending : race.watch.due time.now = false := by
            simpa [poll, uncancelled, answer, Watch.judge] using undecided
          have shorter := Script.length_poll_le time.now race.source
          simp only [poll, uncancelled, answer] at resumed ⊢
          rcases Nat.lt_or_ge (Script.poll time.now race.source).rest.length race.source.length
            with consumed | unmoved
          · exact Prod.Lex.left _ _ consumed
          · have same := Script.poll_unmoved answer unmoved
            simp only [same.1, same.2.1] at resumed ⊢
            exact Prod.Lex.right _ (waits_later pending same.2.2 uncancelled resumed)

def run (time : Timeline) (race : Race (Script α)) : Step (Script α) (Option α) :=
  let step := race.poll Script.poll time
  match _undecided : step.verdict with
  | some _ => step
  | none =>
      match _resumed : race.watch.resume step.time step.wake with
      | none => step
      | some next => run next step.race
termination_by (race.source.length, waits time race)
decreasing_by exact waits_decrease _undecided _resumed

def verdictWeight (size : α → Nat) : Option (Verdict (Option α)) → Nat
  | some (.ready (some action)) => 1 + size action
  | _ => 0

theorem weight_poll (size : α → Nat) (time : Timeline) (race : Race (Script α)) :
    Script.weight size (race.poll Script.poll time).race.source
        + verdictWeight size (race.poll Script.poll time).verdict
      ≤ Script.weight size race.source := by
  have polled := Script.weight_poll size time.now race.source
  unfold poll
  split
  · simp [verdictWeight]
  · cases answer : (Script.poll time.now race.source).answer with
    | ready value =>
        cases value <;> simp_all [Watch.judge, verdictWeight, Script.answerWeight]
    | pending wake =>
        simp only [Watch.judge, answer, Script.answerWeight] at polled ⊢
        split <;> simpa [verdictWeight] using polled

theorem weight_run (size : α → Nat) (time : Timeline) (race : Race (Script α)) :
    Script.weight size (run time race).race.source + verdictWeight size (run time race).verdict
      ≤ Script.weight size race.source := by
  fun_induction run time race with
  | case1 time race step verdict decided => exact weight_poll size time race
  | case2 time race step undecided stuck => exact weight_poll size time race
  | case3 time race step undecided next resumed ih =>
      have polled := weight_poll size time race
      simp only [step] at *
      omega

theorem watch_run (time : Timeline) (race : Race (Script α)) :
    (run time race).race.watch = race.watch := by
  have polled : ∀ (time : Timeline) (race : Race (Script α)),
      (race.poll Script.poll time).race.watch = race.watch := by
    intro time race
    unfold poll
    split <;> rfl
  fun_induction run time race with
  | case1 time race step verdict decided => exact polled time race
  | case2 time race step undecided stuck => exact polled time race
  | case3 time race step undecided next resumed ih => exact ih.trans (polled time race)

def Step.outcome (step : Step σ α) : Outcome α :=
  let watch := step.race.watch
  match step.verdict with
  | some (.ready value) => .ok value
  | some .timedOut =>
      .error (.error (.timeout watch.operation (watch.deadline.getD Duration.zero)))
  | some .cancelled => .error (.error (.cancelled watch.operation))
  | none => .error .stalled

end Race

end FramedTransport
