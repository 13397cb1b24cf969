import FramedTransport.Stream.Exchange

/-!
The law of the race.
An operation is polled at moments that others choose. The first poll that finds its
token cancelled, its socket ready or its deadline over decides it, in this order, and
no later poll reaches the socket.
-/

namespace FramedTransport

/-- One poll of a waiting operation: its moment, and whether the token has been cancelled since
the poll before. -/
structure Wakeup where
  now : Nat
  cancelled : Bool := false
deriving DecidableEq, Repr

/-- The time of a poll whose token was cancelled before or is not. -/
def Wakeup.reach (wakeup : Wakeup) (cancelled : Bool) : Timeline :=
  { now := wakeup.now, cancelled := cancelled || wakeup.cancelled }

/-- What a poll meets: the token as it begins, and what the socket answers if it is asked. -/
structure Sight (α : Type) where
  now : Nat
  cancelled : Bool
  answer : Poll α
deriving DecidableEq, Repr

namespace Sight

variable {α : Type}

/-- The poll finds the token of the operation cancelled, if it listens to one. -/
def Stopped (signals : Signals) (sight : Sight α) : Prop :=
  signals.cancel ≠ none ∧ sight.cancelled = true

instance (signals : Signals) (sight : Sight α) : Decidable (sight.Stopped signals) :=
  inferInstanceAs (Decidable (_ ∧ _))

/-- A result that a poll decides, for an operation that waits since `since`. -/
inductive Decides (signals : Signals) (since : Nat) (sight : Sight (Except Fault α)) :
    Outcome α → Prop
  | cancelled (stopped : sight.Stopped signals) :
      Decides signals since sight (.error (.error (.cancelled signals.operation)))
  | finished {value : α} (running : ¬ sight.Stopped signals)
      (ready : sight.answer = .ready (.ok value)) :
      Decides signals since sight (.ok value)
  | failed {fault : Fault} (running : ¬ sight.Stopped signals)
      (ready : sight.answer = .ready (.error fault)) :
      Decides signals since sight (.error (.error (.transport signals.operation fault)))
  | timedOut {wake : Wake} {span : Duration} (running : ¬ sight.Stopped signals)
      (waiting : sight.answer = .pending wake) (limit : signals.deadline = some span)
      (passed : since * Duration.nanosPerMilli + span.nanoseconds ≤
        sight.now * Duration.nanosPerMilli) :
      Decides signals since sight (.error (.error (.timeout signals.operation span)))

end Sight

namespace Watch

def clockRange : Nat := horizon * 1000

def decide {α : Type} (watch : Watch) (sight : Sight α) : Option (Verdict α) :=
  if watch.cancellable && sight.cancelled then some .cancelled
  else watch.judge sight.now sight.answer

theorem covering_le {span : Duration} {since now : Nat} :
    since + span.millisCovering ≤ now ↔
      since * Duration.nanosPerMilli + span.nanoseconds ≤ now * Duration.nanosPerMilli := by
  unfold Duration.millisCovering Duration.nanosPerMilli
  omega

theorem due_starting {signals : Signals} {since now : Nat} (in_range : now < clockRange) :
    (Watch.starting signals since).due now = true ↔
      ∃ span, signals.deadline = some span ∧
        since * Duration.nanosPerMilli + span.nanoseconds ≤ now * Duration.nanosPerMilli := by
  cases limit : signals.deadline with
  | none => simp [due, dueAt, starting, limit]
  | some span =>
      by_cases near : span.seconds < horizon
      · simp [due, dueAt, starting, limit, near, covering_le]
      · -- Nothing that the clock can count to is as late as such a deadline.
        have late : now * Duration.nanosPerMilli < span.nanoseconds := by
          unfold Duration.seconds Duration.nanosPerSecond at near
          unfold clockRange at in_range
          unfold Duration.nanosPerMilli
          omega
        have early : ¬ (since * Duration.nanosPerMilli + span.nanoseconds ≤
            now * Duration.nanosPerMilli) := by omega
        simp [due, dueAt, starting, limit, near, early]

end Watch

def Verdict.told {α : Type} (signals : Signals) : Verdict (Except Fault α) → Outcome α
  | .ready (.ok value) => .ok value
  | .ready (.error fault) => .error (.error (.transport signals.operation fault))
  | .timedOut =>
      .error (.error (.timeout signals.operation (signals.deadline.getD Duration.zero)))
  | .cancelled => .error (.error (.cancelled signals.operation))

namespace Sight

variable {α : Type} {signals : Signals} {since : Nat}

theorem stopped_starting (sight : Sight α) :
    ((Watch.starting signals since).cancellable && sight.cancelled) = true ↔
      sight.Stopped signals := by
  simp [Watch.starting, Stopped, Option.isSome_iff_ne_none]

variable {sight : Sight (Except Fault α)}

theorem not_ready (undecided : ∀ outcome, ¬ sight.Decides signals since outcome)
    (value : Except Fault α) : sight.answer ≠ .ready value := by
  intro ready
  by_cases stopped : sight.Stopped signals
  · exact undecided _ (.cancelled stopped)
  · cases value with
    | ok value => exact undecided _ (.finished stopped ready)
    | error fault => exact undecided _ (.failed stopped ready)

theorem Decides.decide {outcome : Outcome α} (decides : sight.Decides signals since outcome)
    (in_range : sight.now < Watch.clockRange) :
    ∃ verdict, (Watch.starting signals since).decide sight = some verdict ∧
      verdict.told signals = outcome := by
  unfold Watch.decide
  simp only [stopped_starting]
  cases decides with
  | cancelled stopped => exact ⟨.cancelled, if_pos stopped, rfl⟩
  | @finished value running ready =>
      exact ⟨.ready (.ok value), by rw [if_neg running, ready]; rfl, rfl⟩
  | @failed fault running ready =>
      exact ⟨.ready (.error fault), by rw [if_neg running, ready]; rfl, rfl⟩
  | @timedOut wake span running waiting limit passed =>
      refine ⟨.timedOut, ?_, ?_⟩
      · have due := (Watch.due_starting in_range).2 ⟨span, limit, passed⟩
        rw [if_neg running, waiting, Watch.judge, if_pos due]
      · simp [Verdict.told, limit]

theorem decides_told {verdict : Verdict (Except Fault α)}
    (decided : (Watch.starting signals since).decide sight = some verdict)
    (in_range : sight.now < Watch.clockRange) :
    sight.Decides signals since (verdict.told signals) := by
  unfold Watch.decide at decided
  simp only [stopped_starting] at decided
  by_cases stopped : sight.Stopped signals
  · rw [if_pos stopped] at decided
    cases decided
    exact .cancelled stopped
  · rw [if_neg stopped] at decided
    cases answer : sight.answer with
    | ready value =>
        rw [answer] at decided
        cases decided
        cases value with
        | ok value => exact .finished stopped answer
        | error fault => exact .failed stopped answer
    | pending wake =>
        rw [answer, Watch.judge] at decided
        split at decided
        · rename_i due
          cases decided
          obtain ⟨span, limit, passed⟩ := (Watch.due_starting in_range).1 due
          have timed := Decides.timedOut stopped answer limit passed
          simpa [Verdict.told, limit] using timed
        · cases decided

theorem undecided_of_waiting (in_range : sight.now < Watch.clockRange)
    (undecided : ∀ outcome, ¬ sight.Decides signals since outcome) :
    (Watch.starting signals since).decide sight = none := by
  cases decided : (Watch.starting signals since).decide sight with
  | none => rfl
  | some verdict => exact absurd (decides_told decided in_range) (undecided _)

end Sight

namespace Race

variable {σ α : Type}

/-- An operation over a sequence of polls, up to the first that decides it. -/
def follow (device : Device σ α) (cancelled : Bool) (race : Race σ) : List Wakeup → Step σ α
  | [] => { verdict := none, wake := .never, time := { cancelled }, race }
  | wakeup :: later =>
      let step := race.poll device (wakeup.reach cancelled)
      match step.verdict with
      | some _ => step
      | none => follow device step.time.cancelled step.race later

/-- What the polls meet for as long as none of them decides. -/
def sights (device : Device σ α) (cancelled : Bool) (source : σ) : List Wakeup → List (Sight α)
  | [] => []
  | wakeup :: later =>
      let polled := device wakeup.now source
      let cancelled := cancelled || wakeup.cancelled
      { now := wakeup.now, cancelled, answer := polled.answer } ::
        sights device (cancelled || polled.cancels) polled.rest later

def left (device : Device σ α) (source : σ) (wakeups : List Wakeup) : σ :=
  wakeups.foldl (fun source wakeup => (device wakeup.now source).rest) source

variable {device : Device σ α} {cancelled : Bool} {race : Race σ}

theorem verdict_poll (device : Device σ α) (time : Timeline) (race : Race σ) :
    (race.poll device time).verdict =
      race.watch.decide
        { now := time.now, cancelled := time.cancelled
          answer := (device time.now race.source).answer } := by
  unfold poll Watch.decide
  split
  · rfl
  · rfl

theorem race_poll (device : Device σ α) (time : Timeline) (race : Race σ) :
    (race.poll device time).race =
      if race.watch.cancellable && time.cancelled then race
      else { race with
        source := (device time.now race.source).rest, polls := race.polls + 1 } := by
  unfold poll
  split
  · rfl
  · rfl

theorem poll_undecided {time : Timeline} (undecided : (race.poll device time).verdict = none) :
    (race.poll device time).time.cancelled =
        (time.cancelled || (device time.now race.source).cancels) ∧
      (race.poll device time).race =
        { race with source := (device time.now race.source).rest, polls := race.polls + 1 } := by
  by_cases stopped : race.watch.cancellable && time.cancelled
  · rw [verdict_poll, Watch.decide, if_pos stopped] at undecided
    cases undecided
  · constructor
    · rw [poll, if_neg stopped]
      cases cancels : (device time.now race.source).cancels <;> simp [cancels, Timeline.cancel]
    · rw [race_poll, if_neg stopped]

theorem follow_stop {wakeup : Wakeup} {verdict : Verdict α} (later : List Wakeup)
    (decided : (race.poll device (wakeup.reach cancelled)).verdict = some verdict) :
    follow device cancelled race (wakeup :: later) =
      race.poll device (wakeup.reach cancelled) := by
  simp only [follow, decided]

theorem follow_skip {wakeup : Wakeup} (later : List Wakeup)
    (undecided : (race.poll device (wakeup.reach cancelled)).verdict = none) :
    follow device cancelled race (wakeup :: later) =
      follow device (cancelled || wakeup.cancelled || (device wakeup.now race.source).cancels)
        { race with source := (device wakeup.now race.source).rest, polls := race.polls + 1 }
        later := by
  obtain ⟨token, asked⟩ := poll_undecided undecided
  simp only [follow, undecided]
  rw [token, asked]
  rfl

theorem follow_undecided (cancelled : Bool) (race : Race σ) (wakeups : List Wakeup)
    (undecided : ∀ sight ∈ sights device cancelled race.source wakeups,
      race.watch.decide sight = none) :
    (follow device cancelled race wakeups).verdict = none ∧
      (follow device cancelled race wakeups).race =
        { race with
          source := left device race.source wakeups, polls := race.polls + wakeups.length } := by
  induction wakeups generalizing cancelled race with
  | nil => exact ⟨rfl, rfl⟩
  | cons wakeup later ih =>
      have first : (race.poll device (wakeup.reach cancelled)).verdict = none :=
        (verdict_poll _ _ _).trans (undecided _ List.mem_cons_self)
      rw [follow_skip later first, left, List.foldl_cons, List.length_cons,
        Nat.add_comm later.length, ← Nat.add_assoc]
      apply ih
      intro sight member
      exact undecided sight (List.mem_cons_of_mem _ member)

/-- The first poll that decides is the last, and it asks the socket unless it finds its token
cancelled. -/
theorem follow_decided (cancelled : Bool) (race : Race σ) (wakeups : List Wakeup) (index : Nat)
    {sight : Sight α} {verdict : Verdict α}
    (met : (sights device cancelled race.source wakeups)[index]? = some sight)
    (before : ∀ sight ∈ (sights device cancelled race.source wakeups).take index,
      race.watch.decide sight = none)
    (decided : race.watch.decide sight = some verdict) :
    let asks := index + if race.watch.cancellable && sight.cancelled then 0 else 1
    (follow device cancelled race wakeups).verdict = some verdict ∧
      (follow device cancelled race wakeups).race =
        { race with
          source := left device race.source (wakeups.take asks), polls := race.polls + asks } := by
  induction wakeups generalizing cancelled race index with
  | nil => cases met
  | cons wakeup later ih =>
      cases index with
      | zero =>
          cases met
          have first : (race.poll device (wakeup.reach cancelled)).verdict = some verdict :=
            (verdict_poll _ _ _).trans decided
          rw [follow_stop later first]
          refine ⟨first, ?_⟩
          -- The socket is asked by this poll too, unless the token keeps it from being asked.
          rw [race_poll, Wakeup.reach]
          by_cases stopped : race.watch.cancellable && (cancelled || wakeup.cancelled)
          · rw [if_pos stopped, if_pos stopped]
            rfl
          · rw [if_neg stopped, if_neg stopped]
            rfl
      | succ index =>
          have first : (race.poll device (wakeup.reach cancelled)).verdict = none :=
            (verdict_poll _ _ _).trans (before _ List.mem_cons_self)
          have last := ih (cancelled || wakeup.cancelled || (device wakeup.now race.source).cancels)
            { race with source := (device wakeup.now race.source).rest, polls := race.polls + 1 }
            index met (fun sight member => before sight (List.mem_cons_of_mem _ member)) decided
          dsimp only at last ⊢
          generalize (if race.watch.cancellable && sight.cancelled then 0 else 1) = asks at last ⊢
          have shift : race.polls + (index + 1 + asks) = race.polls + 1 + (index + asks) := by omega
          rw [follow_skip later first, shift, Nat.add_right_comm index 1, List.take_succ_cons]
          exact last

theorem now_lt_of_mem_sights {socket : σ} {wakeups : List Wakeup} {sight : Sight α} {bound : Nat}
    (in_range : ∀ wakeup ∈ wakeups, wakeup.now < bound)
    (member : sight ∈ sights device cancelled socket wakeups) : sight.now < bound := by
  induction wakeups generalizing cancelled socket with
  | nil => cases member
  | cons wakeup later ih =>
      rcases List.mem_cons.1 member with rfl | member
      · exact in_range wakeup List.mem_cons_self
      · exact ih (fun wakeup present => in_range wakeup (List.mem_cons_of_mem _ present)) member

theorem succeeded_outcome {signals : Signals} {since : Nat} {step : Step σ (Except Fault α)}
    {verdict : Verdict (Except Fault α)} (decided : step.verdict = some verdict)
    (watched : step.race.watch = Watch.starting signals since) :
    Exchange.succeeded signals.operation step.outcome = verdict.told signals := by
  unfold Step.outcome
  rw [decided, watched]
  rcases verdict with ⟨value | value⟩ | _ | _ <;> rfl

/-- How the polls of an operation end if the one of this index is the first that decides it: with
its decision, and with a socket that was asked up to then and is never asked again. -/
structure Concludes (signals : Signals) (device : Device σ (Except Fault α)) (socket : σ)
    (first : Wakeup) (later : List Wakeup) (index : Nat) (sight : Sight (Except Fault α))
    (result : Outcome α) (ended : Step σ (Except Fault α)) : Prop where
  decided : ended.verdict ≠ none
  told : Exchange.succeeded signals.operation ended.outcome = result
  polls : ended.race.polls = if sight.Stopped signals then index else index + 1
  source : ended.race.source = left device socket ((first :: later).take ended.race.polls)
  completion : ∀ value, result = .ok value →
    (ended.race.completion = .inline ↔
      ∃ value, (device first.now socket).answer = .ready value)

/-- A result comes inline if the first poll finds the socket ready, and only then. -/
theorem completion_of_polls {signals : Signals} {device : Device σ (Except Fault α)} {socket : σ}
    {first : Wakeup} {later : List Wakeup} {index : Nat} {sight : Sight (Except Fault α)}
    {race : Race σ} (met : (sights device false socket (first :: later))[index]? = some sight)
    (before : ∀ earlier ∈ (sights device false socket (first :: later)).take index,
      ∀ outcome, ¬ earlier.Decides signals first.now outcome)
    (ready : ∃ value, sight.answer = .ready value) (polls : race.polls = index + 1) :
    race.completion = .inline ↔ ∃ value, (device first.now socket).answer = .ready value := by
  unfold completion
  rw [polls]
  cases index with
  | zero =>
      cases met
      simp [ready]
  | succ index =>
      have waiting : ¬ ∃ value, (device first.now socket).answer = .ready value := by
        rintro ⟨value, answer⟩
        exact Sight.not_ready (before _ List.mem_cons_self) value answer
      simp [waiting]

theorem concludes_of_first {signals : Signals} {device : Device σ (Except Fault α)} {socket : σ}
    {first : Wakeup} {later : List Wakeup} {index : Nat} {sight : Sight (Except Fault α)}
    {result : Outcome α}
    (in_range : ∀ wakeup ∈ first :: later, wakeup.now < Watch.clockRange)
    (met : (sights device false socket (first :: later))[index]? = some sight)
    (before : ∀ earlier ∈ (sights device false socket (first :: later)).take index,
      ∀ outcome, ¬ earlier.Decides signals first.now outcome)
    (decides : sight.Decides signals first.now result) :
    Concludes signals device socket first later index sight result
      (follow device false { watch := Watch.starting signals first.now, source := socket }
        (first :: later)) := by
  obtain ⟨verdict, decided, told⟩ :=
    decides.decide (now_lt_of_mem_sights in_range (List.mem_of_getElem? met))
  obtain ⟨ended, race⟩ := follow_decided false
    { watch := Watch.starting signals first.now, source := socket } (first :: later) index met
    (fun earlier member => Sight.undecided_of_waiting
      (now_lt_of_mem_sights in_range (List.mem_of_mem_take member)) (before earlier member))
    decided
  have watched := congrArg Race.watch race
  have asks := (congrArg Race.polls race).trans (Nat.zero_add _)
  have polls := asks
  simp only [Sight.stopped_starting] at polls
  constructor
  · rw [ended]
    simp
  · rw [succeeded_outcome ended watched, told]
  · rw [polls]
    split
    · rfl
    · rfl
  · rw [asks]
    exact congrArg Race.source race
  · rintro value rfl
    cases decides with
    | finished running ready =>
        rw [if_neg running] at polls
        exact completion_of_polls met before ⟨_, ready⟩ polls

/-- The first poll that meets a cancelled token, a ready socket or a deadline that has passed
decides the operation, in this order; for as long as none does, the operation waits. A token that
is cancelled before the first poll keeps the socket from ever being asked. -/
theorem first_sight_decides (signals : Signals) (device : Device σ (Except Fault α)) (socket : σ)
    (first : Wakeup) (later : List Wakeup)
    (in_range : ∀ wakeup ∈ first :: later, wakeup.now < Watch.clockRange) :
    let met := sights device false socket (first :: later)
    let ended := follow device false
      { watch := Watch.starting signals first.now, source := socket } (first :: later)
    ((∀ sight ∈ met, ∀ outcome, ¬ sight.Decides signals first.now outcome) →
      ended.verdict = none ∧ ended.race.polls = (first :: later).length ∧
        ended.race.source = left device socket (first :: later)) ∧
    (∀ index sight outcome, met[index]? = some sight →
      (∀ earlier ∈ met.take index, ∀ outcome, ¬ earlier.Decides signals first.now outcome) →
      sight.Decides signals first.now outcome →
        Concludes signals device socket first later index sight outcome ended) ∧
    (signals.cancel ≠ none → first.cancelled = true →
      ended.race.polls = 0 ∧ ended.race.source = socket) := by
  intro met ended
  refine ⟨?_, ?_, ?_⟩
  · intro undecided
    obtain ⟨pending, race⟩ := follow_undecided false
      { watch := Watch.starting signals first.now, source := socket } (first :: later)
      (fun sight member => Sight.undecided_of_waiting (now_lt_of_mem_sights in_range member)
        (undecided sight member))
    refine ⟨pending, ?_, ?_⟩
    · exact (congrArg Race.polls race).trans (Nat.zero_add _)
    · exact congrArg Race.source race
  · intro index sight outcome present before decides
    exact concludes_of_first in_range present before decides
  · intro token cancelled
    have stopped : Sight.Stopped signals
        { now := first.now, cancelled := false || first.cancelled
          answer := (device first.now socket).answer } :=
      ⟨token, by simpa using cancelled⟩
    have none_before : ∀ earlier ∈ (sights device false socket (first :: later)).take 0,
        ∀ outcome, ¬ earlier.Decides signals first.now outcome := by simp
    have ends := concludes_of_first in_range rfl none_before (.cancelled stopped)
    have polls := ends.polls.trans (if_pos stopped)
    refine ⟨polls, ?_⟩
    rw [ends.source, polls]
    rfl

/-- A socket that has its answer at the very moment at which the deadline is over. -/
def punctual : Device Unit (Except Fault Nat) := fun now socket =>
  if now < 5 then { answer := .pending .never, rest := socket }
  else { answer := .ready (.ok 7), rest := socket }

theorem punctual_first_sight_decides :
    let signals : Signals :=
      { operation := .receive, deadline := some (.ofMillis 5), cancel := some ⟨[0]⟩ }
    let polls : List Wakeup := [{ now := 0 }, { now := 5 }, { now := 5, cancelled := true }]
    let ended := follow punctual false { watch := Watch.starting signals 0, source := () } polls
    (∀ wakeup ∈ polls, wakeup.now < Watch.clockRange) ∧
      Exchange.succeeded .receive ended.outcome = .ok 7 ∧ ended.race.polls = 2 ∧
      ended.race.completion = .deferred := by
  intro signals polls ended
  have in_range : ∀ wakeup ∈ polls, wakeup.now < Watch.clockRange := by decide
  have concludes := (first_sight_decides signals punctual () { now := 0 }
    [{ now := 5 }, { now := 5, cancelled := true }] in_range).2.1 1 _ (.ok 7) rfl
    (by
      intro earlier member outcome decides
      cases List.mem_singleton.1 member
      cases decides with
      | cancelled stopped => cases stopped.2
      | finished running ready => cases ready
      | failed running ready => cases ready
      | timedOut running waiting limit passed =>
          cases limit
          revert passed
          decide)
    (.finished (by decide) rfl)
  refine ⟨in_range, concludes.told, concludes.polls, ?_⟩
  cases inline : ended.race.completion with
  | deferred => rfl
  | inline =>
      obtain ⟨value, ready⟩ := (concludes.completion 7 rfl).1 inline
      cases ready

theorem follow_absorb {wakeup : Wakeup} (later : List Wakeup)
    (absorbed : cancelled = true → wakeup.cancelled = true) :
    follow device cancelled race (wakeup :: later) =
      follow device false race (wakeup :: later) := by
  have reached : wakeup.reach cancelled = wakeup.reach false := by
    cases cancelled with
    | false => rfl
    | true => simp [Wakeup.reach, absorbed rfl]
  simp only [follow, reached]

theorem cancelled_resume {watch : Watch} {time next : Timeline} {wake : Wake}
    (resumed : watch.resume time wake = some next) (cancelled : time.cancelled = true) :
    next.cancelled = true := by
  unfold Watch.resume at resumed
  split at resumed
  · cases resumed
    rfl
  · split at resumed
    · cases resumed
      exact cancelled
    · obtain ⟨moment, -, rfl⟩ := Option.map_eq_some_iff.1 resumed
      exact cancelled

/-- A race against a script is a sequence of polls like any other, whose moments the script, the
deadline and the planned cancellation choose. -/
theorem run_follows (time : Timeline) (race : Race (Script α)) :
    ∃ later,
      let ended := follow Script.poll false race
        ({ now := time.now, cancelled := time.cancelled } :: later)
      (run time race).verdict = ended.verdict ∧ (run time race).race = ended.race := by
  -- A poll looks at nothing of the time but its moment and the token.
  have alike (time : Timeline) (race : Race (Script α)) :
      (race.poll Script.poll
          (Wakeup.reach { now := time.now, cancelled := time.cancelled } false)).verdict =
        (race.poll Script.poll time).verdict := by
    simp only [verdict_poll, Wakeup.reach, Bool.false_or]
  fun_induction run time race with
  | case1 time race step verdict decided =>
      refine ⟨[], ?_⟩
      dsimp only
      rw [follow_stop [] ((alike time race).trans decided)]
      refine ⟨(alike time race).symm, ?_⟩
      simp only [step, race_poll, Wakeup.reach, Bool.false_or]
  | case2 time race step undecided stuck =>
      refine ⟨[], ?_⟩
      dsimp only
      rw [follow_skip [] ((alike time race).trans undecided)]
      exact ⟨undecided, (poll_undecided undecided).2⟩
  | case3 time race step undecided next resumed ih =>
      obtain ⟨later, ended⟩ := ih
      obtain ⟨token, asked⟩ := poll_undecided undecided
      refine ⟨{ now := next.now, cancelled := next.cancelled } :: later, ?_⟩
      dsimp only
      rw [follow_skip _ ((alike time race).trans undecided), ← asked, follow_absorb]
      · exact ended
      · -- A token that this poll leaves cancelled is found so by the next.
        intro cancelled
        exact cancelled_resume resumed (token.trans cancelled)

end Race

end FramedTransport
