import FramedTransport.Proofs.Deadlines

/-!
A deadline in slices.
A transfer may also keep the moment at which its deadline is over, give each of its socket
calls the time that is left until then, and report a timeout of the last slice as one of the
whole. That is the same transfer: what is left at any moment ends when the whole does, or at
once if that is past.
-/

namespace FramedTransport

/-- A deadline that the socket calls of one transfer share, and when it is over, in nanoseconds of
the clock. -/
structure Budget where
  total : Option Duration
  expiry : Option Nat
deriving DecidableEq, Repr

namespace Budget

variable {α : Type}

def start (total : Option Duration) (now : Nat) : Budget where
  total
  expiry := total.map fun span => now * Duration.nanosPerMilli + span.nanoseconds

def left (budget : Budget) (now : Nat) : Option Duration :=
  budget.expiry.map fun expiry => ⟨expiry - now * Duration.nanosPerMilli⟩

def restampHalt (budget : Budget) : Halt → Halt
  | .error (.timeout operation after) =>
      .error (.timeout operation (budget.total.getD after))
  | halt => halt

def restamp (budget : Budget) : Outcome α → Outcome α
  | .ok value => .ok value
  | .error halt => .error (budget.restampHalt halt)

def slice (budget : Budget) (watch : Watch) (now : Nat) : Watch :=
  { watch with deadline := budget.left now, since := now }

end Budget

namespace Link

def readSlice (budget : Budget) (watch : Watch) (room : Nat) (link : Link) :
    Outcome Bytes × Link :=
  let (outcome, next) := link.read (budget.slice watch link.time.now) room
  (budget.restamp outcome, next)

def writeSlice (budget : Budget) (watch : Watch) (offered : Bytes) (link : Link) :
    Outcome Nat × Link :=
  let (outcome, next) := link.write (budget.slice watch link.time.now) offered
  (budget.restamp outcome, next)

def flushSlice (budget : Budget) (watch : Watch) (link : Link) : Outcome Unit × Link :=
  let (outcome, next) := link.flush (budget.slice watch link.time.now)
  (budget.restamp outcome, next)

end Link

namespace Incoming

/-- Reads until the frame is ready for dispatch, each time for as long as the budget lasts. -/
def fillSliced (budget : Budget) (watch : Watch) (frame : Incoming) (link : Link) :
    (Outcome Unit × Incoming) × Link :=
  if frame.wantsBytes then
    match link.readSlice budget watch frame.windowLength with
    | (.error halt, link) => ((.error halt, frame.expose), link)
    | (.ok received, link) =>
        match _accepted : (frame.write received).advance received.length with
        | (next, .error reason) =>
            ((.error (.error (endInside frame.buffered reason)), next), link)
        | (next, .ok ()) => fillSliced budget watch next link
  else
    match frame.phase with
    | .dispatch _ => ((.ok (), frame), link)
    | phase =>
        ((.error (.error (.protocolViolation ("frame fill stopped while " ++ phase.name))), frame),
          link)
termination_by frame.missing
decreasing_by
  have closer := missing_advance (frame.write received) received.length (by rw [_accepted])
  rw [_accepted, missing_write] at closer
  exact closer

end Incoming

namespace Outgoing

def pushSliced (budget : Budget) (watch : Watch) (frame : Outgoing) (link : Link) :
    (Outcome Unit × Outgoing) × Link :=
  if frame.isComplete then
    let (flushed, link) := link.flushSlice budget watch
    ((flushed, frame), link)
  else
    match link.writeSlice budget watch frame.pending with
    | (.error halt, link) => ((.error halt, frame), link)
    | (.ok count, link) =>
        match _accepted : frame.advance count with
        | .error reason => ((.error (.error reason), frame), link)
        | .ok next => pushSliced budget watch next link
termination_by frame.progress.remaining
decreasing_by exact remaining_advance _accepted

end Outgoing

namespace Script

theorem ahead_poll {α : Type} {now moment : Nat} {script : Script α}
    (waits : (poll now script).answer = .pending (.atTime moment)) : now < moment := by
  induction script with
  | nil => cases waits
  | cons event rest ih =>
      unfold poll at waits
      split at waits
      · rename_i early
        cases waits
        exact early
      · split at waits
        · cases waits
        · cases waits
        · cases waits
        · exact ih waits

end Script

namespace Watch

variable {watch : Watch} {time next : Timeline} {wake : Wake}

/-- Watches that no poll can tell apart. -/
structure Alike (watch other : Watch) : Prop where
  cancellable : watch.cancellable = other.cancellable
  dueAt : watch.dueAt = other.dueAt

theorem Alike.due {other : Watch} (alike : watch.Alike other) (now : Nat) :
    watch.due now = other.due now := by
  unfold Watch.due
  rw [alike.dueAt]

theorem Alike.resume {other : Watch} (alike : watch.Alike other) (time : Timeline) (wake : Wake) :
    watch.resume time wake = other.resume time wake := by
  unfold Watch.resume
  rw [alike.cancellable, alike.dueAt]

theorem later_resume (undue : watch.due time.now = false)
    (ahead : ∀ moment, wake = .atTime moment → time.now < moment)
    (resumed : watch.resume time wake = some next) : time.now ≤ next.now := by
  unfold resume at resumed
  split at resumed
  · cases resumed
    exact Nat.le_refl _
  · rename_i unfired
    split at resumed
    · cases resumed
      exact Nat.le_refl _
    · obtain ⟨moment, soonest, rfl⟩ := Option.map_eq_some_iff.1 resumed
      rcases Race.sooner_cases soonest with front | others
      · cases wake with
        | immediately => cases front
        | never => cases front
        | atTime other =>
            cases front
            exact Nat.le_of_lt (ahead moment rfl)
      · rcases Race.sooner_cases others with due | planned
        · simp only [Watch.due, due, decide_eq_false_iff_not, Nat.not_le] at undue
          exact Nat.le_of_lt undue
        · simp only [Timeline.cancelDue, planned, decide_eq_true_eq, Nat.not_le] at unfired
          exact Nat.le_of_lt unfired

end Watch

namespace Race

variable {α : Type}

theorem ahead_of_undecided {time : Timeline} {race : Race (Script α)}
    (undecided : (race.poll Script.poll time).verdict = none) :
    race.watch.due time.now = false ∧
      ∀ moment, (race.poll Script.poll time).wake = .atTime moment → time.now < moment := by
  unfold poll at undecided ⊢
  split at undecided
  · cases undecided
  · rename_i running
    rw [if_neg running]
    dsimp only at undecided ⊢
    cases answer : (Script.poll time.now race.source).answer with
    | ready value =>
        rw [answer] at undecided
        cases undecided
    | pending wake =>
        rw [answer, Watch.judge] at undecided
        split at undecided
        · cases undecided
        · rename_i undue
          refine ⟨by simpa using undue, ?_⟩
          rintro moment rfl
          exact Script.ahead_poll answer

theorem now_le_run (time : Timeline) (race : Race (Script α)) :
    time.now ≤ (run time race).time.now := by
  fun_induction run time race with
  | case1 time race step verdict decided => exact Nat.le_of_eq (now_poll time race).symm
  | case2 time race step undecided stuck => exact Nat.le_of_eq (now_poll time race).symm
  | case3 time race step undecided next resumed ih =>
      obtain ⟨undue, ahead⟩ := ahead_of_undecided undecided
      have moment := now_poll time race
      have onwards : (race.poll Script.poll time).time.now ≤ next.now := by
        refine Watch.later_resume ?_ ?_ resumed
        · rw [moment]
          exact undue
        · rw [moment]
          exact ahead
      rw [moment] at onwards
      exact Nat.le_trans onwards ih

def rewatch (watch : Watch) (race : Race (Script α)) : Race (Script α) := { race with watch }

theorem poll_rewatch {time : Timeline} {race : Race (Script α)} {watch : Watch}
    (cancellable : watch.cancellable = race.watch.cancellable)
    (due : watch.due time.now = race.watch.due time.now) :
    (race.rewatch watch).poll Script.poll time =
      { race.poll Script.poll time with
        race := (race.poll Script.poll time).race.rewatch watch } := by
  unfold poll rewatch Watch.judge
  simp only [cancellable, due]
  split
  · rfl
  · rfl

theorem run_stuck {time : Timeline} {race : Race (Script α)}
    (stuck : race.watch.resume (race.poll Script.poll time).time
      (race.poll Script.poll time).wake = none) :
    run time race = race.poll Script.poll time := by
  rw [run]
  split
  · rfl
  · split
    · rfl
    · rename_i resumed
      rw [stuck] at resumed
      cases resumed

theorem run_resumed {time next : Timeline} {race : Race (Script α)}
    (undecided : (race.poll Script.poll time).verdict = none)
    (resumed : race.watch.resume (race.poll Script.poll time).time
      (race.poll Script.poll time).wake = some next) :
    run time race = run next (race.poll Script.poll time).race := by
  rw [run]
  split
  · rename_i decided
    rw [undecided] at decided
    cases decided
  · split
    · rename_i stuck
      rw [resumed] at stuck
      cases stuck
    · rename_i other again
      rw [resumed] at again
      cases again
      rfl

theorem run_rewatch (time : Timeline) (race : Race (Script α)) {watch : Watch}
    (alike : watch.Alike race.watch) :
    run time (race.rewatch watch) =
      { run time race with race := (run time race).race.rewatch watch } := by
  fun_induction run time race with
  | case1 time race step verdict decided =>
      have polled := poll_rewatch alike.cancellable (alike.due time.now)
      rw [run_decided, polled]
      rw [polled]
      simp only [ne_eq]
      rw [show (race.poll Script.poll time).verdict = some verdict from decided]
      simp
  | case2 time race step undecided stuck =>
      have polled := poll_rewatch alike.cancellable (alike.due time.now)
      rw [run_stuck, polled]
      rw [polled]
      exact (alike.resume _ _).trans stuck
  | case3 time race step undecided next resumed ih =>
      have polled := poll_rewatch alike.cancellable (alike.due time.now)
      have still : ((race.rewatch watch).poll Script.poll time).verdict = none := by
        rw [polled]
        exact undecided
      have again : (race.rewatch watch).watch.resume
          ((race.rewatch watch).poll Script.poll time).time
          ((race.rewatch watch).poll Script.poll time).wake = some next := by
        rw [polled]
        exact (alike.resume _ _).trans resumed
      rw [run_resumed still again, polled]
      apply ih
      rwa [watch_poll]

/-- A deadline that is past is as good as one that ends now. -/
theorem run_slice (time : Timeline) (race : Race (Script α)) (slice : Watch)
    (cancellable : slice.cancellable = race.watch.cancellable)
    (dueAt : slice.dueAt = race.watch.dueAt.map (max time.now)) :
    run time (race.rewatch slice) =
      { run time race with race := (run time race).race.rewatch slice } := by
  by_cases due : race.watch.due time.now
  · -- Past its deadline a race ends at the next poll, and so it does for a slice of no time.
    have polled := @poll_rewatch _ time race slice cancellable (by
      obtain ⟨moment, whole, reached⟩ := Watch.due_iff.1 due
      rw [due, Watch.due, dueAt, whole]
      simp [reached])
    have decided : (race.poll Script.poll time).verdict ≠ none := by
      intro undecided
      simp [(ahead_of_undecided undecided).1] at due
    rw [run_decided decided, run_decided, polled]
    rw [polled]
    exact decided
  · -- Ahead of it the slice ends at the same moment.
    apply run_rewatch
    refine ⟨cancellable, dueAt.trans ?_⟩
    cases whole : race.watch.dueAt with
    | none => rfl
    | some moment =>
        have ahead : time.now < moment := by simpa [Watch.due, whole] using due
        simp [Nat.max_eq_right (Nat.le_of_lt ahead)]

end Race

namespace Budget

variable {watch : Watch} {now : Nat} {α : Type}

theorem dueAt_slice (countable : Exchange.Countable watch.deadline) (since : watch.since ≤ now) :
    ((start watch.deadline watch.since).slice watch now).dueAt = watch.dueAt.map (max now) := by
  cases deadline : watch.deadline with
  | none => simp [slice, left, start, Watch.dueAt, deadline]
  | some span =>
      have near := countable span deadline
      have passed := Nat.mul_le_mul_right Duration.nanosPerMilli since
      have rest : Duration.seconds
          ⟨watch.since * Duration.nanosPerMilli + span.nanoseconds - now * Duration.nanosPerMilli⟩
            < Watch.horizon := by
        refine Nat.lt_of_le_of_lt (Nat.div_le_div_right ?_) near
        dsimp only
        omega
      -- Rounding up commutes with taking off whole milliseconds.
      have sum : now + Duration.millisCovering
          ⟨watch.since * Duration.nanosPerMilli + span.nanoseconds - now * Duration.nanosPerMilli⟩
            = max now (watch.since + span.millisCovering) := by
        unfold Duration.millisCovering Duration.nanosPerMilli
        dsimp only
        omega
      simp [slice, left, start, Watch.dueAt, deadline, rest, near, sum]

theorem restamp_outcome {step : Race.Step (Script α) (Option α)} (slice : Watch)
    (watched : step.race.watch = watch) (operation : slice.operation = watch.operation)
    (unlimited : watch.deadline = none → slice.deadline = none) :
    (start watch.deadline watch.since).restamp
        (Race.Step.outcome { step with race := step.race.rewatch slice }) =
      step.outcome := by
  unfold Race.Step.outcome
  simp only [Race.rewatch, watched, operation]
  split
  · rfl
  · cases deadline : watch.deadline with
    | none => simp [restamp, restampHalt, start, unlimited deadline]
    | some span => rfl
  · rfl
  · rfl

/-- A race for a slice is the race for the whole, up to the stamp of its timeout. -/
theorem run_slice (countable : Exchange.Countable watch.deadline) {time : Timeline}
    (since : watch.since ≤ time.now) (source : Script α) :
    let budget := start watch.deadline watch.since
    let whole := Race.run time { watch, source }
    let part := Race.run time { watch := budget.slice watch time.now, source }
    whole.outcome = budget.restamp part.outcome ∧ part.time = whole.time ∧
      part.race.source = whole.race.source := by
  intro budget whole part
  have raced : part = { whole with race := whole.race.rewatch (budget.slice watch time.now) } :=
    Race.run_slice time { watch, source } _ rfl (dueAt_slice countable since)
  rw [raced]
  refine ⟨?_, rfl, rfl⟩
  refine (restamp_outcome (budget.slice watch time.now) (Race.watch_run time { watch, source })
    rfl ?_).symm
  intro unlimited
  have free : watch.deadline = none := unlimited
  simp [budget, slice, left, start, free]

end Budget

namespace Link

variable {watch : Watch} {link : Link}

theorem readSlice_eq (countable : Exchange.Countable watch.deadline)
    (since : watch.since ≤ link.time.now) (room : Nat) :
    link.readSlice (.start watch.deadline watch.since) watch room = link.read watch room := by
  obtain ⟨outcome, time, source⟩ := Budget.run_slice countable since link.reads
  unfold readSlice read
  dsimp only
  rw [outcome, time, source]
  cases Race.Step.outcome _ with
  | error halt => rfl
  | ok value =>
      rcases value with _ | bytes | fault
      · rfl
      · rfl
      · rfl

theorem writeSlice_eq (countable : Exchange.Countable watch.deadline)
    (since : watch.since ≤ link.time.now) (offered : Bytes) :
    link.writeSlice (.start watch.deadline watch.since) watch offered =
      link.write watch offered := by
  obtain ⟨outcome, time, source⟩ := Budget.run_slice countable since link.writes
  unfold writeSlice write
  dsimp only
  rw [outcome, time, source]
  cases Race.Step.outcome _ with
  | error halt => rfl
  | ok value =>
      rcases value with _ | count | surplus | fault
      · rfl
      · rfl
      · rfl
      · rfl

theorem flushSlice_eq (countable : Exchange.Countable watch.deadline)
    (since : watch.since ≤ link.time.now) :
    link.flushSlice (.start watch.deadline watch.since) watch = link.flush watch := by
  obtain ⟨outcome, time, source⟩ := Budget.run_slice countable since link.flushes
  unfold flushSlice flush
  dsimp only
  rw [outcome, time, source]
  cases Race.Step.outcome _ with
  | error halt => rfl
  | ok value =>
      rcases value with _ | _ | fault
      · rfl
      · rfl
      · rfl

theorem Raced.now_le {α β : Type} {source : Script α} {next : Link} {outcome : Outcome β}
    (raced : Raced watch source link outcome next) : link.time.now ≤ next.time.now :=
  raced.time ▸ Race.now_le_run link.time { watch, source }

end Link

namespace Incoming

/-- A frame that is filled slice by slice is filled as under the whole deadline. -/
theorem fillSliced_eq {watch : Watch} (countable : Exchange.Countable watch.deadline)
    (frame : Incoming) (link : Link) (since : watch.since ≤ link.time.now) :
    fillSliced (.start watch.deadline watch.since) watch frame link = fill watch frame link := by
  fun_induction fill watch frame link with
  | case1 frame link wants halt next stopped =>
      rw [fillSliced, Link.readSlice_eq countable since, stopped, if_pos wants]
  | case2 frame link wants received next arrived after reason refused =>
      rw [fillSliced, Link.readSlice_eq countable since, arrived, if_pos wants]
      dsimp only
      split <;> rename_i again <;> rw [refused] at again <;> cases again
      rfl
  | case3 frame link wants received next arrived after accepted ih =>
      have later := (Link.raced_read watch frame.windowLength link).now_le
      rw [arrived] at later
      rw [fillSliced, Link.readSlice_eq countable since, arrived, if_pos wants]
      dsimp only
      split <;> rename_i again <;> rw [accepted] at again <;> cases again
      exact ih (Nat.le_trans since later)
  | case4 frame link idle header ready =>
      rw [fillSliced, if_neg idle, ready]
  | case5 frame link idle undispatched =>
      rw [fillSliced, if_neg idle]
      split
      · rename_i header dispatch
        exact absurd dispatch (undispatched header)
      · rfl

end Incoming

namespace Outgoing

theorem pushSliced_eq {watch : Watch} (countable : Exchange.Countable watch.deadline)
    (frame : Outgoing) (link : Link) (since : watch.since ≤ link.time.now) :
    pushSliced (.start watch.deadline watch.since) watch frame link = push watch frame link := by
  fun_induction push watch frame link with
  | case1 frame link complete flushed next ended =>
      rw [pushSliced, Link.flushSlice_eq countable since, ended, if_pos complete]
  | case2 frame link incomplete halt next stopped =>
      rw [pushSliced, Link.writeSlice_eq countable since, stopped, if_neg incomplete]
  | case3 frame link incomplete count next taken reason refused =>
      rw [pushSliced, Link.writeSlice_eq countable since, taken, if_neg incomplete]
      dsimp only
      split <;> rename_i again <;> rw [refused] at again <;> cases again
      rfl
  | case4 frame link incomplete count next taken after accepted ih =>
      have later := (Link.raced_write watch frame.pending link).now_le
      rw [taken] at later
      rw [pushSliced, Link.writeSlice_eq countable since, taken, if_neg incomplete]
      dsimp only
      split <;> rename_i again <;> rw [accepted] at again <;> cases again
      exact ih (Nat.le_trans since later)

end Outgoing

end FramedTransport
