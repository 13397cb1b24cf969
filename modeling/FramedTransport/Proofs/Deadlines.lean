import FramedTransport.Proofs.Operations

/-!
The deadline of an operation.
A race that starts before its deadline ends no later than at it, and at it exactly if it
times out. All socket calls of a transfer race against the same moment, so the transfer is
over by then however many calls it makes. A socket that is ready at once wins against any
deadline, even one that leaves no time at all.
-/

namespace FramedTransport

namespace Watch

variable {β γ : Type} {watch : Watch} {now moment : Nat}

/-- The deadline, if there is one, is not over before `now`. -/
def Within (watch : Watch) (now : Nat) : Prop :=
  ∀ moment, watch.dueAt = some moment → now ≤ moment

/-- What an operation that ends at `ended` may tell its caller of its deadline. -/
structure Keeps (watch : Watch) (outcome : Outcome β) (ended : Nat) : Prop where
  within : watch.Within ended
  timeout : ∀ operation after, outcome = .error (.error (.timeout operation after)) →
    operation = watch.operation ∧ watch.deadline = some after ∧ watch.dueAt = some ended
  stalled : outcome = .error .stalled → watch.dueAt = none

theorem within_starting (signals : Signals) (now : Nat) :
    (Watch.starting signals now).Within now := by
  intro moment due
  unfold dueAt at due
  split at due
  · split at due
    · cases due
      exact Nat.le_add_right _ _
    · cases due
  · cases due

theorem Keeps.ok {value : β} (within : watch.Within now) : watch.Keeps (.ok value) now :=
  ⟨within, by simp, by simp⟩

theorem Keeps.undisturbed {reason : TransportError} (within : watch.Within now)
    (quiet : reason.disturbs = false) :
    watch.Keeps (.error (.error reason) : Outcome β) now := by
  refine ⟨within, ?_, by simp⟩
  rintro operation after ⟨⟩
  cases quiet

theorem Keeps.abort {reason : Abort} (within : watch.Within now) :
    watch.Keeps (.error (.abort reason) : Outcome β) now :=
  ⟨within, by simp, by simp⟩

theorem Keeps.pass {halt : Halt} (keeps : watch.Keeps (.error halt : Outcome β) now) :
    watch.Keeps (.error halt : Outcome γ) now := by
  refine ⟨keeps.within, ?_, ?_⟩
  · rintro operation after ⟨⟩
    exact keeps.timeout _ _ rfl
  · rintro ⟨⟩
    exact keeps.stalled rfl

theorem due_iff : watch.due now = true ↔ ∃ moment, watch.dueAt = some moment ∧ moment ≤ now := by
  unfold due
  split
  · rename_i moment due
    simp [due]
  · rename_i never
    simp [never]

theorem sooner_le {first second : Option Nat} {soonest later : Nat}
    (earliest : sooner first second = some soonest)
    (bound : first = some later ∨ second = some later) : soonest ≤ later := by
  rcases bound with rfl | rfl
  · cases second with
    | none => cases earliest; exact Nat.le_refl _
    | some other => cases earliest; exact Nat.min_le_left _ _
  · cases first with
    | none => cases earliest; exact Nat.le_refl _
    | some other => cases earliest; exact Nat.min_le_right _ _

theorem within_resume {time next : Timeline} {wake : Wake} (within : watch.Within time.now)
    (resumed : watch.resume time wake = some next) : watch.Within next.now := by
  unfold resume at resumed
  split at resumed
  · cases resumed
    exact within
  · split at resumed
    · cases resumed
      exact within
    · obtain ⟨moment, soonest, rfl⟩ := Option.map_eq_some_iff.1 resumed
      intro due deadline
      -- The pause ends at the soonest of three moments, and the deadline is one of them.
      cases others : sooner watch.dueAt time.cancelAt with
      | none =>
          have never := (sooner_eq_none.1 others).1
          rw [deadline] at never
          cases never
      | some second =>
          have first := sooner_le others (.inl deadline)
          have last := sooner_le soonest (.inr others)
          exact Nat.le_trans last first

end Watch

namespace Race

variable {α : Type}

theorem now_poll (time : Timeline) (race : Race (Script α)) :
    (race.poll Script.poll time).time.now = time.now := by
  unfold poll
  split
  · rfl
  · dsimp only
    split
    · rfl
    · rfl

theorem due_of_timedOut {time : Timeline} {race : Race (Script α)}
    (timedOut : (race.poll Script.poll time).verdict = some .timedOut) :
    race.watch.due time.now = true := by
  unfold poll at timedOut
  split at timedOut
  · cases timedOut
  · dsimp only at timedOut
    unfold Watch.judge at timedOut
    split at timedOut
    · cases timedOut
    · split at timedOut
      · assumption
      · cases timedOut

theorem watch_poll (time : Timeline) (race : Race (Script α)) :
    (race.poll Script.poll time).race.watch = race.watch := by
  unfold poll
  split
  · rfl
  · rfl

/-- A race never waits beyond its deadline, and only one that has reached it times out. -/
theorem within_run (time : Timeline) (race : Race (Script α))
    (within : race.watch.Within time.now) :
    race.watch.Within (run time race).time.now ∧
      ((run time race).verdict = some .timedOut →
        race.watch.due (run time race).time.now = true) := by
  have polled (time : Timeline) (race : Race (Script α)) (within : race.watch.Within time.now) :
      race.watch.Within (race.poll Script.poll time).time.now ∧
        ((race.poll Script.poll time).verdict = some .timedOut →
          race.watch.due (race.poll Script.poll time).time.now = true) := by
    rw [now_poll]
    exact ⟨within, due_of_timedOut⟩
  fun_induction run time race with
  | case1 time race step verdict decided => exact polled time race within
  | case2 time race step undecided stuck => exact polled time race within
  | case3 time race step undecided next resumed ih =>
      have first := (polled time race within).1
      have later := ih (by
        rw [watch_poll]
        exact Watch.within_resume first resumed)
      rwa [watch_poll] at later

theorem keeps_run (time : Timeline) (race : Race (Script α))
    (within : race.watch.Within time.now) :
    race.watch.Keeps (run time race).outcome (run time race).time.now := by
  obtain ⟨ended, due⟩ := within_run time race within
  have watched := watch_run time race
  unfold Step.outcome
  rw [watched]
  cases verdict : (run time race).verdict with
  | none =>
      obtain ⟨never, -⟩ := undecided_run verdict
      exact ⟨ended, by simp, fun _ => never⟩
  | some decided =>
      cases decided with
      | ready value => exact .ok ended
      | cancelled => exact ⟨ended, by simp, by simp⟩
      | timedOut =>
          refine ⟨ended, ?_, by simp⟩
          rintro operation after ⟨⟩
          obtain ⟨moment, dueAt, reached⟩ := Watch.due_iff.1 (due verdict)
          -- Not before the deadline, since it is due, and not after it either.
          obtain rfl : moment = (run time race).time.now :=
            Nat.le_antisymm reached (ended moment dueAt)
          refine ⟨rfl, ?_, dueAt⟩
          cases deadline : race.watch.deadline with
          | none => simp [Watch.dueAt, deadline] at dueAt
          | some span => rfl

end Race

namespace Link

variable {α β : Type} {watch : Watch} {source : Script α} {link next : Link} {outcome : Outcome β}

theorem Raced.keeps (raced : Raced watch source link outcome next)
    (within : watch.Within link.time.now) : watch.Keeps outcome next.time.now := by
  have kept := Race.keeps_run link.time { watch, source } within
  rw [raced.time]
  cases ended : (Race.run link.time { watch, source }).outcome with
  | error halt =>
      rw [ended] at kept
      rw [(raced.halted halt ended).1]
      exact kept.pass
  | ok answer =>
      rcases raced.answered answer ended with ⟨value, result⟩ | ⟨fault, reported⟩
      · rw [result]
        exact .ok kept.within
      · rw [reported]
        exact ⟨kept.within, by simp, by simp⟩

end Link

theorem attach_undisturbed {ticket : Ticket} {buffer : Buffer} {reason : TransportError}
    (refused : ticket.attach buffer = .error reason) : reason.disturbs = false := by
  unfold Ticket.attach at refused
  split at refused
  · cases refused
  · cases refused
    rfl

theorem carried_undisturbed {ticket : Ticket} {reason : TransportError}
    (missing : ticket.carried = .error reason) : reason.disturbs = false := by
  unfold Ticket.carried at missing
  split at missing
  · cases missing
  · cases missing
    rfl

namespace Incoming

theorem endInside_undisturbed (held : Nat) {reason : TransportError}
    (quiet : reason.disturbs = false) : (endInside held reason).disturbs = false := by
  unfold endInside
  split
  · rfl
  · exact quiet

theorem keeps_fill {watch : Watch} (frame : Incoming) {link : Link}
    (within : watch.Within link.time.now) :
    watch.Keeps (fill watch frame link).1.1 (fill watch frame link).2.time.now := by
  fun_induction fill watch frame link with
  | case1 frame link wants halt next stopped =>
      have read := (Link.raced_read watch frame.windowLength link).keeps within
      rw [stopped] at read
      exact read.pass
  | case2 frame link wants received next arrived after reason refused =>
      have read := (Link.raced_read watch frame.windowLength link).keeps within
      rw [arrived] at read
      exact .undisturbed read.within (endInside_undisturbed _ (advance_undisturbed refused))
  | case3 frame link wants received next arrived after accepted ih =>
      have read := (Link.raced_read watch frame.windowLength link).keeps within
      rw [arrived] at read
      exact ih read.within
  | case4 frame link idle header ready => exact .ok within
  | case5 frame link idle undispatched => exact .undisturbed within rfl

end Incoming

namespace Outgoing

theorem advance_undisturbed {frame : Outgoing} {count : Nat} {reason : TransportError}
    (refused : frame.advance count = .error reason) : reason.disturbs = false := by
  cases taken : frame.progress.advance count with
  | ok progress => simp [advance, taken, bind, Except.bind, pure, Except.pure] at refused
  | error other =>
      obtain rfl : other = reason := by simpa [advance, taken, bind, Except.bind] using refused
      exact Incoming.progress_undisturbed taken

theorem keeps_push {watch : Watch} (frame : Outgoing) {link : Link}
    (within : watch.Within link.time.now) :
    watch.Keeps (push watch frame link).1.1 (push watch frame link).2.time.now := by
  fun_induction push watch frame link with
  | case1 frame link complete flushed next ended =>
      have flush := (Link.raced_flush watch link).keeps within
      rwa [ended] at flush
  | case2 frame link incomplete halt next stopped =>
      have write := (Link.raced_write watch frame.pending link).keeps within
      rw [stopped] at write
      exact write.pass
  | case3 frame link incomplete count next taken reason refused =>
      have write := (Link.raced_write watch frame.pending link).keeps within
      rw [taken] at write
      exact .undisturbed write.within (advance_undisturbed refused)
  | case4 frame link incomplete count next taken after accepted ih =>
      have write := (Link.raced_write watch frame.pending link).keeps within
      rw [taken] at write
      exact ih write.within

end Outgoing

namespace Exchange

variable {β γ : Type}

theorem withTicket_keeps {signals : Signals} {refused : Halt → β}
    {body : Watch → Ticket → Exchange → (β × Ticket) × Exchange} (outcome : β → Outcome γ)
    (exchange : Exchange)
    (aborted : ∀ reason, outcome (refused (.abort reason)) = .error (.abort reason))
    (ran : ∀ watch ticket inner, Watch.Within watch inner.link.time.now →
      watch.Keeps (outcome (body watch ticket inner).1.1)
        (body watch ticket inner).2.link.time.now) :
    (Watch.starting signals exchange.link.time.now).Keeps
      (outcome (withTicket signals refused body exchange).1)
      (withTicket signals refused body exchange).2.link.time.now := by
  have within := Watch.within_starting signals exchange.link.time.now
  refine withTicket_link (fun result link => Watch.Keeps _ (outcome result) link.time.now) ?_ ?_
  · intro reason
    rw [aborted]
    exact .abort within
  · intro ticket inner same
    apply ran
    rwa [same]

/-- A transfer keeps the deadline that it was started with. -/
theorem timed_keeps (signals : Signals)
    (transfer : Watch → Link → (Outcome Unit × γ) × Link) (frame : γ) (exchange : Exchange)
    (keeps : ∀ watch link, Watch.Within watch link.time.now →
      watch.Keeps (transfer watch link).1.1 (transfer watch link).2.time.now) :
    (Watch.starting signals exchange.link.time.now).Keeps
      (withTicket signals (fun halt => (.error halt, frame)) (timed transfer frame)
        exchange).1.1
      (withTicket signals (fun halt => (.error halt, frame)) (timed transfer frame)
        exchange).2.link.time.now := by
  refine withTicket_keeps Prod.fst exchange (fun reason => rfl) ?_
  intro watch ticket inner within
  unfold timed
  split
  · exact .abort within
  · exact keeps watch inner.link within

theorem fillFrame_keeps (cancel : CancelToken) (deadline : Option Duration) (frame : Incoming)
    (exchange : Exchange) :
    (Watch.starting { operation := .receive, deadline, cancel := some cancel }
      exchange.link.time.now).Keeps (exchange.fillFrame cancel deadline frame).1.1
        (exchange.fillFrame cancel deadline frame).2.link.time.now :=
  timed_keeps _ (fun watch => frame.fill watch) frame exchange
    fun _ _ within => Incoming.keeps_fill frame within

theorem pushFrame_keeps (cancel : CancelToken) (deadline : Option Duration) (frame : Outgoing)
    (exchange : Exchange) :
    (Watch.starting { operation := .send, deadline, cancel := some cancel }
      exchange.link.time.now).Keeps (exchange.pushFrame cancel deadline frame).1.1
        (exchange.pushFrame cancel deadline frame).2.link.time.now :=
  timed_keeps _ (fun watch => frame.push watch) frame exchange
    fun _ _ within => Outgoing.keeps_push frame within

theorem reclaim_keeps {watch : Watch} {now : Nat} (ticket : Ticket) (lost : String)
    (deliver : Buffer → Delivery) (within : watch.Within now) :
    watch.Keeps ((reclaim ticket lost).1.map deliver) now := by
  unfold reclaim
  split
  · exact .ok within
  · exact .undisturbed within rfl

theorem receiveSome_keeps (cancel : CancelToken) (remote : SocketAddress) (maxLength : Nat)
    (deadline : Option Duration) (exchange : Exchange) :
    (Watch.starting { operation := .receive, deadline, cancel := some cancel }
      exchange.link.time.now).Keeps (exchange.receiveSome cancel remote maxLength deadline).1
        (exchange.receiveSome cancel remote maxLength deadline).2.link.time.now := by
  refine withTicket_keeps id exchange (fun reason => rfl) ?_
  intro watch ticket inner within
  have read := (Link.raced_read watch maxLength inner.link).keeps within
  dsimp only [id]
  split
  · rename_i reason refused
    exact .undisturbed within (attach_undisturbed refused)
  · split
    · rename_i reason missing
      exact .undisturbed within (carried_undisturbed missing)
    · split <;> rename_i ended <;> rw [ended] at read
      · exact read.pass
      · split
        · exact .undisturbed read.within rfl
        · exact reclaim_keeps _ _ _ read.within

theorem sendAll_keeps (cancel : CancelToken) (remote : SocketAddress) (payload : Bytes)
    (deadline : Option Duration) (exchange : Exchange) :
    (Watch.starting { operation := .send, deadline, cancel := some cancel }
      exchange.link.time.now).Keeps (exchange.sendAll cancel remote payload deadline).1
        (exchange.sendAll cancel remote payload deadline).2.link.time.now := by
  refine withTicket_keeps id exchange (fun reason => rfl) ?_
  intro watch ticket inner within
  dsimp only [id]
  split
  · rename_i reason refused
    exact .undisturbed within (attach_undisturbed refused)
  · split
    · exact .abort within
    · split
      · rename_i reason missing
        exact .undisturbed within (carried_undisturbed missing)
      · rename_i buffer carried
        have pushed := Outgoing.keeps_push
          { buffer, progress := Progress.start payload.length } within
        split <;> rename_i ended <;> rw [ended] at pushed
        · exact pushed.pass
        · exact reclaim_keeps _ _ _ pushed.within

end Exchange

end FramedTransport
