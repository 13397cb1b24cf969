import FramedTransport.Stream.Link
import FramedTransport.Proofs.Buffers

/-!
What passes between a link and the scripts of its peer and its kernel.
A poll takes an action out of a script exactly if it answers with that action,
so no race can lose one: the deadline and the cancellation win only against a
socket that was not ready. Every byte that leaves the read script has been
received, and every byte that a link has written was taken by one write.
-/

namespace FramedTransport

namespace Script

variable {α : Type}

/-- The actions of a script in order, without their times and the waiting between them. -/
def actions (script : Script α) : List α :=
  script.filterMap fun event => match event.cue with
    | .act action => some action
    | .hang | .yield | .cancel => none

@[simp] theorem actions_act (action : α) (rest : Script α) (moment : Nat) :
    actions ({ notBefore := moment, cue := .act action } :: rest) = action :: actions rest := rfl

/-- No event keeps its callers waiting for ever. -/
def Moves (script : Script α) : Prop := ∀ event ∈ script, event.cue ≠ .hang

def taken : Poll (Option α) → List α
  | .ready (some action) => [action]
  | .ready none | .pending _ => []

theorem actions_poll (now : Nat) (script : Script α) :
    actions script = taken (poll now script).answer ++ actions (poll now script).rest := by
  induction script with
  | nil => rfl
  | cons event rest ih =>
      unfold poll
      split
      · rfl
      · split <;> rename_i cue <;> simp [actions, taken, cue] at *
        exact ih

theorem rest_suffix (now : Nat) (script : Script α) : (poll now script).rest <:+ script := by
  induction script with
  | nil => exact List.suffix_refl _
  | cons event rest ih =>
      unfold poll
      split
      · exact List.suffix_refl _
      · split
        · exact List.suffix_cons _ _
        · exact List.suffix_refl _
        · exact List.suffix_cons _ _
        · exact ih.trans (List.suffix_cons _ _)

theorem actions_of_ready_none {now : Nat} {script : Script α}
    (silent : (poll now script).answer = .ready none) : actions script = [] := by
  induction script with
  | nil => rfl
  | cons event rest ih =>
      unfold poll at silent
      split at silent
      · cases silent
      · split at silent <;> rename_i cue <;> simp [actions, cue] at *
        exact ih silent

theorem hang_of_never {now : Nat} {script : Script α}
    (never : (poll now script).answer = .pending .never) :
    ∃ event ∈ script, event.cue = .hang := by
  induction script with
  | nil => simp [poll] at never
  | cons event rest ih =>
      unfold poll at never
      split at never
      · simp at never
      · split at never <;> rename_i cue
        · simp at never
        · exact ⟨event, List.mem_cons_self, cue⟩
        · simp at never
        · obtain ⟨other, member, hang⟩ := ih never
          exact ⟨other, List.mem_cons_of_mem _ member, hang⟩

theorem Moves.of_suffix {script rest : Script α} (moves : script.Moves) (suffix : rest <:+ script) :
    rest.Moves :=
  fun event member => moves event (suffix.subset member)

theorem actions_suffix {script rest : Script α} (suffix : rest <:+ script) :
    rest.actions <:+ script.actions :=
  suffix.filterMap _

/-- Every event has come and is an action of the kind that is wanted. -/
def Calm (now : Nat) (wanted : α → Prop) (script : Script α) : Prop :=
  ∀ event ∈ script, event.notBefore ≤ now ∧ ∃ action, event.cue = .act action ∧ wanted action

theorem Calm.of_suffix {now : Nat} {wanted : α → Prop} {script rest : Script α}
    (calm : script.Calm now wanted) (suffix : rest <:+ script) : rest.Calm now wanted :=
  fun event member => calm event (suffix.subset member)

theorem Calm.moves {now : Nat} {wanted : α → Prop} {script : Script α}
    (calm : script.Calm now wanted) : script.Moves := by
  intro event member
  obtain ⟨-, action, cue, -⟩ := calm event member
  simp [cue]

theorem Calm.wanted {now : Nat} {wanted : α → Prop} {script : Script α}
    (calm : script.Calm now wanted) {action : α} (member : action ∈ script.actions) :
    wanted action := by
  obtain ⟨event, present, same⟩ := List.mem_filterMap.1 member
  obtain ⟨-, other, cue, good⟩ := calm event present
  simp only [cue, Option.some.injEq] at same
  exact same ▸ good

theorem Calm.poll {now : Nat} {wanted : α → Prop} {script : Script α}
    (calm : script.Calm now wanted) :
    (poll now script).cancels = false ∧ ∃ value, (poll now script).answer = .ready value ∧
      ∀ action, value = some action → wanted action := by
  cases script with
  | nil => exact ⟨rfl, none, rfl, by simp⟩
  | cons event rest =>
      obtain ⟨due, action, cue, good⟩ := calm event List.mem_cons_self
      simp only [Script.poll, Nat.not_lt.2 due, if_false, cue]
      refine ⟨trivial, some action, rfl, ?_⟩
      rintro other ⟨⟩
      exact good

end Script

namespace Watch

theorem sooner_eq_none {first second : Option Nat} :
    sooner first second = none ↔ first = none ∧ second = none := by
  cases first <;> cases second <;> simp [sooner]

theorem resume_eq_none {watch : Watch} {time : Timeline} {wake : Wake}
    (stuck : watch.resume time wake = none) : wake = .never ∧ watch.dueAt = none := by
  unfold resume at stuck
  split at stuck
  · cases stuck
  · split at stuck
    · cases stuck
    · rename_i parked
      obtain ⟨unwoken, others⟩ := sooner_eq_none.1 (Option.map_eq_none_iff.1 stuck)
      cases wake with
      | immediately => exact absurd (Or.inl rfl) parked
      | atTime moment => cases unwoken
      | never => exact ⟨rfl, (sooner_eq_none.1 others).1⟩

end Watch

namespace Race

variable {α : Type}

def won : Option (Verdict (Option α)) → List α
  | some (.ready (some action)) => [action]
  | some (.ready none) | some .timedOut | some .cancelled | none => []

/-- The parts of a race that decide what becomes of its script. -/
structure Settled (source : Script α) (step : Step (Script α) (Option α)) : Prop where
  actions : source.actions = won step.verdict ++ step.race.source.actions
  suffix : step.race.source <:+ source
  drained : step.verdict = some (.ready none) → source.actions = []

-- A cancelled caller never reaches its script, and a poll that leaves its caller waiting takes
-- no action out of it. So no verdict but `ready` can have cost an action.
theorem settled_poll (time : Timeline) (race : Race (Script α)) :
    Settled race.source (race.poll Script.poll time) := by
  have polled := Script.actions_poll time.now race.source
  have suffix := Script.rest_suffix time.now race.source
  cases free : race.watch.cancellable && time.cancelled with
  | true =>
      simp only [poll, free, if_true]
      exact ⟨rfl, List.suffix_refl _, by simp⟩
  | false =>
      cases answer : (Script.poll time.now race.source).answer with
      | ready value =>
          simp only [poll, free, answer, Watch.judge, Bool.false_eq_true, if_false]
          rw [answer] at polled
          cases value with
          | none => exact ⟨polled, suffix, fun _ => Script.actions_of_ready_none answer⟩
          | some action => exact ⟨polled, suffix, by simp⟩
      | pending wake =>
          simp only [poll, free, answer, Watch.judge, Bool.false_eq_true, if_false]
          rw [answer] at polled
          split
          · exact ⟨polled, suffix, by simp⟩
          · exact ⟨polled, suffix, by simp⟩

theorem settled_run (time : Timeline) (race : Race (Script α)) :
    Settled race.source (run time race) := by
  fun_induction run time race with
  | case1 time race step verdict decided => exact settled_poll time race
  | case2 time race step undecided stuck => exact settled_poll time race
  | case3 time race step undecided next resumed ih =>
      have first := settled_poll time race
      -- A poll without a verdict leaves all actions for the polls that follow.
      have nothing : won (race.poll Script.poll time).verdict = [] := by
        rw [show (race.poll Script.poll time).verdict = none from undecided]
        rfl
      have same : race.source.actions = (race.poll Script.poll time).race.source.actions := by
        simpa [nothing] using first.actions
      exact
        { actions := same.trans ih.actions
          suffix := ih.suffix.trans first.suffix
          drained := fun silent => same.trans (ih.drained silent) }

theorem hang_of_stuck {time : Timeline} {race : Race (Script α)}
    (undecided : (race.poll Script.poll time).verdict = none)
    (stuck : race.watch.resume (race.poll Script.poll time).time
      (race.poll Script.poll time).wake = none) :
    race.watch.dueAt = none ∧ ∃ event ∈ race.source, event.cue = .hang := by
  cases free : race.watch.cancellable && time.cancelled with
  -- A cancelled caller and an answer are verdicts, so only a pending poll is left.
  | true => simp [poll, free] at undecided
  | false =>
      cases answer : (Script.poll time.now race.source).answer with
      | ready value => simp [poll, free, answer, Watch.judge] at undecided
      | pending wake =>
          simp only [poll, free, answer, Bool.false_eq_true, if_false] at stuck
          obtain ⟨rfl, free⟩ := Watch.resume_eq_none stuck
          exact ⟨free, Script.hang_of_never answer⟩

/-- Only a script that hangs leaves a race undecided, and only one without a deadline. -/
theorem undecided_run {time : Timeline} {race : Race (Script α)}
    (undecided : (run time race).verdict = none) :
    race.watch.dueAt = none ∧ ∃ event ∈ race.source, event.cue = .hang := by
  fun_induction run time race with
  | case1 time race step verdict decided => simp [step, decided] at undecided
  | case2 time race step undecided stuck => exact hang_of_stuck undecided stuck
  | case3 time race step undecided next resumed ih =>
      have same : (race.poll Script.poll time).race.watch = race.watch := by
        unfold poll
        split <;> rfl
      obtain ⟨free, event, member, hang⟩ := ih ‹_›
      refine ⟨by rwa [← same], event, ?_, hang⟩
      exact (settled_poll time race).suffix.subset member

end Race

/-- Errors that come from outside the bytes: the clock, the socket and the caller. -/
def TransportError.disturbs : TransportError → Bool
  | .timeout .. | .transport .. | .cancelled _ => true
  | _ => false

/-- How a single socket call can fail to bring a result. -/
def Halt.Outside : Halt → Prop
  | .error reason => reason.disturbs = true
  | .abort _ => False
  | .stalled => True

theorem Race.outcome_run {α : Type} (time : Timeline) (race : Race (Script α)) :
    match (run time race).outcome with
    | .ok value =>
        race.source.actions = value.toList ++ (run time race).race.source.actions ∧
          (value = none → race.source.actions = [])
    | .error halt =>
        race.source.actions = (run time race).race.source.actions ∧ halt.Outside ∧
          (halt = .stalled → race.watch.dueAt = none ∧ ¬ race.source.Moves) := by
  have settled := settled_run time race
  have actions := settled.actions
  cases verdict : (run time race).verdict with
  | none =>
      obtain ⟨free, event, member, hang⟩ := undecided_run verdict
      rw [verdict] at actions
      simp only [Step.outcome, verdict]
      exact ⟨actions, trivial, fun _ => ⟨free, fun moves => moves event member hang⟩⟩
  | some decided =>
      rw [verdict] at actions
      simp only [Step.outcome, verdict]
      cases decided with
      | ready value =>
          cases value with
          | none => exact ⟨actions, fun _ => settled.drained verdict⟩
          | some action => exact ⟨actions, by simp⟩
      | timedOut => exact ⟨actions, rfl, by simp⟩
      | cancelled => exact ⟨actions, rfl, by simp⟩

theorem Race.run_decided {α : Type} {time : Timeline} {race : Race (Script α)}
    (decided : (race.poll Script.poll time).verdict ≠ none) :
    run time race = race.poll Script.poll time := by
  rw [run]
  split
  · rfl
  · rename_i undecided
    exact absurd undecided decided

theorem Race.run_at_once {α : Type} {time : Timeline} {race : Race (Script α)} {value : Option α}
    (running : time.cancelled = false)
    (ready : (Script.poll time.now race.source).answer = .ready value) :
    (run time race).outcome = .ok value ∧
      (run time race).time =
        (if (Script.poll time.now race.source).cancels then time.cancel else time) ∧
      (run time race).race.source = (Script.poll time.now race.source).rest := by
  have polled : race.poll Script.poll time =
      { verdict := some (.ready value), wake := .never
        time := if (Script.poll time.now race.source).cancels then time.cancel else time
        race := { race with
          source := (Script.poll time.now race.source).rest, polls := race.polls + 1 } } := by
    simp only [poll, running, ready, Watch.judge, Bool.and_false, Bool.false_eq_true, if_false]
  have ran : run time race = race.poll Script.poll time :=
    Race.run_decided (by simp [polled])
  rw [ran, polled]
  exact ⟨rfl, rfl, rfl⟩

theorem Race.calm_run {α : Type} {wanted : α → Prop} {time : Timeline} {race : Race (Script α)}
    (running : time.cancelled = false) (calm : race.source.Calm time.now wanted) :
    (run time race).time = time ∧ ∃ value, (run time race).outcome = .ok value ∧
      ∀ action, value = some action → wanted action := by
  obtain ⟨quiet, value, ready, good⟩ := calm.poll
  obtain ⟨outcome, kept, -⟩ := Race.run_at_once running ready
  rw [quiet] at kept
  exact ⟨kept, value, outcome, good⟩

def ReadAction.bytes : ReadAction → Bytes
  | .data bytes => bytes
  | .fail _ => []

namespace Link

/-- A socket call is the race behind it. It ends when the race does and passes a halt on; an answer
of the socket becomes a result or the fault that the socket reports. -/
structure Raced {α β : Type} (watch : Watch) (source : Script α) (link : Link)
    (outcome : Outcome β) (next : Link) : Prop where
  time : next.time = (Race.run link.time { watch, source }).time
  halted : ∀ halt, (Race.run link.time { watch, source }).outcome = .error halt →
    outcome = .error halt ∧
      ((Race.run link.time { watch, source }).time = link.time →
        (Race.run link.time { watch, source }).race.source = source → next = link)
  answered : ∀ answer, (Race.run link.time { watch, source }).outcome = .ok answer →
    (∃ value, outcome = .ok value) ∨
      ∃ fault, outcome = .error (.error (.transport watch.operation fault))

theorem raced_read (watch : Watch) (room : Nat) (link : Link) :
    Raced watch link.reads link (link.read watch room).1 (link.read watch room).2 := by
  unfold read
  dsimp only
  constructor
  · split <;> rfl
  · intro halt ended
    rw [ended]
    exact ⟨rfl, fun time source => by rw [time, source]⟩
  · intro answer ended
    rw [ended]
    rcases answer with _ | bytes | fault
    · exact .inl ⟨_, rfl⟩
    · exact .inl ⟨_, rfl⟩
    · exact .inr ⟨fault, rfl⟩

theorem raced_write (watch : Watch) (offered : Bytes) (link : Link) :
    Raced watch link.writes link (link.write watch offered).1 (link.write watch offered).2 := by
  unfold write
  dsimp only
  constructor
  · split <;> rfl
  · intro halt ended
    rw [ended]
    exact ⟨rfl, fun time source => by rw [time, source]⟩
  · intro answer ended
    rw [ended]
    rcases answer with _ | count | surplus | fault
    · exact .inl ⟨_, rfl⟩
    · exact .inl ⟨_, rfl⟩
    · exact .inl ⟨_, rfl⟩
    · exact .inr ⟨fault, rfl⟩

theorem raced_flush (watch : Watch) (link : Link) :
    Raced watch link.flushes link (link.flush watch).1 (link.flush watch).2 := by
  unfold flush
  dsimp only
  constructor
  · split <;> rfl
  · intro halt ended
    rw [ended]
    exact ⟨rfl, fun time source => by rw [time, source]⟩
  · intro answer ended
    rw [ended]
    rcases answer with _ | _ | fault
    · exact .inl ⟨_, rfl⟩
    · exact .inl ⟨_, rfl⟩
    · exact .inr ⟨fault, rfl⟩

theorem raced_shutdown (watch : Watch) (link : Link) :
    Raced watch link.shutdowns link (link.shutdown watch).1 (link.shutdown watch).2 := by
  unfold shutdown
  dsimp only
  constructor
  · split <;> rfl
  · intro halt ended
    rw [ended]
    exact ⟨rfl, fun time source => by rw [time, source]⟩
  · intro answer ended
    rw [ended]
    rcases answer with _ | _ | fault
    · exact .inl ⟨_, rfl⟩
    · exact .inl ⟨_, rfl⟩
    · exact .inr ⟨fault, rfl⟩

/-- What keeps a call from its result has come from outside. One that never ends has no deadline
and a socket that hangs. -/
theorem Raced.halts {α β : Type} {watch : Watch} {source : Script α} {link next : Link}
    {outcome : Outcome β} (raced : Raced watch source link outcome next) {halt : Halt}
    (failed : outcome = .error halt) :
    halt.Outside ∧ (halt = .stalled → watch.dueAt = none ∧ ¬ source.Moves) := by
  have run := Race.outcome_run link.time { watch, source }
  cases ended : (Race.run link.time { watch, source }).outcome with
  | error other =>
      rw [ended] at run
      obtain rfl : other = halt := by
        obtain ⟨same, -⟩ := raced.halted other ended
        rw [failed] at same
        cases same
        rfl
      exact run.2
  | ok answer =>
      rcases raced.answered answer ended with ⟨value, result⟩ | ⟨fault, reported⟩
      · rw [result] at failed
        cases failed
      · rw [reported] at failed
        cases failed
        exact ⟨rfl, by simp⟩

def inbound (link : Link) : Bytes := link.reads.actions.flatMap ReadAction.bytes

/-- The bytes before the first end of the stream. -/
-- An empty read is how the end shows, whatever the script has behind it.
def stream : List ReadAction → Bytes
  | [] => []
  | .data [] :: _ => []
  | .data (byte :: more) :: rest => byte :: more ++ stream rest
  | .fail _ :: rest => stream rest

def input (link : Link) : Bytes := stream link.reads.actions

theorem stream_data {bytes : Bytes} (present : bytes ≠ []) (rest : List ReadAction) :
    stream (.data bytes :: rest) = bytes ++ stream rest := by
  cases bytes with
  | nil => exact absurd rfl present
  | cons byte more => rfl

theorem read_spec (watch : Watch) (room : Nat) (link : Link) :
    match link.read watch room with
    | (.ok received, next) =>
        received.length ≤ room ∧ link.inbound = received ++ next.inbound ∧
          (received ≠ [] → link.input = received ++ next.input) ∧
          (received = [] → 0 < room → link.input = [])
    | (.error halt, next) =>
        link.inbound = next.inbound ∧ link.input = next.input ∧ halt.Outside ∧
          (halt = .stalled → ¬ link.reads.Moves) := by
  have raced := Race.outcome_run link.time { watch, source := link.reads }
  unfold read
  dsimp only
  cases ended : (Race.run link.time { watch, source := link.reads }).outcome with
  | error halt =>
      rw [ended] at raced
      obtain ⟨kept, outside, stalled⟩ := raced
      simp only [inbound, input]
      rw [kept]
      exact ⟨rfl, rfl, outside, fun never => (stalled never).2⟩
  | ok value =>
      rw [ended] at raced
      obtain ⟨won, drained⟩ := raced
      cases value with
      | none =>
          -- Past its script the socket reports the end of the stream, again and again.
          have empty : link.reads.actions = [] := drained rfl
          have rest : (Race.run link.time { watch, source := link.reads }).race.source.actions = [] :=
            won.symm.trans empty
          simp [inbound, input, stream, empty, rest]
      | some action =>
          replace won : link.reads.actions =
            action :: (Race.run link.time { watch, source := link.reads }).race.source.actions := won
          cases action with
          | fail fault =>
              simp only [inbound, input]
              rw [won]
              exact ⟨rfl, rfl, rfl, by simp⟩
          | data bytes =>
              simp only [inbound, input]
              rw [won]
              -- What does not fit goes back to the front of the script.
              by_cases fits : bytes.length ≤ room
              · simp only [fits, if_true, List.take_of_length_le fits]
                refine ⟨trivial, rfl, fun present => stream_data present _, ?_⟩
                intro nothing _
                rw [nothing]
                rfl
              · have left : bytes.drop room ≠ [] := by
                  rw [ne_eq, List.drop_eq_nil_iff]
                  exact fits
                have present : bytes ≠ [] := by
                  rintro rfl
                  exact left List.drop_nil
                simp only [fits, if_false, List.flatMap_cons, Script.actions_act,
                  stream_data present, stream_data left, ReadAction.bytes]
                refine ⟨List.length_take_le _ _, ?_, ?_, ?_⟩
                · rw [← List.append_assoc, List.take_append_drop]
                · intro _
                  rw [← List.append_assoc, List.take_append_drop]
                · intro nothing open_
                  rcases List.take_eq_nil_iff.1 nothing with closed | empty
                  · omega
                  · exact absurd empty present

def outlet (link : Link) : Link := { link with time := {}, reads := [] }

theorem written_of_outlet {link next : Link} (same : next.outlet = link.outlet) :
    next.written = link.written ∧ next.writes = link.writes := by
  have written := congrArg Link.written same
  have writes := congrArg Link.writes same
  exact ⟨written, writes⟩

@[simp] theorem outlet_read (watch : Watch) (room : Nat) (link : Link) :
    (link.read watch room).2.outlet = link.outlet := by
  unfold read
  dsimp only
  split <;> rfl

theorem moves_read (watch : Watch) (room : Nat) {link : Link} (moves : link.reads.Moves) :
    (link.read watch room).2.reads.Moves := by
  have suffix := (Race.settled_run link.time { watch, source := link.reads }).suffix
  have rest := moves.of_suffix suffix
  unfold read
  dsimp only
  split
  · exact rest
  · exact rest
  · exact rest
  · dsimp only
    split
    · exact rest
    -- The event that is put back for the rest of its bytes is an action.
    · intro event member
      rcases List.mem_cons.1 member with rfl | later
      · simp
      · exact rest event later

/-- No write claims to have taken exactly what it was offered without taking it. A claim of more
than that is noticed; this one could not be. -/
def Sincere (link : Link) : Prop := WriteAction.overstate 0 ∉ link.writes.actions

theorem Sincere.of_suffix {link next : Link} (sincere : link.Sincere)
    (suffix : next.writes <:+ link.writes) : next.Sincere :=
  fun claimed => sincere ((Script.actions_suffix suffix).subset claimed)

/-- Every write that does not fail takes at least one byte and claims what it takes. -/
def Willing (link : Link) : Prop :=
  ∀ action ∈ link.writes.actions,
    match action with
    | .accept count => 0 < count
    | .overstate _ => False
    | .fail _ => True

theorem Willing.of_suffix {link next : Link} (willing : link.Willing)
    (suffix : next.writes <:+ link.writes) : next.Willing :=
  fun action member => willing action ((Script.actions_suffix suffix).subset member)

theorem Willing.of_outlet {link next : Link} (willing : link.Willing)
    (outlet : next.outlet = link.outlet) : next.Willing :=
  willing.of_suffix ((written_of_outlet outlet).2 ▸ List.suffix_refl _)

theorem Willing.sincere {link : Link} (willing : link.Willing) : link.Sincere :=
  fun claimed => willing _ claimed

theorem write_spec (watch : Watch) (offered : Bytes) (link : Link) :
    match link.write watch offered with
    | (.ok count, next) =>
        (next.written = link.written ++ offered.take count ∧ count ≤ offered.length ∧
            (link.Willing → offered ≠ [] → 0 < count)) ∨
          (next.written = link.written ∧
            ∃ surplus, WriteAction.overstate surplus ∈ link.writes.actions ∧
              count = offered.length + surplus)
    | (.error halt, next) =>
        next.written = link.written ∧ halt.Outside ∧ (halt = .stalled → watch.dueAt = none) := by
  have raced := Race.outcome_run link.time { watch, source := link.writes }
  unfold write
  dsimp only
  cases ended : (Race.run link.time { watch, source := link.writes }).outcome with
  | error halt =>
      rw [ended] at raced
      obtain ⟨-, outside, stalled⟩ := raced
      exact ⟨rfl, outside, fun never => (stalled never).1⟩
  | ok value =>
      rw [ended] at raced
      obtain ⟨won, -⟩ := raced
      cases value with
      | none =>
          -- Past its script the socket takes all that it is offered.
          refine Or.inl ⟨by simp, by simp, ?_⟩
          intro _ present
          simpa using List.length_pos_iff.2 present
      | some action =>
          have member : action ∈ link.writes.actions := won ▸ List.mem_cons_self
          cases action with
          | fail fault => exact ⟨rfl, rfl, by simp⟩
          | overstate surplus => exact Or.inr ⟨rfl, surplus, member, rfl⟩
          | accept count =>
              refine Or.inl ⟨by simp, List.length_take_le' count offered, ?_⟩
              intro willing present
              have some_room := List.length_pos_iff.2 present
              have positive : 0 < count := willing _ member
              simp only [List.length_take]
              omega

@[simp] theorem reads_write (watch : Watch) (offered : Bytes) (link : Link) :
    (link.write watch offered).2.reads = link.reads := by
  unfold write
  dsimp only
  split <;> rfl

theorem writes_write (watch : Watch) (offered : Bytes) (link : Link) :
    (link.write watch offered).2.writes <:+ link.writes := by
  have suffix := (Race.settled_run link.time { watch, source := link.writes }).suffix
  unfold write
  dsimp only
  split <;> exact suffix

theorem flush_spec (watch : Watch) (link : Link) :
    (link.flush watch).2.written = link.written ∧ (link.flush watch).2.reads = link.reads ∧
      (link.flush watch).2.writes = link.writes ∧
      ∀ halt, (link.flush watch).1 = .error halt →
        halt.Outside ∧ (halt = .stalled → watch.dueAt = none) := by
  have same : (link.flush watch).2.written = link.written ∧
      (link.flush watch).2.reads = link.reads ∧ (link.flush watch).2.writes = link.writes := by
    unfold flush
    dsimp only
    split <;> exact ⟨rfl, rfl, rfl⟩
  refine ⟨same.1, same.2.1, same.2.2, ?_⟩
  intro halt failed
  obtain ⟨outside, stalled⟩ := (raced_flush watch link).halts failed
  exact ⟨outside, fun never => (stalled never).1⟩

theorem shutdown_spec (watch : Watch) (link : Link) :
    (link.shutdown watch).2.written = link.written ∧
      (link.shutdown watch).2.writes = link.writes ∧
      ((link.shutdown watch).1 = .error .stalled → watch.dueAt = none) := by
  have same : (link.shutdown watch).2.written = link.written ∧
      (link.shutdown watch).2.writes = link.writes := by
    unfold shutdown
    dsimp only
    split <;> exact ⟨rfl, rfl⟩
  refine ⟨same.1, same.2, ?_⟩
  intro stalled
  exact (((raced_shutdown watch link).halts stalled).2 rfl).1

/-- Nothing on the link waits, fails or refuses to take a byte. -/
structure Calm (link : Link) : Prop where
  running : link.time.cancelled = false
  reads : link.reads.Calm link.time.now fun action => ∃ bytes, action = .data bytes
  writes : link.writes.Calm link.time.now fun action => ∃ count, 0 < count ∧ action = .accept count
  flushes : link.flushes.Calm link.time.now (· = .succeed)

theorem Calm.willing {link : Link} (calm : link.Calm) : link.Willing := by
  intro action member
  obtain ⟨count, positive, rfl⟩ := calm.writes.wanted member
  exact positive

theorem Calm.read {link : Link} (calm : link.Calm) (watch : Watch) (room : Nat) :
    ∃ received next, link.read watch room = (.ok received, next) ∧ next.Calm := by
  have suffix := (Race.settled_run link.time { watch, source := link.reads }).suffix
  obtain ⟨time, value, outcome, good⟩ :=
    @Race.calm_run _ _ link.time { watch, source := link.reads } calm.running calm.reads
  have rest := calm.reads.of_suffix suffix
  simp only [Link.read, outcome, time]
  cases value with
  | none => exact ⟨_, _, rfl, calm.running, rest, calm.writes, calm.flushes⟩
  | some action =>
      obtain ⟨bytes, rfl⟩ := good action rfl
      refine ⟨_, _, rfl, calm.running, ?_, calm.writes, calm.flushes⟩
      dsimp only
      split
      · exact rest
      · intro event member
        rcases List.mem_cons.1 member with rfl | later
        · exact ⟨Nat.zero_le _, _, rfl, _, rfl⟩
        · exact rest event later

theorem Calm.write {link : Link} (calm : link.Calm) (watch : Watch) (offered : Bytes) :
    ∃ count next, link.write watch offered = (.ok count, next) ∧ next.Calm := by
  have suffix := (Race.settled_run link.time { watch, source := link.writes }).suffix
  obtain ⟨time, value, outcome, good⟩ :=
    @Race.calm_run _ _ link.time { watch, source := link.writes } calm.running calm.writes
  have rest := calm.writes.of_suffix suffix
  simp only [Link.write, outcome, time]
  cases value with
  | none => exact ⟨_, _, rfl, calm.running, calm.reads, rest, calm.flushes⟩
  | some action =>
      obtain ⟨count, -, rfl⟩ := good action rfl
      exact ⟨_, _, rfl, calm.running, calm.reads, rest, calm.flushes⟩

theorem Calm.flush {link : Link} (calm : link.Calm) (watch : Watch) :
    ∃ next, link.flush watch = (.ok (), next) ∧ next.Calm := by
  have suffix := (Race.settled_run link.time { watch, source := link.flushes }).suffix
  obtain ⟨time, value, outcome, good⟩ :=
    @Race.calm_run _ _ link.time { watch, source := link.flushes } calm.running calm.flushes
  have rest := calm.flushes.of_suffix suffix
  simp only [Link.flush, outcome, time]
  cases value with
  | none => exact ⟨_, rfl, calm.running, calm.reads, calm.writes, rest⟩
  | some action =>
      obtain rfl := good action rfl
      exact ⟨_, rfl, calm.running, calm.reads, calm.writes, rest⟩

end Link

end FramedTransport
