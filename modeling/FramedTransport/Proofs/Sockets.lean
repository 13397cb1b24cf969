import FramedTransport.Proofs.Budgets
import FramedTransport.Proofs.Racing

/-!
The socket calls that an operation makes.
A transfer is told here once more as the list of its calls, each with the link that it
finds, so that one can speak of the moment at which a poll begins and of what a single
call has brought. Every call finds the link as the call before it has left it. A call that
finds its caller cancelled polls nothing and leaves the link alone.
-/

namespace FramedTransport

namespace Race

variable {α : Type}

def asks (time : Timeline) (race : Race (Script α)) : List Timeline :=
  if race.polls < (race.poll Script.poll time).race.polls then [time] else []

/-- The moments at which a race begins to poll its script. -/
def asked (time : Timeline) (race : Race (Script α)) : List Timeline :=
  let step := race.poll Script.poll time
  match _undecided : step.verdict with
  | some _ => asks time race
  | none =>
      match _resumed : race.watch.resume step.time step.wake with
      | none => asks time race
      | some next => asks time race ++ asked next step.race
termination_by (race.source.length, waits time race)
decreasing_by exact waits_decrease _undecided _resumed

theorem polls_poll (time : Timeline) (race : Race (Script α)) :
    (race.poll Script.poll time).race.polls = race.polls + (asks time race).length := by
  rw [asks, race_poll]
  by_cases stopped : race.watch.cancellable && time.cancelled
  · simp [stopped]
  · simp [stopped]

theorem polls_run (time : Timeline) (race : Race (Script α)) :
    (run time race).race.polls = race.polls + (asked time race).length := by
  fun_induction asked time race with
  | case1 time race step verdict decided =>
      rw [run_decided (by simp [step, decided] : step.verdict ≠ none)]
      exact polls_poll time race
  | case2 time race step undecided stuck =>
      rw [run_stuck stuck]
      exact polls_poll time race
  | case3 time race step undecided next resumed ih =>
      rw [run_resumed undecided resumed, ih, polls_poll, List.length_append, Nat.add_assoc]

theorem asked_running {time : Timeline} {race : Race (Script α)}
    (listens : race.watch.cancellable = true) :
    ∀ moment ∈ asked time race, moment.cancelled = false := by
  have first (time : Timeline) (race : Race (Script α)) (listens : race.watch.cancellable = true) :
      ∀ moment ∈ asks time race, moment.cancelled = false := by
    intro moment member
    rw [asks, race_poll] at member
    cases stopped : time.cancelled with
    | true => simp [listens, stopped] at member
    | false =>
        obtain rfl : moment = time := by simpa [listens, stopped] using member
        exact stopped
  fun_induction asked time race with
  | case1 time race step verdict decided => exact first time race listens
  | case2 time race step undecided stuck => exact first time race listens
  | case3 time race step undecided next resumed ih =>
      intro moment member
      rcases List.mem_append.1 member with now | later
      · exact first time race listens moment now
      · exact ih (by rwa [watch_poll]) moment later

theorem run_cancelled {time : Timeline} {race : Race (Script α)}
    (listens : race.watch.cancellable = true) (cancelled : time.cancelled = true) :
    run time race = { verdict := some .cancelled, wake := .never, time, race } ∧
      asked time race = [] := by
  have stopped : race.poll Script.poll time =
      { verdict := some .cancelled, wake := .never, time, race } := by
    simp [poll, listens, cancelled]
  have ran : run time race = { verdict := some .cancelled, wake := .never, time, race } := by
    rw [run_decided (by simp [stopped]), stopped]
  constructor
  · exact ran
  · have counted := polls_run time race
    rw [ran] at counted
    apply List.length_eq_zero_iff.1
    dsimp only at counted
    omega

end Race

inductive SocketRequest where
  | read (room : Nat)
  | write (offered : Bytes)
  | flush
  | shutdown
deriving DecidableEq, Repr

structure SocketCall where
  request : SocketRequest
  watch : Watch
  link : Link
deriving DecidableEq, Repr

namespace SocketCall

def next (call : SocketCall) : Link :=
  match call.request with
  | .read room => (call.link.read call.watch room).2
  | .write offered => (call.link.write call.watch offered).2
  | .flush => (call.link.flush call.watch).2
  | .shutdown => (call.link.shutdown call.watch).2

def polls (call : SocketCall) : List Timeline :=
  match call.request with
  | .read _ => Race.asked call.link.time { watch := call.watch, source := call.link.reads }
  | .write _ => Race.asked call.link.time { watch := call.watch, source := call.link.writes }
  | .flush => Race.asked call.link.time { watch := call.watch, source := call.link.flushes }
  | .shutdown => Race.asked call.link.time { watch := call.watch, source := call.link.shutdowns }

def received (call : SocketCall) : Bytes :=
  match call.request with
  | .read room =>
      match (call.link.read call.watch room).1 with
      | .ok received => received
      | .error _ => []
  | .write _ | .flush | .shutdown => []

def accepted (call : SocketCall) : Bytes :=
  match call.request with
  | .write offered =>
      match (call.link.write call.watch offered).1 with
      | .ok count => offered.take count
      | .error _ => []
  | .read _ | .flush | .shutdown => []

/-- A read that has room and brings nothing, which is how the end of the stream shows. -/
def MeetsEnd (call : SocketCall) : Prop :=
  ∃ room, call.request = .read room ∧ 0 < room ∧ (call.link.read call.watch room).1 = .ok []

/-- A write that is offered bytes and reports that it has taken none. -/
def TakesNothing (call : SocketCall) : Prop :=
  ∃ offered, call.request = .write offered ∧ offered ≠ [] ∧
    (call.link.write call.watch offered).1 = .ok 0

/-- A write that reports to have taken more than it was offered. -/
def Overstates (call : SocketCall) : Prop :=
  ∃ offered count, call.request = .write offered ∧
    (call.link.write call.watch offered).1 = .ok count ∧ offered.length < count

end SocketCall

namespace Link

variable {watch : Watch} {link : Link}

theorem Raced.cancelled {α β : Type} {source : Script α} {next : Link} {outcome : Outcome β}
    (raced : Raced watch source link outcome next) (listens : watch.cancellable = true)
    (cancelled : link.time.cancelled = true) :
    (outcome, next) = (.error (.error (.cancelled watch.operation)), link) := by
  obtain ⟨ran, -⟩ := @Race.run_cancelled _ link.time { watch, source } listens cancelled
  have told : (Race.run link.time { watch, source }).outcome =
      .error (.error (.cancelled watch.operation)) := by
    rw [ran]
    rfl
  obtain ⟨outcome, still⟩ := raced.halted _ told
  rw [outcome, still (by rw [ran]) (by rw [ran])]

theorem reads_shutdown (watch : Watch) (link : Link) :
    (link.shutdown watch).2.reads = link.reads := by
  unfold shutdown
  dsimp only
  split <;> rfl

end Link

namespace SocketCall

theorem running {call : SocketCall} (listens : call.watch.cancellable = true) :
    ∀ moment ∈ call.polls, moment.cancelled = false := by
  unfold polls
  split
  · exact Race.asked_running listens
  · exact Race.asked_running listens
  · exact Race.asked_running listens
  · exact Race.asked_running listens

theorem still {call : SocketCall} (listens : call.watch.cancellable = true)
    (cancelled : call.link.time.cancelled = true) : call.polls = [] ∧ call.next = call.link := by
  obtain ⟨request, watch, link⟩ := call
  constructor
  · unfold polls
    split
    · exact (Race.run_cancelled listens cancelled).2
    · exact (Race.run_cancelled listens cancelled).2
    · exact (Race.run_cancelled listens cancelled).2
    · exact (Race.run_cancelled listens cancelled).2
  · cases request with
    | read room =>
        exact congrArg Prod.snd ((Link.raced_read watch room link).cancelled listens cancelled)
    | write offered =>
        exact congrArg Prod.snd ((Link.raced_write watch offered link).cancelled listens cancelled)
    | flush => exact congrArg Prod.snd ((Link.raced_flush watch link).cancelled listens cancelled)
    | shutdown =>
        exact congrArg Prod.snd ((Link.raced_shutdown watch link).cancelled listens cancelled)

theorem inbound (call : SocketCall) : call.link.inbound = call.received ++ call.next.inbound := by
  obtain ⟨request, watch, link⟩ := call
  cases request with
  | read room =>
      have read := Link.read_spec watch room link
      cases ended : link.read watch room with
      | mk outcome after =>
          rw [ended] at read
          cases outcome with
          | ok brought =>
              simp only [received, next, ended]
              exact read.2.1
          | error halt =>
              simp only [received, next, ended]
              exact read.1
  | write offered =>
      exact congrArg (fun reads => reads.actions.flatMap ReadAction.bytes)
        (Link.reads_write watch offered link).symm
  | flush =>
      obtain ⟨-, reads, -⟩ := Link.flush_spec watch link
      exact congrArg (fun reads => reads.actions.flatMap ReadAction.bytes) reads.symm
  | shutdown =>
      exact congrArg (fun reads => reads.actions.flatMap ReadAction.bytes)
        (Link.reads_shutdown watch link).symm

theorem writes_next (call : SocketCall) : call.next.writes <:+ call.link.writes := by
  obtain ⟨request, watch, link⟩ := call
  cases request with
  | read room =>
      obtain ⟨-, same⟩ := Link.written_of_outlet (Link.outlet_read watch room link)
      exact same ▸ List.suffix_refl _
  | write offered => exact Link.writes_write watch offered link
  | flush =>
      obtain ⟨-, -, same, -⟩ := Link.flush_spec watch link
      exact same ▸ List.suffix_refl _
  | shutdown =>
      obtain ⟨-, same, -⟩ := Link.shutdown_spec watch link
      exact same ▸ List.suffix_refl _

theorem received_of_meetsEnd {call : SocketCall} (ends : call.MeetsEnd) : call.received = [] := by
  obtain ⟨room, asked, -, nothing⟩ := ends
  simp [received, asked, nothing]

def receivedBy (calls : List SocketCall) : Bytes := calls.flatMap received

def acceptedBy (calls : List SocketCall) : Bytes := calls.flatMap accepted

@[simp] theorem receivedBy_nil : receivedBy [] = [] := rfl

@[simp] theorem receivedBy_cons (call : SocketCall) (calls : List SocketCall) :
    receivedBy (call :: calls) = call.received ++ receivedBy calls := rfl

@[simp] theorem receivedBy_append (calls more : List SocketCall) :
    receivedBy (calls ++ more) = receivedBy calls ++ receivedBy more := List.flatMap_append

@[simp] theorem acceptedBy_nil : acceptedBy [] = [] := rfl

@[simp] theorem acceptedBy_cons (call : SocketCall) (calls : List SocketCall) :
    acceptedBy (call :: calls) = call.accepted ++ acceptedBy calls := rfl

@[simp] theorem acceptedBy_append (calls more : List SocketCall) :
    acceptedBy (calls ++ more) = acceptedBy calls ++ acceptedBy more := List.flatMap_append

/-- Calls that follow each other on one link, from `link` to what they make of it. -/
inductive Linked : Link → List SocketCall → Link → Prop
  | none (link : Link) : Linked link [] link
  | call (call : SocketCall) {calls : List SocketCall} {last : Link}
      (later : Linked call.next calls last) : Linked call.link (call :: calls) last

theorem Linked.one (call : SocketCall) : Linked call.link [call] call.next := .call call (.none _)

theorem Linked.append {link middle last : Link} {calls more : List SocketCall}
    (first : Linked link calls middle) (second : Linked middle more last) :
    Linked link (calls ++ more) last := by
  induction first with
  | none link => exact second
  | call call later ih => exact .call call (ih second)

theorem Linked.writes {link last : Link} {calls : List SocketCall}
    (linked : Linked link calls last) : ∀ call ∈ calls, call.link.writes <:+ link.writes := by
  induction linked with
  | none link => simp
  | call call later ih =>
      intro other member
      rcases List.mem_cons.1 member with rfl | member
      · exact List.suffix_refl _
      · exact (ih other member).trans call.writes_next

theorem Linked.inbound {link last : Link} {calls : List SocketCall}
    (linked : Linked link calls last) : link.inbound = receivedBy calls ++ last.inbound := by
  induction linked with
  | none link => rfl
  | call call later ih =>
      rw [call.inbound, ih, receivedBy_cons, List.append_assoc]

end SocketCall

open SocketCall

namespace Incoming

def fillCalls (watch : Watch) (frame : Incoming) (link : Link) : List SocketCall :=
  if frame.wantsBytes then
    { request := .read frame.windowLength, watch, link } ::
      match link.read watch frame.windowLength with
      | (.error _, _) => []
      | (.ok received, next) =>
          match _accepted : (frame.write received).advance received.length with
          | (_, .error _) => []
          | (advanced, .ok ()) => fillCalls watch advanced next
  else []
termination_by frame.missing
decreasing_by
  have closer := missing_advance (frame.write received) received.length (by rw [_accepted])
  rw [_accepted, missing_write] at closer
  exact closer

theorem fillCalls_eq (watch : Watch) (frame : Incoming) (link : Link) :
    frame.fillCalls watch link =
      if frame.wantsBytes then
        { request := .read frame.windowLength, watch, link } ::
          match link.read watch frame.windowLength with
          | (.error _, _) => []
          | (.ok received, next) =>
              match (frame.write received).advance received.length with
              | (_, .error _) => []
              | (advanced, .ok ()) => advanced.fillCalls watch next
      else [] := by
  rw [fillCalls]
  split
  · split
    · rfl
    · split <;> rename_i accepted <;> rw [accepted]
  · rfl

theorem linked_fill (watch : Watch) (frame : Incoming) (link : Link) :
    Linked link (frame.fillCalls watch link) (frame.fill watch link).2 := by
  fun_induction fill watch frame link with
  | case1 frame link wants halt next stopped =>
      have one := Linked.one { request := .read frame.windowLength, watch, link }
      simp only [SocketCall.next, stopped] at one
      rw [fillCalls_eq, if_pos wants]
      simpa only [stopped] using one
  | case2 frame link wants received next arrived after reason refused =>
      have one := Linked.one { request := .read frame.windowLength, watch, link }
      simp only [SocketCall.next, arrived] at one
      rw [fillCalls_eq, if_pos wants]
      simpa only [arrived, refused] using one
  | case3 frame link wants received next arrived after accepted ih =>
      rw [fillCalls_eq, if_pos wants]
      simp only [arrived, accepted]
      apply Linked.call { request := .read frame.windowLength, watch, link }
      simpa only [SocketCall.next, arrived] using ih
  | case4 frame link idle header ready =>
      rw [fillCalls_eq, if_neg idle]
      exact .none link
  | case5 frame link idle undispatched =>
      rw [fillCalls_eq, if_neg idle]
      exact .none link

theorem reads_fillCalls (watch : Watch) (frame : Incoming) (link : Link) :
    ∀ call ∈ frame.fillCalls watch link, call.watch = watch ∧ ∃ room, call.request = .read room := by
  fun_induction fill watch frame link with
  | case1 frame link wants halt next stopped =>
      rw [fillCalls_eq, if_pos wants]
      simp [stopped]
  | case2 frame link wants received next arrived after reason refused =>
      rw [fillCalls_eq, if_pos wants]
      simp [arrived, refused]
  | case3 frame link wants received next arrived after accepted ih =>
      rw [fillCalls_eq, if_pos wants]
      simp only [arrived, accepted]
      intro call member
      rcases List.mem_cons.1 member with rfl | later
      · exact ⟨rfl, _, rfl⟩
      · exact ih call later
  | case4 frame link idle header ready =>
      rw [fillCalls_eq, if_neg idle]
      simp
  | case5 frame link idle undispatched =>
      rw [fillCalls_eq, if_neg idle]
      simp

theorem fill_cancelled {watch : Watch} {frame : Incoming} {link : Link}
    (wants : frame.wantsBytes = true) (listens : watch.cancellable = true)
    (cancelled : link.time.cancelled = true) :
    frame.fill watch link = ((.error (.error (.cancelled watch.operation)), frame.expose), link) := by
  have read := (Link.raced_read watch frame.windowLength link).cancelled listens cancelled
  rw [fill, if_pos wants]
  simp only [show link.read watch frame.windowLength = _ from read]

end Incoming

namespace Outgoing

def pushCalls (watch : Watch) (frame : Outgoing) (link : Link) : List SocketCall :=
  if frame.isComplete then [{ request := .flush, watch, link }]
  else
    { request := .write frame.pending, watch, link } ::
      match link.write watch frame.pending with
      | (.error _, _) => []
      | (.ok count, next) =>
          match _accepted : frame.advance count with
          | .error _ => []
          | .ok advanced => pushCalls watch advanced next
termination_by frame.progress.remaining
decreasing_by exact remaining_advance _accepted

theorem pushCalls_eq (watch : Watch) (frame : Outgoing) (link : Link) :
    frame.pushCalls watch link =
      if frame.isComplete then [{ request := .flush, watch, link }]
      else
        { request := .write frame.pending, watch, link } ::
          match link.write watch frame.pending with
          | (.error _, _) => []
          | (.ok count, next) =>
              match frame.advance count with
              | .error _ => []
              | .ok advanced => advanced.pushCalls watch next := by
  rw [pushCalls]
  split
  · rfl
  · split
    · rfl
    · split <;> rename_i accepted <;> rw [accepted]

theorem linked_push (watch : Watch) (frame : Outgoing) (link : Link) :
    Linked link (frame.pushCalls watch link) (frame.push watch link).2 := by
  fun_induction push watch frame link with
  | case1 frame link complete flushed next ended =>
      have one := Linked.one { request := .flush, watch, link }
      simp only [SocketCall.next, ended] at one
      rwa [pushCalls_eq, if_pos complete]
  | case2 frame link incomplete halt next stopped =>
      have one := Linked.one { request := .write frame.pending, watch, link }
      simp only [SocketCall.next, stopped] at one
      rw [pushCalls_eq, if_neg incomplete]
      simpa only [stopped] using one
  | case3 frame link incomplete count next taken reason refused =>
      have one := Linked.one { request := .write frame.pending, watch, link }
      simp only [SocketCall.next, taken] at one
      rw [pushCalls_eq, if_neg incomplete]
      simpa only [taken, refused] using one
  | case4 frame link incomplete count next taken after accepted ih =>
      rw [pushCalls_eq, if_neg incomplete]
      simp only [taken, accepted]
      apply Linked.call { request := .write frame.pending, watch, link }
      simpa only [SocketCall.next, taken] using ih

theorem writes_pushCalls (watch : Watch) (frame : Outgoing) (link : Link) :
    ∀ call ∈ frame.pushCalls watch link,
      call.watch = watch ∧ ((∃ offered, call.request = .write offered) ∨ call.request = .flush) := by
  fun_induction push watch frame link with
  | case1 frame link complete flushed next ended =>
      rw [pushCalls_eq, if_pos complete]
      simp
  | case2 frame link incomplete halt next stopped =>
      rw [pushCalls_eq, if_neg incomplete]
      simp [stopped]
  | case3 frame link incomplete count next taken reason refused =>
      rw [pushCalls_eq, if_neg incomplete]
      simp [taken, refused]
  | case4 frame link incomplete count next taken after accepted ih =>
      rw [pushCalls_eq, if_neg incomplete]
      simp only [taken, accepted]
      intro call member
      rcases List.mem_cons.1 member with rfl | later
      · exact ⟨rfl, .inl ⟨_, rfl⟩⟩
      · exact ih call later

theorem push_cancelled {watch : Watch} {frame : Outgoing} {link : Link}
    (listens : watch.cancellable = true) (cancelled : link.time.cancelled = true) :
    frame.push watch link = ((.error (.error (.cancelled watch.operation)), frame), link) := by
  have flush := (Link.raced_flush watch link).cancelled listens cancelled
  have write := (Link.raced_write watch frame.pending link).cancelled listens cancelled
  rw [push]
  split
  · rw [show link.flush watch = _ from flush]
  · simp only [show link.write watch frame.pending = _ from write]

end Outgoing

end FramedTransport
