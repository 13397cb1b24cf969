import FramedTransport.Proofs.Operations
import FramedTransport.Proofs.Racing
import FramedTransport.Stream.Desk
import FramedTransport.Stream.Session

/-!
Ways to read a stream.
A read gets as much of what has arrived as it has room for, so a small read followed
by another one gets what one large read gets, at the same moment. How much counts as
arrived is left to the reader: it may hand out the pieces of a script one by one, or
everything that has come by now. The operations that read are told here for every
reader, and with the reader of scripts they are the ones that run.
-/

namespace FramedTransport

namespace Race

variable {α : Type}

theorem cancelled_run (time : Timeline) (race : Race (Script α))
    (cancelled : time.cancelled = true) : (run time race).time.cancelled = true := by
  have polled (time : Timeline) (race : Race (Script α)) (cancelled : time.cancelled = true) :
      (race.poll Script.poll time).time.cancelled = true := by
    unfold poll
    split
    · exact cancelled
    · dsimp only
      split
      · rfl
      · exact cancelled
  fun_induction run time race with
  | case1 time race step verdict decided => exact polled time race cancelled
  | case2 time race step undecided stuck => exact polled time race cancelled
  | case3 time race step undecided next resumed ih =>
      exact ih (cancelled_resume resumed (polled time race cancelled))

theorem verdict_of_outcome {step : Step (Script α) (Option α)} {value : Option α}
    (outcome : step.outcome = .ok value) : step.verdict = some (.ready value) := by
  unfold Step.outcome at outcome
  split at outcome
  · cases outcome
    assumption
  · cases outcome
  · cases outcome
  · cases outcome

end Race

/-- A way to answer reads. What is cancelled stays so; and a read with less room gets the first part
of what one with more room gets, at the same moment, and leaves it the rest. -/
structure Reader where
  read : Watch → Nat → Link → Outcome Bytes × Link
  fits : ∀ {watch room link received next}, read watch room link = (.ok received, next) →
    received.length ≤ room
  unread : ∀ watch room link,
    (read watch room link).2.unread + Link.arrived (read watch room link).1 ≤ link.unread
  cancelled : ∀ {watch room link}, link.time.cancelled = true →
    (read watch room link).2.time.cancelled = true
  stopped : ∀ {watch room few link halt next}, read watch room link = (.error halt, next) →
    0 < few → few ≤ room → read watch few link = (.error halt, next)
  whole : ∀ {watch room few link received next}, read watch room link = (.ok received, next) →
    0 < few → few ≤ room → received.length ≤ few → read watch few link = (.ok received, next)
  parted : ∀ {watch room few link received next}, read watch room link = (.ok received, next) →
    0 < few → few < received.length →
      ∃ middle, read watch few link = (.ok (received.take few), middle) ∧
        middle.time = next.time ∧ (next.time.cancelled = false →
          read watch (room - few) middle = (.ok (received.drop few), next))

/-- How much of what stands behind a piece of data has arrived with it, and what is left. -/
structure Gathering where
  gather : Nat → Script ReadAction → Bytes × Script ReadAction
  settled : ∀ now script, gather now (gather now script).2 = ([], (gather now script).2)
  weight : ∀ now script, Script.weight Link.readSize (gather now script).2
    + (gather now script).1.length ≤ Script.weight Link.readSize script

namespace Gathering

def piecewise : Gathering where
  gather _ script := ([], script)
  settled _ _ := rfl
  weight _ _ := Nat.le_refl _

/-- All the data at the front that has come by now. -/
def arrivedBy (now : Nat) : Script ReadAction → Bytes × Script ReadAction
  | [] => ([], [])
  | event :: rest =>
      match event.cue with
      | .act (.data (byte :: bytes)) =>
          if event.notBefore ≤ now then
            (byte :: bytes ++ (arrivedBy now rest).1, (arrivedBy now rest).2)
          else ([], event :: rest)
      | _ => ([], event :: rest)

theorem arrivedBy_settled (now : Nat) (script : Script ReadAction) :
    arrivedBy now (arrivedBy now script).2 = ([], (arrivedBy now script).2) := by
  fun_induction arrivedBy now script with
  | case1 => rfl
  | case2 event rest byte bytes cue come ih => exact ih
  | case3 event rest byte bytes cue late => simp only [arrivedBy, cue, late, if_false]
  | case4 event rest other =>
      rw [arrivedBy]
      split
      · rename_i byte bytes cue
        exact absurd cue (other byte bytes)
      · rfl

theorem weight_arrivedBy (now : Nat) (script : Script ReadAction) :
    Script.weight Link.readSize (arrivedBy now script).2 + (arrivedBy now script).1.length ≤
      Script.weight Link.readSize script := by
  fun_induction arrivedBy now script with
  | case1 => exact Nat.le_refl _
  | case2 event rest byte bytes cue come ih =>
      simp only [Script.weight, cue, Link.readSize, List.length_append]
      omega
  | case3 event rest byte bytes cue late => exact Nat.le_refl _
  | case4 event rest other => exact Nat.le_refl _

def greedy : Gathering where
  gather := arrivedBy
  settled := arrivedBy_settled
  weight := weight_arrivedBy

/-- What a read with so much room leaves of the data that has arrived. -/
def leave (arrived : Bytes) (room : Nat) (behind : Script ReadAction) : Script ReadAction :=
  if arrived.length ≤ room then behind else { cue := .act (.data (arrived.drop room)) } :: behind

/-- A read that gets what has arrived, as far as it fits. -/
def read (gathering : Gathering) (watch : Watch) (room : Nat) (link : Link) :
    Outcome Bytes × Link :=
  let step := Race.run link.time { watch, source := link.reads }
  let rest := step.race.source
  let link := { link with time := step.time }
  match step.outcome with
  | .error halt => (.error halt, { link with reads := rest })
  | .ok none => (.ok [], { link with reads := rest })
  | .ok (some (.fail fault)) =>
      (.error (.error (.transport watch.operation fault)), { link with reads := rest })
  | .ok (some (.data [])) => (.ok [], { link with reads := rest })
  | .ok (some (.data (byte :: bytes))) =>
      let (more, behind) := gathering.gather step.time.now rest
      let arrived := byte :: bytes ++ more
      (.ok (arrived.take room), { link with reads := leave arrived room behind })

variable {gathering : Gathering} {watch : Watch} {room few : Nat} {link next : Link}

/-- A read that gets something out of what has arrived at this time. -/
structure Meets (gathering : Gathering) (watch : Watch) (link : Link) (arrived : Bytes)
    (time : Timeline) (behind : Script ReadAction) : Prop where
  present : arrived ≠ []
  settled : gathering.gather time.now behind = ([], behind)
  read : ∀ room, gathering.read watch room link =
    (.ok (arrived.take room), { link with time, reads := leave arrived room behind })
  weight : Script.weight Link.readSize behind + arrived.length + 1 ≤ link.unread

theorem time_read (gathering : Gathering) (watch : Watch) (room : Nat) (link : Link) :
    (gathering.read watch room link).2.time =
      (Race.run link.time { watch, source := link.reads }).time := by
  unfold read
  dsimp only
  split <;> rfl

/-- The room that a read has makes a difference only if something has arrived. -/
theorem read_cases (gathering : Gathering) (watch : Watch) (link : Link) :
    (∃ halt next, next.unread ≤ link.unread ∧
        ∀ room, gathering.read watch room link = (.error halt, next)) ∨
      (∃ next, next.unread ≤ link.unread ∧
        ∀ room, gathering.read watch room link = (.ok [], next)) ∨
      ∃ arrived time behind, Meets gathering watch link arrived time behind := by
  have raced := Race.weight_run Link.readSize link.time { watch, source := link.reads }
  generalize settled : Race.run link.time { watch, source := link.reads } = step at raced
  have shorter : Script.weight Link.readSize step.race.source ≤ link.unread := by
    change _ ≤ link.unread at raced
    omega
  cases outcome : step.outcome with
  | error halt =>
      refine .inl ⟨halt, { link with time := step.time, reads := step.race.source }, shorter, ?_⟩
      intro room
      simp only [read, settled, outcome]
  | ok value =>
      rcases value with _ | ⟨_ | ⟨byte, bytes⟩⟩ | fault
      · refine .inr (.inl ⟨{ link with time := step.time, reads := step.race.source }, shorter, ?_⟩)
        intro room
        simp only [read, settled, outcome]
      · refine .inr (.inl ⟨{ link with time := step.time, reads := step.race.source }, shorter, ?_⟩)
        intro room
        simp only [read, settled, outcome]
      · have gathered := gathering.weight step.time.now step.race.source
        rw [Race.verdict_of_outcome outcome] at raced
        refine .inr (.inr ⟨byte :: bytes ++ (gathering.gather step.time.now step.race.source).1,
          step.time, (gathering.gather step.time.now step.race.source).2, nofun,
          gathering.settled _ _, ?_, ?_⟩)
        · intro room
          simp only [read, settled, outcome]
        · simp only [Race.verdictWeight, Link.readSize, Link.unread] at raced ⊢
          rw [List.length_append]
          omega
      · refine .inl ⟨.error (.transport watch.operation fault),
          { link with time := step.time, reads := step.race.source }, shorter, ?_⟩
        intro room
        simp only [read, settled, outcome]

theorem fits_read {received : Bytes}
    (result : gathering.read watch room link = (.ok received, next)) : received.length ≤ room := by
  rcases gathering.read_cases watch link with ⟨_, _, -, stops⟩ | ⟨_, -, ends⟩ | ⟨_, _, _, meets⟩
  · cases (stops room).symm.trans result
  · cases (ends room).symm.trans result
    exact Nat.zero_le _
  · cases (meets.read room).symm.trans result
    exact List.length_take_le _ _

theorem weight_leave (arrived : Bytes) (room : Nat) (behind : Script ReadAction) :
    Script.weight Link.readSize (leave arrived room behind) + (arrived.take room).length ≤
      Script.weight Link.readSize behind + arrived.length + 1 := by
  unfold leave
  split
  · rw [List.length_take]
    omega
  · simp only [Script.weight, Link.readSize, List.length_drop, List.length_take]
    omega

theorem unread_read (gathering : Gathering) (watch : Watch) (room : Nat) (link : Link) :
    (gathering.read watch room link).2.unread +
      Link.arrived (gathering.read watch room link).1 ≤ link.unread := by
  rcases gathering.read_cases watch link with
    ⟨_, _, shorter, stops⟩ | ⟨_, shorter, ends⟩ | ⟨arrived, _, behind, meets⟩
  · rw [stops]
    exact shorter
  · rw [ends]
    exact shorter
  · rw [meets.read]
    exact Nat.le_trans (weight_leave arrived room behind) meets.weight

theorem read_rest (watch : Watch) (room : Nat) (link : Link) {arrived : Bytes}
    {behind : Script ReadAction} (present : arrived ≠ [])
    (settled : gathering.gather link.time.now behind = ([], behind))
    (left : link.reads = { cue := .act (.data arrived) } :: behind)
    (running : link.time.cancelled = false) :
    gathering.read watch room link =
      (.ok (arrived.take room), { link with reads := leave arrived room behind }) := by
  obtain ⟨byte, bytes, rfl⟩ := List.exists_cons_of_ne_nil present
  have polled : Script.poll link.time.now link.reads =
      { answer := .ready (some (.data (byte :: bytes))), rest := behind } := by
    rw [left]
    simp only [Script.poll, Nat.not_lt_zero, if_false]
  obtain ⟨outcome, time, rest⟩ :
      _ ∧ (Race.run link.time { watch, source := link.reads }).time = _ ∧ _ :=
    Race.run_at_once running (congrArg (·.answer) polled)
  dsimp only at time rest
  rw [polled] at time rest
  dsimp only at time rest
  simp only [read, outcome, time, rest, settled, Bool.false_eq_true, if_false, List.append_nil]

theorem leave_leave {arrived : Bytes} (behind : Script ReadAction) (longer : few < arrived.length)
    (fewer : few ≤ room) :
    leave (arrived.drop few) (room - few) behind = leave arrived room behind := by
  unfold leave
  rw [List.length_drop, List.drop_drop, Nat.add_sub_cancel' fewer]
  by_cases short : arrived.length ≤ room
  · rw [if_pos short, if_pos (by omega)]
  · rw [if_neg short, if_neg (by omega)]

def reader (gathering : Gathering) : Reader where
  read := gathering.read
  fits := fits_read
  unread := gathering.unread_read
  cancelled running := by
    rw [time_read]
    exact Race.cancelled_run _ _ running
  stopped := by
    intro watch room few link halt next result positive fewer
    rcases gathering.read_cases watch link with ⟨_, _, -, stops⟩ | ⟨_, -, ends⟩ | ⟨_, _, _, meets⟩
    · cases (stops room).symm.trans result
      exact stops few
    · cases (ends room).symm.trans result
    · cases (meets.read room).symm.trans result
  whole := by
    intro watch room few link received next result positive fewer short
    rcases gathering.read_cases watch link with
      ⟨_, _, -, stops⟩ | ⟨_, -, ends⟩ | ⟨arrived, time, behind, meets⟩
    · cases (stops room).symm.trans result
    · cases (ends room).symm.trans result
      exact ends few
    · cases (meets.read room).symm.trans result
      rw [meets.read few]
      rw [List.length_take] at short
      by_cases all : arrived.length ≤ room
      · rw [leave, leave, if_pos all, if_pos (by omega), List.take_of_length_le all,
          List.take_of_length_le (by omega)]
      · rw [show few = room by omega]
  parted := by
    intro watch room few link received next result positive longer
    rcases gathering.read_cases watch link with
      ⟨_, _, -, stops⟩ | ⟨_, -, ends⟩ | ⟨arrived, time, behind, meets⟩
    · cases (stops room).symm.trans result
    · cases (ends room).symm.trans result
      exact absurd longer (Nat.not_lt_zero _)
    · cases (meets.read room).symm.trans result
      rw [List.length_take] at longer
      have part : few < arrived.length := by omega
      have fewer : few ≤ room := by omega
      refine ⟨{ link with time, reads := leave arrived few behind }, (meets.read few).trans ?_, rfl,
        ?_⟩
      · rw [List.take_take, Nat.min_eq_left fewer]
      -- A race that is not cancelled is decided at once by what has arrived, deadline or not.
      · intro running
        have present : arrived.drop few ≠ [] :=
          List.ne_nil_of_length_pos (by rw [List.length_drop]; omega)
        have rest := read_rest watch (room - few)
          { link with time, reads := leave arrived few behind } present meets.settled
          (if_neg (Nat.not_le.2 part)) running
        rw [rest, leave_leave behind part fewer, List.drop_take]

end Gathering

namespace Reader

/-- The reader of scripts, which gets one piece of data at a time. -/
def scripted : Reader := Gathering.piecewise.reader

theorem scripted_read (watch : Watch) (room : Nat) (link : Link) :
    scripted.read watch room link = link.read watch room := by
  change Gathering.piecewise.read watch room link = _
  unfold Gathering.read Link.read
  dsimp only
  split <;> rename_i outcome <;> rw [outcome]
  · simp
  · simp [Gathering.piecewise, Gathering.leave]

/-! ### The operations that read -/

def fill (reader : Reader) (watch : Watch) (frame : Incoming) (link : Link) :
    (Outcome Unit × Incoming) × Link :=
  if frame.wantsBytes then
    match reader.read watch frame.windowLength link with
    | (.error halt, link) => ((.error halt, frame.expose), link)
    | (.ok received, link) =>
        match _accepted : (frame.write received).advance received.length with
        | (next, .error reason) =>
            ((.error (.error (Incoming.endInside frame.buffered reason)), next), link)
        | (next, .ok ()) => reader.fill watch next link
  else
    match frame.phase with
    | .dispatch _ => ((.ok (), frame), link)
    | phase =>
        ((.error (.error (.protocolViolation ("frame fill stopped while " ++ phase.name))), frame),
          link)
termination_by frame.missing
decreasing_by
  have closer :=
    Incoming.missing_advance (frame.write received) received.length (by rw [_accepted])
  rw [_accepted, Incoming.missing_write] at closer
  exact closer

def fillFrame (reader : Reader) (cancel : CancelToken) (deadline : Option Duration)
    (frame : Incoming) : Exchange → (Outcome Unit × Incoming) × Exchange :=
  Exchange.withTicket { operation := .receive, deadline, cancel := some cancel }
    (fun halt => (.error halt, frame))
    (Exchange.timed (fun watch link => reader.fill watch frame link) frame)

def receiveSome (reader : Reader) (cancel : CancelToken) (remote : SocketAddress)
    (maxLength : Nat) (deadline : Option Duration) (exchange : Exchange) :
    Outcome Delivery × Exchange :=
  exchange.withTicket { operation := .receive, deadline, cancel := some cancel } .error
    (fun watch ticket exchange =>
      let (buffer, resources) := exchange.resources.rentFilled maxLength
      let exchange := { exchange with resources }
      match ticket.attach buffer with
      | .error reason => ((.error (.error reason), ticket), exchange.giveBackBuffer buffer)
      | .ok ticket =>
          match ticket.carried with
          | .error reason => ((.error (.error reason), ticket), exchange)
          | .ok _ =>
              match reader.read watch maxLength exchange.link with
              | (.error halt, link) => ((.error halt, ticket), { exchange with link })
              | (.ok received, link) =>
                  let exchange := { exchange with link }
                  let ticket := ticket.changeLease fun buffer => buffer.overwrite 0 received
                  if received.length = 0 ∧ 0 < maxLength then
                    ((.error (.error .connectionClosed), ticket), exchange)
                  else
                    let (reclaimed, ticket) :=
                      Exchange.reclaim ticket "receive lost its buffer"
                    let delivered := reclaimed.map fun buffer =>
                      { buffer, start := 0, stop := received.length
                        transferred := received.length, remote : Delivery }
                    ((delivered, ticket), exchange))

def receive (reader : Reader) (maxLength : Nat) (deadline : Option Duration) (receiver : Receiver)
    (exchange : Exchange) : Outcome Delivery × Receiver × Exchange :=
  if receiver.isOpen then
    match reader.receiveSome receiver.cancel receiver.remote maxLength deadline exchange with
    | (.ok delivery, exchange) => (.ok delivery, receiver, exchange)
    | (.error halt, exchange) => (.error halt, receiver.after halt 0, exchange)
  else
    (.error notOpen, receiver, exchange)

def receiveFrame (reader : Reader) (deadline : Option Duration) (receiver : Receiver)
    (exchange : Exchange) : Outcome Delivery × Receiver × Exchange :=
  if receiver.isOpen then
    let settings := exchange.resources.settings
    let (buffer, resources) := exchange.resources.rentBuffer settings.bufferCapacity
    let empty := Incoming.start buffer settings.maxFrameSize
    match reader.fillFrame receiver.cancel deadline empty { exchange with resources } with
    | ((.error halt, frame), exchange) =>
        (.error halt, receiver.after halt frame.buffered, exchange.giveBackBuffer frame.buffer)
    | ((.ok (), frame), exchange) =>
        match frame.release with
        | .error reason =>
            (.error (.error reason), receiver, exchange.giveBackBuffer frame.buffer)
        | .ok (header, buffer) =>
            let delivery : Delivery :=
              { buffer, start := FrameHeader.size, stop := header.frameLength
                transferred := header.frameLength, remote := receiver.remote }
            (.ok delivery, receiver, exchange)
  else
    (.error notOpen, receiver, exchange)

def calls (reader : Reader) : Calls Receiver.Call Receiver
  | .receive maxLength deadline, receiver, exchange =>
      let (outcome, after) := reader.receive maxLength deadline receiver exchange
      (outcome.map some, after)
  | .receiveFrame deadline, receiver, exchange =>
      let (outcome, after) := reader.receiveFrame deadline receiver exchange
      (outcome.map some, after)

variable {reader : Reader} {watch : Watch} {frame next : Incoming} {link after : Link}

theorem fill_stopped {halt : Halt} (wants : frame.wantsBytes = true)
    (stopped : reader.read watch frame.windowLength link = (.error halt, after)) :
    reader.fill watch frame link = ((.error halt, frame.expose), after) := by
  rw [fill, if_pos wants, stopped]

theorem fill_refused {received : Bytes} {reason : TransportError} (wants : frame.wantsBytes = true)
    (arrived : reader.read watch frame.windowLength link = (.ok received, after))
    (refused : (frame.write received).advance received.length = (next, .error reason)) :
    reader.fill watch frame link =
      ((.error (.error (Incoming.endInside frame.buffered reason)), next), after) := by
  rw [fill, if_pos wants, arrived]
  dsimp only
  split <;> rename_i advanced <;> cases advanced.symm.trans refused
  rfl

theorem fill_accepted {received : Bytes} (wants : frame.wantsBytes = true)
    (arrived : reader.read watch frame.windowLength link = (.ok received, after))
    (accepted : (frame.write received).advance received.length = (next, .ok ())) :
    reader.fill watch frame link = reader.fill watch next after := by
  rw [fill, if_pos wants, arrived]
  dsimp only
  split <;> rename_i advanced <;> cases advanced.symm.trans accepted
  rfl

theorem fill_ready {header : FrameHeader} (ready : frame.phase = .dispatch header) :
    reader.fill watch frame link = ((.ok (), frame), link) := by
  rw [fill, if_neg (by simp [Incoming.wantsBytes, ready]), ready]

theorem fill_scripted (watch : Watch) (frame : Incoming) (link : Link) :
    scripted.fill watch frame link = frame.fill watch link := by
  fun_induction Incoming.fill watch frame link with
  | case1 frame link wants halt next stopped =>
      exact fill_stopped wants ((scripted_read _ _ _).trans stopped)
  | case2 frame link wants received next arrived after reason refused =>
      exact fill_refused wants ((scripted_read _ _ _).trans arrived) refused
  | case3 frame link wants received next arrived after accepted ih =>
      exact (fill_accepted wants ((scripted_read _ _ _).trans arrived) accepted).trans ih
  | case4 frame link idle header ready => exact fill_ready ready
  | case5 frame link idle undispatched =>
      rw [fill, if_neg idle]
      split
      · rename_i header ready
        exact absurd ready (undispatched header)
      · rfl

theorem fillFrame_scripted (cancel : CancelToken) (deadline : Option Duration) (frame : Incoming)
    (exchange : Exchange) :
    scripted.fillFrame cancel deadline frame exchange =
      exchange.fillFrame cancel deadline frame := by
  unfold fillFrame
  rw [show (fun watch link => scripted.fill watch frame link) = fun watch => frame.fill watch from
    funext fun watch => funext fun link => fill_scripted watch frame link]
  rfl

theorem receiveSome_scripted (cancel : CancelToken) (remote : SocketAddress) (maxLength : Nat)
    (deadline : Option Duration) (exchange : Exchange) :
    scripted.receiveSome cancel remote maxLength deadline exchange =
      exchange.receiveSome cancel remote maxLength deadline := by
  rw [receiveSome, show scripted.read = fun watch room link => link.read watch room from
    funext fun watch => funext fun room => funext fun link => scripted_read watch room link]
  rfl

theorem receive_scripted (maxLength : Nat) (deadline : Option Duration) (receiver : Receiver)
    (exchange : Exchange) :
    scripted.receive maxLength deadline receiver exchange =
      receiver.receive maxLength deadline exchange := by
  rw [receive, receiveSome_scripted]
  rfl

theorem receiveFrame_scripted (deadline : Option Duration) (receiver : Receiver)
    (exchange : Exchange) :
    scripted.receiveFrame deadline receiver exchange = receiver.receiveFrame deadline exchange := by
  unfold receiveFrame
  simp only [fillFrame_scripted]
  rfl

theorem calls_scripted : scripted.calls = Receiver.calls := by
  funext call receiver exchange
  cases call with
  | receive maxLength deadline => rw [calls, receive_scripted, Receiver.calls]
  | receiveFrame deadline => rw [calls, receiveFrame_scripted, Receiver.calls]

/-! ### Sessions -/

theorem unread_read {received : Bytes} {room : Nat}
    (arrived : reader.read watch room link = (.ok received, after)) :
    after.unread + received.length ≤ link.unread := by
  have read := reader.unread watch room link
  rwa [arrived] at read

theorem unread_fill (reader : Reader) (watch : Watch) (frame : Incoming) (link : Link) :
    (reader.fill watch frame link).2.unread ≤ link.unread ∧
      (frame.wantsBytes = true → (reader.fill watch frame link).1.1 = .ok () →
        (reader.fill watch frame link).2.unread < link.unread) := by
  fun_induction fill reader watch frame link with
  | case1 frame link wants halt after stopped =>
      have read := reader.unread watch frame.windowLength link
      rw [stopped] at read
      exact ⟨read, nofun⟩
  | case2 frame link wants received after arrived next reason refused =>
      have read := unread_read arrived
      exact ⟨by dsimp only; omega, nofun⟩
  | case3 frame link wants received after arrived next accepted ih =>
      have read := unread_read arrived
      have counted := Incoming.advance_count accepted
      exact ⟨by omega, fun _ _ => by omega⟩
  | case4 frame link idle header ready => simp [idle]
  | case5 frame link idle undispatched => simp [idle]

theorem unread_fillFrame (reader : Reader) (cancel : CancelToken) (deadline : Option Duration)
    (frame : Incoming) (exchange : Exchange) :
    (reader.fillFrame cancel deadline frame exchange).2.link.unread ≤ exchange.link.unread ∧
      (frame.wantsBytes = true → (reader.fillFrame cancel deadline frame exchange).1.1 = .ok () →
        (reader.fillFrame cancel deadline frame exchange).2.link.unread <
          exchange.link.unread) := by
  unfold fillFrame
  refine Exchange.withTicket_link (fun (result : Outcome Unit × Incoming) link =>
    link.unread ≤ exchange.link.unread ∧
      (frame.wantsBytes = true → result.1 = .ok () → link.unread < exchange.link.unread)) ?_ ?_
  · exact fun reason => ⟨Nat.le_refl _, nofun⟩
  · intro ticket inner same
    unfold Exchange.timed
    split
    · exact ⟨Nat.le_of_eq (congrArg Link.unread same), nofun⟩
    · rw [← same]
      exact reader.unread_fill _ frame inner.link

theorem rounds_decrease {cancel : CancelToken} {idle : Option Duration}
    {frame filled ready : Incoming} {exchange next last : Exchange}
    (complete : reader.fillFrame cancel idle frame exchange = ((.ok (), filled), next))
    (rearmed : filled.rearm = (ready, .ok ()))
    (later : last.link.unread ≤ next.link.unread) :
    Session.rounds ready last < Session.rounds frame exchange := by
  have fill := reader.unread_fillFrame cancel idle frame exchange
  rw [complete] at fill
  have wants : ready.wantsBytes = true := by
    unfold Incoming.rearm at rearmed
    split at rearmed
    · cases rearmed
      rfl
    · simp at rearmed
  simp only [Session.rounds, wants, if_true]
  -- The frame that a session is given may be whole before anything is read. Only that round takes
  -- no bytes; it is counted by the frame, which wants some after it.
  cases first : frame.wantsBytes with
  | true =>
      have shorter := fill.2 first rfl
      simp only [if_true] at *
      omega
  | false =>
      have kept := fill.1
      dsimp only at kept
      simp only [Bool.false_eq_true, if_false]
      omega

def serve {σ : Type} (reader : Reader) (handler : Handler σ) (remote : SocketAddress)
    (cancel : CancelToken) (frame : Incoming) (state : σ) (exchange : Exchange) :
    Session.Served σ :=
  match _complete :
      reader.fillFrame cancel exchange.resources.settings.idleTimeout frame exchange with
  | ((.error halt, frame), exchange) =>
      { outcome := Session.endOf halt, frame, state, exchange }
  | ((.ok (), filled), next) =>
      match filled.frame? with
      | none =>
          { outcome := .error (.error (.protocolViolation "dispatch without a complete frame"))
            frame := filled, state, exchange := next }
      | some (header, payload) =>
          let (answer, state) := handler { remote, header, payload } state
          match _rearmed : filled.rearm with
          | (ready, .error reason) =>
              { outcome := .error (.error reason), frame := ready, state, exchange := next }
          | (ready, .ok ()) =>
              match answer with
              | none => reader.serve handler remote cancel ready state next
              | some answer =>
                  match _sent : Session.respond cancel answer next with
                  | (.error halt, last) =>
                      { outcome := Session.endOf halt, frame := ready, state, exchange := last }
                  | (.ok (), last) => reader.serve handler remote cancel ready state last
termination_by Session.rounds frame exchange
decreasing_by
  · exact rounds_decrease _complete _rearmed (Nat.le_refl _)
  · have sent := Session.unread_respond cancel answer next
    rw [_sent] at sent
    exact rounds_decrease _complete _rearmed sent

def run {σ : Type} (reader : Reader) (handler : Handler σ) (session : Session) (state : σ)
    (exchange : Exchange) : Outcome SessionEnd × σ × Exchange :=
  let served := reader.serve handler session.remote session.cancel session.frame state exchange
  let (outcome, exchange) := Session.conclude served.outcome served.exchange
  (outcome, served.state, exchange.giveBackBuffer served.frame.close.buffer)

def session {σ : Type} (reader : Reader) (handler : Handler σ) (remote : SocketAddress)
    (cancel : CancelToken) (state : σ) (exchange : Exchange) :
    Outcome SessionEnd × σ × Exchange :=
  let (session, resources) := Session.start remote cancel exchange.resources
  reader.run handler session state { exchange with resources }

variable {σ : Type}

theorem serve_eq (reader : Reader) (handler : Handler σ) (remote : SocketAddress)
    (cancel : CancelToken) (frame : Incoming) (state : σ) (exchange : Exchange) :
    reader.serve handler remote cancel frame state exchange =
      match reader.fillFrame cancel exchange.resources.settings.idleTimeout frame exchange with
      | ((.error halt, frame), exchange) =>
          { outcome := Session.endOf halt, frame, state, exchange }
      | ((.ok (), filled), next) =>
          match filled.frame? with
          | none =>
              { outcome := .error (.error (.protocolViolation "dispatch without a complete frame"))
                frame := filled, state, exchange := next }
          | some (header, payload) =>
              let (answer, state) := handler { remote, header, payload } state
              match filled.rearm with
              | (ready, .error reason) =>
                  { outcome := .error (.error reason), frame := ready, state, exchange := next }
              | (ready, .ok ()) =>
                  match answer with
                  | none => reader.serve handler remote cancel ready state next
                  | some answer =>
                      match Session.respond cancel answer next with
                      | (.error halt, last) =>
                          { outcome := Session.endOf halt, frame := ready, state
                            exchange := last }
                      | (.ok (), last) => reader.serve handler remote cancel ready state last := by
  rw [serve]
  split
  · rename_i halt after last ended
    rw [ended]
  · rename_i filled next ended
    rw [ended]
    dsimp only
    cases filled.frame? with
    | none => rfl
    | some shown =>
        dsimp only
        split <;> rename_i rearmed <;> rw [rearmed]
        dsimp only
        cases (handler { remote, header := shown.1, payload := shown.2 } state).1 with
        | none => rfl
        | some answer =>
            dsimp only
            split <;> rename_i sent <;> rw [sent]

theorem serve_scripted (handler : Handler σ) (remote : SocketAddress) (cancel : CancelToken)
    (frame : Incoming) (state : σ) (exchange : Exchange) :
    scripted.serve handler remote cancel frame state exchange =
      Session.serve handler remote cancel frame state exchange := by
  fun_induction Session.serve handler remote cancel frame state exchange with
  | case1 frame state exchange halt after last ended =>
      rw [serve_eq, fillFrame_scripted, ended]
  | case2 frame state exchange filled next complete nothing =>
      rw [serve_eq, fillFrame_scripted]
      simp only [complete, nothing]
  | case3 frame state exchange filled next complete header payload shown answer later asked ready
      reason refused =>
      rw [serve_eq, fillFrame_scripted]
      simp only [complete, shown, asked, refused]
  | case4 frame state exchange filled next complete header payload shown later ready rearmed asked
      ih =>
      rw [serve_eq, fillFrame_scripted]
      simp only [complete, shown, asked, rearmed]
      exact ih
  | case5 frame state exchange filled next complete header payload shown later ready rearmed answer
      halt last failed asked =>
      rw [serve_eq, fillFrame_scripted]
      simp only [complete, shown, asked, rearmed, failed]
  | case6 frame state exchange filled next complete header payload shown later ready rearmed answer
      last sent asked ih =>
      rw [serve_eq, fillFrame_scripted]
      simp only [complete, shown, asked, rearmed, sent]
      exact ih

theorem run_scripted (handler : Handler σ) (session : Session) (state : σ) (exchange : Exchange) :
    scripted.run handler session state exchange =
      Session.run handler session state exchange := by
  rw [run, serve_scripted]
  rfl

end Reader

end FramedTransport
