import FramedTransport.Handler.Behaviour
import FramedTransport.Handler.Router
import FramedTransport.Proofs.Buffers

/-!
The order in which a router asks its handlers.
A payload of two bytes or more is a type and a body. The handlers of the type are
asked for the body one after the other, as they were registered, until one of them
answers. Those behind it are never asked.
-/

namespace FramedTransport

namespace Router

variable {ι σ : Type}

/-- The type that the first two bytes of a payload spell. -/
def typeOf (payload : Bytes) : UInt16 := UInt16.ofNat (Bytes.number (payload.take typeSize))

theorem split_short {payload : Bytes} (short : payload.length < typeSize) : split payload = none :=
  if_pos short

theorem split_typed {payload : Bytes} (typed : typeSize ≤ payload.length) :
    split payload = some (typeOf payload, payload.drop typeSize) :=
  if_neg (Nat.not_lt.2 typed)

theorem encode_typeOf {payload : Bytes} (typed : typeSize ≤ payload.length) (body : Bytes) :
    encode (typeOf payload) body = payload.take typeSize ++ body := by
  have size : (payload.take typeSize).length = typeSize := List.length_take_of_le typed
  have spelled : Bytes.number (payload.take typeSize) < 2 ^ 16 := by
    have bound := Bytes.number_lt (payload.take typeSize)
    rwa [size] at bound
  have value : (typeOf payload).toNat = Bytes.number (payload.take typeSize) :=
    Nat.mod_eq_of_lt spelled
  have written := Bytes.bigEndian_number (payload.take typeSize)
  rw [size] at written
  rw [encode, value, written]

structure Question (ι : Type) where
  handler : ι
  request : Request
  answer : Option Bytes
deriving DecidableEq, Repr

/-- Handlers that are written down as they are asked. -/
def noting (call : ι → Handler σ) : ι → Handler (σ × List (Question ι)) :=
  fun handler request (state, notes) =>
    let (answer, next) := call handler request state
    (answer, next, notes ++ [⟨handler, request, answer⟩])

/-- Questions that go through some handlers in their order, with one request for all, up to the
first that answers. -/
structure UpToAnswer (request : Request) (handlers : List ι) (asked : List (Question ι))
    (answer : Option Bytes) : Prop where
  inOrder : asked.map Question.handler <+: handlers
  request : ∀ question ∈ asked, question.request = request
  silent : ∀ question ∈ asked.dropLast, question.answer = none
  last : asked.getLast?.bind Question.answer = answer
  everybody : answer = none → asked.map Question.handler = handlers

variable {request : Request} {handlers : List ι}

theorem UpToAnswer.nobody (request : Request) : UpToAnswer request ([] : List ι) [] none where
  inOrder := List.prefix_rfl
  request := by simp
  silent := by simp
  last := rfl
  everybody _ := rfl

theorem UpToAnswer.answered (request : Request) (handler : ι) (handlers : List ι)
    (answer : Bytes) :
    UpToAnswer request (handler :: handlers) [⟨handler, request, some answer⟩] (some answer) where
  inOrder := ⟨handlers, rfl⟩
  request := by simp
  silent := by simp
  last := rfl
  everybody silent := by cases silent

theorem UpToAnswer.passed {asked : List (Question ι)} {answer : Option Bytes}
    (rest : UpToAnswer request handlers asked answer) (handler : ι) :
    UpToAnswer request (handler :: handlers) (⟨handler, request, none⟩ :: asked) answer where
  inOrder := List.cons_prefix_cons.2 ⟨rfl, rest.inOrder⟩
  request := by
    intro question member
    rcases List.mem_cons.1 member with rfl | later
    · rfl
    · exact rest.request question later
  silent := by
    intro question member
    cases asked with
    | nil => simp at member
    | cons next more =>
        rcases List.mem_cons.1 member with rfl | later
        · rfl
        · exact rest.silent question later
  last := by
    cases asked with
    | nil => exact rest.last
    | cons next more => exact rest.last
  everybody silent := congrArg (List.cons handler) (rest.everybody silent)

theorem firstAnswer_noting (call : ι → Handler σ) (handlers : List ι) (request : Request)
    (state : σ) :
    ∃ asked, UpToAnswer request handlers asked (firstAnswer call handlers request state).1 ∧
      ∀ notes, firstAnswer (noting call) handlers request (state, notes) =
        ((firstAnswer call handlers request state).1,
          (firstAnswer call handlers request state).2, notes ++ asked) := by
  induction handlers generalizing state with
  | nil =>
      refine ⟨[], .nobody request, ?_⟩
      intro notes
      simp [firstAnswer]
  | cons handler handlers ih =>
      rcases reply : call handler request state with ⟨_ | answer, next⟩
      · obtain ⟨asked, questions, noted⟩ := ih next
        refine ⟨⟨handler, request, none⟩ :: asked, ?_, ?_⟩
        · simpa only [firstAnswer, reply] using questions.passed handler
        · intro notes
          simp [firstAnswer, noting, reply, noted]
      · refine ⟨[⟨handler, request, some answer⟩], ?_, ?_⟩
        · simpa only [firstAnswer, reply] using .answered request handler handlers answer
        · intro notes
          simp [firstAnswer, noting, reply]

theorem dispatch_short (call : ι → Handler σ) (router : Router ι) {request : Request} (state : σ)
    (short : request.payload.length < typeSize) :
    router.dispatch call request state = (none, state) := by
  simp only [dispatch, split_short short]

theorem dispatch_typed (call : ι → Handler σ) (router : Router ι) {request : Request} (state : σ)
    (typed : typeSize ≤ request.payload.length) :
    router.dispatch call request state =
      let inner := { request with payload := request.payload.drop typeSize }
      let asked := firstAnswer call (router.handlers (typeOf request.payload)) inner state
      (asked.1.map (request.payload.take typeSize ++ ·), asked.2) := by
  simp only [dispatch, split_typed typed]
  exact congrArg (fun put => (Option.map put _, _)) (funext (encode_typeOf typed))

/-- Of the handlers of a type, those up to the first that answers are asked, each once and in the
order of registration, for the payload without its type. The answer goes back behind the type. -/
theorem asks_up_to_the_first_answer (call : ι → Handler σ) (router : Router ι) (request : Request)
    (state : σ) (typed : 2 ≤ request.payload.length) :
    ∃ asked answer,
      UpToAnswer { request with payload := request.payload.drop 2 }
        (router.handlers (UInt16.ofNat (Bytes.number (request.payload.take 2)))) asked answer ∧
      (router.dispatch call request state).1 = answer.map (request.payload.take 2 ++ ·) ∧
      ∀ notes, router.dispatch (noting call) request (state, notes) =
        ((router.dispatch call request state).1, (router.dispatch call request state).2,
          notes ++ asked) := by
  obtain ⟨asked, questions, noted⟩ := firstAnswer_noting call
    (router.handlers (typeOf request.payload))
    { request with payload := request.payload.drop typeSize } state
  refine ⟨asked, _, questions, ?_, ?_⟩
  · rw [dispatch_typed call router state typed]
    rfl
  · intro notes
    rw [dispatch_typed (noting call) router (state, notes) typed,
      dispatch_typed call router state typed]
    simp only [noted notes]

def respond (behaviour : Behaviour) : Handler Unit :=
  fun request state => (behaviour.respond request, state)

def greeting : Request :=
  { remote := ⟨IpAddress.loopback, 80, 0⟩, header := ⟨4, by decide⟩, payload := [0, 3, 104, 105] }

/-- One that stays silent is followed by one that answers, and the third is not asked. -/
theorem silence_passes_the_question_on :
    ∃ asked, UpToAnswer { greeting with payload := [104, 105] }
        [Behaviour.silent, .reverse, .echo] asked (some [105, 104]) ∧
      asked.map Question.handler = [.silent, .reverse] := by
  obtain ⟨asked, answer, questions, answered, noted⟩ := asks_up_to_the_first_answer respond
    { routes := [(3, [.silent, .reverse, .echo])] } greeting () (by decide)
  have run : dispatch (noting respond) { routes := [(3, [.silent, .reverse, .echo])] } greeting
      ((), []) = (some [0, 3, 105, 104], (),
        [⟨.silent, { greeting with payload := [104, 105] }, none⟩,
          ⟨.reverse, { greeting with payload := [104, 105] }, some [105, 104]⟩]) := rfl
  have taken : asked = [⟨.silent, { greeting with payload := [104, 105] }, none⟩,
      ⟨.reverse, { greeting with payload := [104, 105] }, some [105, 104]⟩] :=
    congrArg (fun seen => seen.2.2) ((noted []).symm.trans run)
  subst taken
  rw [← questions.last] at questions
  exact ⟨_, questions, rfl⟩

/-- Not every handler of a type is asked: one that answers keeps the question from the handlers
that were registered behind it. -/
theorem answer_keeps_the_question :
    let router := (({} : Router Behaviour).register 3 .echo).register 3 .silent
    router.handlers 3 = [.echo, .silent] ∧
      (router.dispatch (noting respond) greeting ((), [])).2.2.map Question.handler = [.echo] :=
  ⟨rfl, rfl⟩

end Router

end FramedTransport
