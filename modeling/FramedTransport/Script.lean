/-!
The behaviour of one end of a socket, written down in advance.
A script is polled: it is consumed from the front, an event is not reached
before its time, and an event that makes the caller wait is judged afresh by
every poll.
-/

namespace FramedTransport

inductive Cue (α : Type) where
  | act (action : α)
  | hang
  | yield
  | cancel
deriving DecidableEq, Repr

structure Event (α : Type) where
  notBefore : Nat := 0
  cue : Cue α
deriving DecidableEq, Repr

abbrev Script (α : Type) := List (Event α)

/-- When a pending caller is to be polled again. -/
inductive Wake where
  | immediately
  | atTime (moment : Nat)
  | never
deriving DecidableEq, Repr

inductive Poll (α : Type) where
  | ready (value : α)
  | pending (wake : Wake)
deriving DecidableEq, Repr

/-- What one poll answers, what it leaves to poll, and whether it cancels its caller. -/
structure Polled (σ α : Type) where
  answer : Poll α
  rest : σ
  cancels : Bool := false
deriving DecidableEq, Repr

/-- Anything that can be polled at a given time. -/
abbrev Device (σ α : Type) := Nat → σ → Polled σ α

namespace Script

variable {α : Type}

def thenSilence (script : Script α) : Script α := script ++ [{ cue := .hang }]

/-- Past the end of a script every poll is ready with nothing. -/
def poll (now : Nat) : Script α → Polled (Script α) (Option α)
  | [] => { answer := .ready none, rest := [] }
  | event :: rest =>
      if now < event.notBefore then
        { answer := .pending (.atTime event.notBefore), rest := event :: rest }
      else
        match event.cue with
        | .act action => { answer := .ready (some action), rest }
        | .hang => { answer := .pending .never, rest := event :: rest }
        | .yield => { answer := .pending .immediately, rest }
        | .cancel => { poll now rest with cancels := true }

theorem length_poll_le (now : Nat) (script : Script α) :
    (poll now script).rest.length ≤ script.length := by
  induction script with
  | nil => simp [poll]
  | cons event rest ih =>
      unfold poll
      split
      · simp
      · split
        · exact Nat.le_succ _
        · exact Nat.le_refl _
        · exact Nat.le_succ _
        · exact Nat.le_succ_of_le ih

/-- A poll that consumes nothing and leaves its caller waiting has met an event that is still
to come or one that hangs. -/
theorem poll_unmoved {now : Nat} {script : Script α} {wake : Wake}
    (waits : (poll now script).answer = .pending wake)
    (unmoved : script.length ≤ (poll now script).rest.length) :
    (poll now script).rest = script ∧ (poll now script).cancels = false ∧
      (wake = .never ∨
        ∃ event rest, script = event :: rest ∧ wake = .atTime event.notBefore ∧
          now < event.notBefore) := by
  cases script with
  | nil => simp [poll] at waits
  | cons event rest =>
      by_cases early : now < event.notBefore
      · simp [poll, early] at *
        exact Or.inr waits.symm
      · cases cue : event.cue with
        | act action => simp [poll, early, cue] at waits
        | hang =>
            simp [poll, early, cue] at *
            exact waits.symm
        | yield =>
            simp only [poll, early, cue, if_false, List.length_cons] at unmoved
            omega
        | cancel =>
            have shorter := length_poll_le now rest
            simp only [poll, early, cue, if_false, List.length_cons] at unmoved
            omega

/-- The actions of a script by their size, and one for every event. -/
def weight (size : α → Nat) : Script α → Nat
  | [] => 0
  | event :: rest =>
      (match event.cue with
        | .act action => 1 + size action
        | .hang | .yield | .cancel => 1) + weight size rest

def answerWeight (size : α → Nat) : Poll (Option α) → Nat
  | .ready (some action) => 1 + size action
  | .ready none | .pending _ => 0

theorem weight_poll (size : α → Nat) (now : Nat) (script : Script α) :
    weight size (poll now script).rest + answerWeight size (poll now script).answer
      ≤ weight size script := by
  induction script with
  | nil => simp [poll, weight, answerWeight]
  | cons event rest ih =>
      by_cases early : now < event.notBefore
      · simp [poll, early, answerWeight]
      · cases cue : event.cue with
        | act action => simp [poll, early, cue, weight, answerWeight]; omega
        | hang => simp [poll, early, cue, weight, answerWeight]
        | yield => simp [poll, early, cue, weight, answerWeight]
        | cancel =>
            simp only [poll, early, cue, weight, if_false]
            omega

end Script

end FramedTransport
