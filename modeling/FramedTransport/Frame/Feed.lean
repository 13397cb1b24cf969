import FramedTransport.Frame.Incoming

/-!
A run of bytes brought to a frame reader.
The bytes go through the reader's windows one after the other until they are
used up, the reader wants none, or it refuses some; nothing is offered twice.
-/

namespace FramedTransport

/-- What a run of bytes came to. Refused bytes count as taken. -/
structure Incoming.Fed where
  reader : Incoming
  taken : Nat := 0
  windows : Nat := 0
  largest : Nat := 0
  failed : Option TransportError := none
deriving DecidableEq, Repr

namespace Incoming

theorem advance_count {frame next : Incoming} {count : Nat}
    (accepted : frame.advance count = (next, .ok ())) : 0 < count := by
  rcases Nat.eq_zero_or_pos count with rfl | positive
  · unfold advance at accepted
    split at accepted <;> simp [Progress.advance, closeWith] at accepted
  · exact positive

/-- Puts `bytes` through the windows of a reader, at most `split` of them at a time. -/
def feed (split : Option Nat) (bytes : Bytes) (reader : Incoming) : Fed :=
  let window := reader.windowLength
  if bytes.isEmpty then { reader }
  else if window = 0 then { reader := reader.expose }
  else
    let count := min (min window bytes.length) (split.getD bytes.length)
    match _accepted : (reader.write (bytes.take count)).advance count with
    | (reader, .error error) =>
        { reader, taken := count, windows := 1, largest := window, failed := some error }
    | (reader, .ok ()) =>
        let rest := feed split (bytes.drop count) reader
        { rest with
          taken := count + rest.taken
          windows := 1 + rest.windows
          largest := max window rest.largest }
termination_by bytes.length
decreasing_by
  have positive := advance_count _accepted
  rename_i present _
  have : bytes ≠ [] := by simpa using present
  have : 0 < bytes.length := List.length_pos_iff.2 this
  simp only [List.length_drop]
  omega

end Incoming

end FramedTransport
