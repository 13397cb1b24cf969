import FramedTransport.Buffer

/-!
What the operations on a buffer do to its bytes.
Room is a matter of cost only: no operation lets the bytes depend on it. A run
of bytes at the front stays there while more is written behind it.
-/

namespace FramedTransport

namespace Bytes

theorem bigEndian_number (bytes : Bytes) : bigEndian bytes.length (number bytes) = bytes := by
  generalize size : bytes.length = width
  induction width generalizing bytes with
  | zero => simp [bigEndian, List.length_eq_zero_iff.1 size]
  | succ width ih =>
      obtain ⟨front, last, rfl⟩ : ∃ front last, bytes = front ++ [last] :=
        ⟨_, _, (List.dropLast_concat_getLast (List.ne_nil_of_length_eq_add_one size)).symm⟩
      have shorter : front.length = width := by simpa using size
      have quotient : (number front * 256 + last.toNat) / 256 = number front := by
        have small := last.toNat_lt
        omega
      have remainder : UInt8.ofNat (number front * 256 + last.toNat) = last := by
        apply UInt8.toNat_inj.1
        have small := last.toNat_lt
        simp
      rw [number_append_singleton, bigEndian, quotient, remainder, ih front shorter]

end Bytes

namespace Buffer

@[simp] theorem bytes_ofCapacity (capacity : Nat) : (ofCapacity capacity).bytes = [] := rfl

@[simp] theorem bytes_clear (buffer : Buffer) : buffer.clear.bytes = [] := rfl

@[simp] theorem bytes_truncate (buffer : Buffer) (count : Nat) :
    (buffer.truncate count).bytes = buffer.bytes.take count := rfl

@[simp] theorem bytes_reserve (buffer : Buffer) (additional : Nat) :
    (buffer.reserve additional).bytes = buffer.bytes := by
  simp only [reserve]
  split <;> rfl

@[simp] theorem bytes_append (buffer : Buffer) (more : Bytes) :
    (buffer.append more).bytes = buffer.bytes ++ more := by
  simp [append]

theorem bytes_resize (buffer : Buffer) (count : Nat) :
    (buffer.resize count).bytes =
      buffer.bytes.take count ++ Bytes.zeros (count - buffer.length) := by
  unfold resize
  split
  · rename_i shrinks
    simp [Bytes.zeros, Nat.sub_eq_zero_of_le shrinks]
  · rename_i grows
    have whole : buffer.bytes.take count = buffer.bytes :=
      List.take_of_length_le (Nat.le_of_lt (Nat.lt_of_not_le grows))
    simp [whole]

@[simp] theorem length_resize (buffer : Buffer) (count : Nat) :
    (buffer.resize count).length = count := by
  simp only [length, bytes_resize, Bytes.zeros, List.length_append, List.length_take,
    List.length_replicate]
  omega

theorem front_resize {buffer : Buffer} {held : Bytes} {count : Nat}
    (front : held <+: buffer.bytes) (fits : held.length ≤ count) :
    held <+: (buffer.resize count).bytes := by
  rw [bytes_resize]
  exact (List.prefix_take_iff.2 ⟨front, fits⟩).trans (List.prefix_append _ _)

theorem bytes_overwrite {buffer : Buffer} {held more : Bytes}
    (front : held <+: buffer.bytes) (room : held.length + more.length ≤ buffer.length) :
    (buffer.overwrite held.length more).bytes =
      held ++ more ++ buffer.bytes.drop (held.length + more.length) := by
  have kept : buffer.bytes.take held.length = held := (List.prefix_iff_eq_take.1 front).symm
  have fits : more.take (buffer.length - held.length) = more :=
    List.take_of_length_le (by omega)
  simp only [overwrite, kept, fits]

theorem length_overwrite (buffer : Buffer) (start : Nat) (more : Bytes) :
    (buffer.overwrite start more).length = buffer.length := by
  simp only [overwrite, length, List.length_append, List.length_take, List.length_drop]
  omega

theorem front_overwrite {buffer : Buffer} {held more : Bytes}
    (front : held <+: buffer.bytes) (room : held.length + more.length ≤ buffer.length) :
    held ++ more <+: (buffer.overwrite held.length more).bytes := by
  rw [bytes_overwrite front room]
  exact List.prefix_append _ _

end Buffer

end FramedTransport
