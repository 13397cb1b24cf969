/-!
Byte strings and fixed-width numbers in network order.
A number is written in `width` bytes, most significant first, and read back by
`number`; only its value modulo `range width` survives the trip.
-/

namespace FramedTransport

abbrev Bytes := List UInt8

namespace Bytes

def zeros (count : Nat) : Bytes := List.replicate count 0

/-- The low `width` bytes of `value`, most significant first. -/
def bigEndian : (width value : Nat) → Bytes
  | 0, _ => []
  | width + 1, value => bigEndian width (value / 256) ++ [UInt8.ofNat value]

/-- The number that a byte string spells, most significant byte first. -/
def number (bytes : Bytes) : Nat :=
  bytes.foldl (fun value byte => value * 256 + byte.toNat) 0

theorem length_bigEndian (width value : Nat) : (bigEndian width value).length = width := by
  induction width generalizing value with
  | zero => rfl
  | succ width ih => simp [bigEndian, ih]

theorem number_append_singleton (bytes : Bytes) (byte : UInt8) :
    number (bytes ++ [byte]) = number bytes * 256 + byte.toNat := by
  simp [number]

def range : (width : Nat) → Nat
  | 0 => 1
  | width + 1 => 256 * range width

theorem number_bigEndian (width value : Nat) :
    number (bigEndian width value) = value % range width := by
  induction width generalizing value with
  | zero => simp [bigEndian, number, range, Nat.mod_one]
  | succ width ih =>
      have byte : (UInt8.ofNat value).toNat = value % 256 := by simp
      rw [bigEndian, number_append_singleton, ih, byte, range, Nat.mod_mul]
      omega

theorem number_foldl (bytes : Bytes) (start : Nat) :
    bytes.foldl (fun value byte => value * 256 + byte.toNat) start
      = start * range bytes.length + number bytes := by
  induction bytes generalizing start with
  | nil => simp [number, range]
  | cons byte rest ih =>
      have split := ih (start * 256 + byte.toNat)
      have front := ih (0 * 256 + byte.toNat)
      simp only [number, List.foldl_cons, List.length_cons, range] at *
      rw [split, front]
      grind

theorem number_lt (bytes : Bytes) : number bytes < range bytes.length := by
  induction bytes with
  | nil => simp [number, range]
  | cons byte rest ih =>
      have spelled := number_foldl rest (0 * 256 + byte.toNat)
      have small := byte.toNat_lt
      simp only [number, List.foldl_cons, List.length_cons, range] at *
      rw [spelled]
      have bound : (0 * 256 + byte.toNat) * range rest.length ≤ 255 * range rest.length :=
        Nat.mul_le_mul_right _ (by omega)
      omega

end Bytes

end FramedTransport
