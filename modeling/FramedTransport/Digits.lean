/-!
Digits of a radix up to sixteen, and the number that a run of them spells.
-/

namespace FramedTransport.Digits

def value (c : Char) : Option Nat :=
  if c.isDigit then some (c.toNat - '0'.toNat)
  else if 'a' ≤ c ∧ c ≤ 'f' then some (c.toNat - 'a'.toNat + 10)
  else if 'A' ≤ c ∧ c ≤ 'F' then some (c.toNat - 'A'.toNat + 10)
  else none

def isDigitOf (radix : Nat) (c : Char) : Bool :=
  match value c with
  | some digit => digit < radix
  | none => false

def number (radix : Nat) (digits : List Char) : Nat :=
  digits.foldl (fun total c => total * radix + (value c).getD 0) 0

/-- The digits of a text in which single underscores may stand between digits. -/
def ungrouped? (radix : Nat) : List Char → Option (List Char)
  | [] => none
  | [c] => if isDigitOf radix c then some [c] else none
  | c :: '_' :: rest => if isDigitOf radix c then (ungrouped? radix rest).map (c :: ·) else none
  | c :: rest => if isDigitOf radix c then (ungrouped? radix rest).map (c :: ·) else none

end FramedTransport.Digits
