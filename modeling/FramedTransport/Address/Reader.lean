import FramedTransport.Address
import FramedTransport.Digits

/-!
Addresses read from text.
A reader takes what it can from the front of the characters and returns the
rest; an address is accepted only if nothing is left over.
-/

namespace FramedTransport.Address

abbrev Reader (α : Type) := List Char → Option (α × List Char)

/-- A number below `bound` of at most `maxDigits` digits, without surplus zeros in front
unless `zeros` admits them. -/
def number (radix bound : Nat) (maxDigits : Option Nat) (zeros : Bool) : Reader Nat := fun cs =>
  let digits := cs.takeWhile (Digits.isDigitOf radix)
  let value := Digits.number radix digits
  let tooLong := match maxDigits with
    | some most => most < digits.length
    | none => false
  let surplus := !zeros && digits.head? == some '0' && 1 < digits.length
  if digits.isEmpty || tooLong || surplus || bound ≤ value then none
  else some (value, cs.dropWhile (Digits.isDigitOf radix))

def literal (expected : Char) : Reader Unit
  | c :: rest => if c = expected then some ((), rest) else none
  | [] => none

def octet : Reader UInt8 := fun cs => do
  let (value, rest) ← number 10 256 (some 3) false cs
  return (UInt8.ofNat value, rest)

def ipv4 : Reader (UInt8 × UInt8 × UInt8 × UInt8) := fun cs => do
  let (first, cs) ← octet cs
  let (_, cs) ← literal '.' cs
  let (second, cs) ← octet cs
  let (_, cs) ← literal '.' cs
  let (third, cs) ← octet cs
  let (_, cs) ← literal '.' cs
  let (fourth, cs) ← octet cs
  return ((first, second, third, fourth), cs)

/-- `item`, after a colon unless it is the first of its sequence. -/
def separated (first : Bool) (item : Reader α) : Reader α := fun cs =>
  if first then item cs
  else do
    let (_, cs) ← literal ':' cs
    item cs

def joinOctets (high low : UInt8) : UInt16 := UInt16.ofNat (high.toNat * 256 + low.toNat)

/-- Up to `room` groups, of which the last two may be written as a version 4 address;
also tells whether they were. -/
def groups (first : Bool) : (room : Nat) → List Char → List UInt16 × Bool × List Char
  | 0, cs => ([], false, cs)
  | room + 1, cs =>
      let embedded := if room = 0 then none else separated first ipv4 cs
      match embedded with
      | some ((a, b, c, d), rest) => ([joinOctets a b, joinOctets c d], true, rest)
      | none =>
          match separated first (number 16 65536 (some 4) true) cs with
          | some (value, rest) =>
              let (more, embedded, rest) := groups false room rest
              (UInt16.ofNat value :: more, embedded, rest)
          | none => ([], false, cs)

/-- Eight groups, or fewer around one `::` that stands for at least one group of zeros. -/
def ipv6 : Reader (Vector UInt16 8) := fun cs =>
  let (front, embedded, rest) := groups true 8 cs
  if full : front.length = 8 then
    some (⟨front.toArray, by simp [full]⟩, rest)
  else if embedded then
    none
  else do
    let (_, rest) ← literal ':' rest
    let (_, rest) ← literal ':' rest
    let (back, _, rest) := groups true (8 - (front.length + 1)) rest
    let all := front ++ List.replicate (8 - front.length - back.length) 0 ++ back
    if full : all.length = 8 then
      some (⟨all.toArray, by simp [full]⟩, rest)
    else none

def ip : Reader IpAddress := fun cs =>
  match ipv4 cs with
  | some ((a, b, c, d), rest) => some (.v4 a b c d, rest)
  | none => (ipv6 cs).map fun (groups, rest) => (.v6 groups, rest)

def port : Reader UInt16 := fun cs => do
  let (_, cs) ← literal ':' cs
  let (value, cs) ← number 10 65536 none true cs
  return (UInt16.ofNat value, cs)

def scope : Reader UInt32 := fun cs =>
  match literal '%' cs with
  | none => some (0, cs)
  | some (_, cs) => do
      let (value, cs) ← number 10 4294967296 none true cs
      return (UInt32.ofNat value, cs)

def socket : Reader SocketAddress := fun cs =>
  match ipv4 cs with
  | some ((a, b, c, d), cs) => do
      let (port, cs) ← port cs
      return ({ ip := .v4 a b c d, port }, cs)
  | none => do
      let (_, cs) ← literal '[' cs
      let (groups, cs) ← ipv6 cs
      let (scope, cs) ← scope cs
      let (_, cs) ← literal ']' cs
      let (port, cs) ← port cs
      return ({ ip := .v6 groups, port, scope }, cs)

def whole (reader : Reader α) (text : String) : Option α :=
  match reader text.toList with
  | some (value, []) => some value
  | _ => none

end FramedTransport.Address

namespace FramedTransport

def IpAddress.ofText? (text : String) : Option IpAddress :=
  Address.whole Address.ip text

def SocketAddress.ofText? (text : String) : Option SocketAddress :=
  Address.whole Address.socket text

end FramedTransport
