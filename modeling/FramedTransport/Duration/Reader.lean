import FramedTransport.Duration

/-!
Durations read from text such as `1h 30m` or `2.5ms`.
The text is a sequence of numbers, each followed by its unit; the terms are
added up from left to right. Every product and sum must fit in sixty-four bits,
and a fraction must come out as a whole number of nanoseconds, or of seconds
for units of an hour and more.
-/

namespace FramedTransport.Duration

inductive TextFault where
  | malformed
  | overflow
deriving DecidableEq, Repr

def isBlank (c : Char) : Bool :=
  let code := c.toNat
  (9 ≤ code && code ≤ 13) || code == 0x20 || code == 0x85 || code == 0xa0 || code == 0x1680
    || (0x2000 ≤ code && code ≤ 0x200a) || code == 0x2028 || code == 0x2029 || code == 0x202f
    || code == 0x205f || code == 0x3000

def isUnitLetter (c : Char) : Bool :=
  ('a' ≤ c && c ≤ 'z') || ('A' ≤ c && c ≤ 'Z') || c == 'µ'

/-- A unit of time is a number of nanoseconds or a number of seconds. -/
inductive TimeUnit where
  | nanoseconds (count : Nat)
  | seconds (count : Nat)

def unitNames : List (List String × TimeUnit) :=
  [(["nanos", "nsec", "ns"], .nanoseconds 1),
   (["usec", "us", "µs"], .nanoseconds 1000),
   (["millis", "msec", "ms"], .nanoseconds 1000000),
   (["seconds", "second", "secs", "sec", "s"], .seconds 1),
   (["minutes", "minute", "min", "mins", "m"], .seconds 60),
   (["hours", "hour", "hrs", "hr", "h"], .seconds 3600),
   (["days", "day", "d"], .seconds 86400),
   (["weeks", "week", "wks", "wk", "w"], .seconds 604800),
   (["months", "month", "M"], .seconds 2630016),
   (["years", "year", "yrs", "yr", "y"], .seconds 31557600)]

def unitNamed (name : String) : Except TextFault TimeUnit :=
  match unitNames.find? fun (names, _) => names.contains name with
  | some (_, unit) => .ok unit
  | none => .error .malformed

def checked (value : Nat) : Except TextFault Nat :=
  if value < secondsBound then .ok value else .error .malformed

/-- The running total grown by seconds and nanoseconds. A nanosecond sum of exactly one
second is carried without a check, so it alone can overflow. -/
def grow (total : Duration) (seconds nanos : Nat) : Except TextFault Duration := do
  let nanoSum ← checked (total.subsecond + nanos)
  if nanoSum = nanosPerSecond then
    let secondSum ← checked (total.seconds + seconds)
    if secondSum + 1 < secondsBound then .ok (ofSeconds (secondSum + 1)) else .error .overflow
  else
    let carried ← checked (seconds + nanoSum / nanosPerSecond)
    let secondSum ← checked (total.seconds + carried)
    .ok (ofParts secondSum (nanoSum % nanosPerSecond))

def addWhole (total : Duration) (count : Nat) : TimeUnit → Except TextFault Duration
  | .nanoseconds size => do grow total 0 (← checked (count * size))
  | .seconds size => do grow total (← checked (count * size)) 0

/-- Digits after the point: `digits` out of `scale`, a power of ten. -/
structure Fraction where
  digits : Nat
  scale : Nat

def Fraction.of (fraction : Fraction) (size : Nat) : Except TextFault Nat := do
  let product ← checked (fraction.digits * size)
  if product % fraction.scale = 0 then .ok (product / fraction.scale) else .error .malformed

def addFraction (total : Duration) (fraction : Fraction) : TimeUnit → Except TextFault Duration
  | .nanoseconds size => do
      if size = 1 then .error .malformed
      else grow total 0 (← fraction.of size)
  | .seconds size => do
      if size < 3600 then grow total 0 (← fraction.of (size * nanosPerSecond))
      else grow total (← fraction.of size) 0

def addTerm (total : Duration) (whole : Nat) (fraction : Option Fraction) (name : String) :
    Except TextFault Duration := do
  let unit ← unitNamed name
  let total ← addWhole total whole unit
  match fraction with
  | none => .ok total
  | some fraction => addFraction total fraction unit

/-- What has been read of the current term. -/
inductive Place where
  | between (first : Bool)
  | whole (value : Nat)
  | fraction (whole : Nat) (fraction : Fraction)
  | unit (whole : Nat) (fraction : Option Fraction) (name : String)

def digit (c : Char) : Nat := c.toNat - '0'.toNat

def read (total : Duration) : Place → List Char → Except TextFault Duration
  | .between first, [] => if first then .error .malformed else .ok total
  | .whole _, [] => .error .malformed
  | .fraction .., [] => .error .malformed
  | .unit whole fraction name, [] => addTerm total whole fraction name
  | .between first, c :: rest =>
      if c.isDigit then read total (.whole (digit c)) rest
      else if isBlank c then read total (.between first) rest
      else .error .malformed
  | .whole value, c :: rest =>
      if c.isDigit then do
        let value ← checked (value * 10 + digit c)
        read total (.whole value) rest
      else if isBlank c then read total (.whole value) rest
      else if isUnitLetter c then read total (.unit value none (String.singleton c)) rest
      else if c = '.' then read total (.fraction value ⟨0, 1⟩) rest
      else .error .malformed
  | .fraction whole fraction, c :: rest =>
      if c.isDigit then do
        let scale ← checked (fraction.scale * 10)
        let digits ← checked (fraction.digits * 10 + digit c)
        read total (.fraction whole ⟨digits, scale⟩) rest
      else if isBlank c then read total (.fraction whole fraction) rest
      else if isUnitLetter c && fraction.scale != 1 then
        read total (.unit whole (some fraction) (String.singleton c)) rest
      else .error .malformed
  | .unit whole fraction name, c :: rest =>
      if c.isDigit then do
        let total ← addTerm total whole fraction name
        read total (.whole (digit c)) rest
      else if isBlank c then do
        let total ← addTerm total whole fraction name
        read total (.between false) rest
      else if isUnitLetter c then read total (.unit whole fraction (name.push c)) rest
      else .error .malformed

def ofText (text : String) : Except TextFault Duration :=
  read zero (.between true) text.toList

end FramedTransport.Duration
