/-!
Spans of time, counted in whole nanoseconds.
Sixty-four bits of seconds bound what can be written down; sums and products of
larger numbers are refused where durations are read.
-/

namespace FramedTransport

structure Duration where
  nanoseconds : Nat
deriving DecidableEq, Repr, Inhabited

namespace Duration

def nanosPerSecond : Nat := 1000000000
def nanosPerMilli : Nat := 1000000
def nanosPerMicro : Nat := 1000

/-- One more than the greatest number of seconds a duration can hold. -/
def secondsBound : Nat := UInt64.size

def zero : Duration := ⟨0⟩
def ofParts (seconds nanos : Nat) : Duration := ⟨seconds * nanosPerSecond + nanos⟩
def ofSeconds (seconds : Nat) : Duration := ofParts seconds 0
def ofMillis (millis : Nat) : Duration := ⟨millis * nanosPerMilli⟩
def longest : Duration := ⟨secondsBound * nanosPerSecond - 1⟩

def seconds (span : Duration) : Nat := span.nanoseconds / nanosPerSecond
def subsecond (span : Duration) : Nat := span.nanoseconds % nanosPerSecond

def millisCovering (span : Duration) : Nat :=
  (span.nanoseconds + (nanosPerMilli - 1)) / nanosPerMilli

/-- The digits of `remainder` after the point, `places` wide, without trailing zeros. -/
def fractionDigits (places remainder : Nat) : List Char :=
  let digits := Nat.toDigits 10 remainder
  let padded := List.replicate (places - digits.length) '0' ++ digits
  if remainder = 0 then [] else (padded.reverse.dropWhile (· = '0')).reverse

def decimal (whole remainder places : Nat) (unit : String) : String :=
  match fractionDigits places remainder with
  | [] => toString whole ++ unit
  | digits => toString whole ++ "." ++ String.ofList digits ++ unit

def describe (span : Duration) : String :=
  if 0 < span.seconds then
    decimal span.seconds span.subsecond 9 "s"
  else if nanosPerMilli ≤ span.nanoseconds then
    decimal (span.nanoseconds / nanosPerMilli) (span.nanoseconds % nanosPerMilli) 6 "ms"
  else if nanosPerMicro ≤ span.nanoseconds then
    decimal (span.nanoseconds / nanosPerMicro) (span.nanoseconds % nanosPerMicro) 3 "µs"
  else
    decimal span.nanoseconds 0 0 "ns"

end Duration

end FramedTransport
