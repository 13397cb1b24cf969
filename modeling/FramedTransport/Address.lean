/-!
Internet addresses and their text.
A version 6 address is written with its longest run of zero groups shortened,
the first of equally long runs; a single zero group is never shortened.
-/

namespace FramedTransport

inductive IpAddress where
  | v4 (first second third fourth : UInt8)
  | v6 (groups : Vector UInt16 8)
deriving DecidableEq, Repr

/-- `scope` names the zone of a version 6 address; zero is no zone. -/
structure SocketAddress where
  ip : IpAddress
  port : UInt16
  scope : UInt32 := 0
deriving DecidableEq, Repr

namespace IpAddress

def loopback : IpAddress := .v4 127 0 0 1

def groupText (group : UInt16) : String :=
  String.ofList (Nat.toDigits 16 group.toNat)

def octetsText (octets : List Nat) : String :=
  ".".intercalate (octets.map toString)

structure Run where
  start : Nat
  length : Nat

def zeroRunAt (groups : List UInt16) (start : Nat) : Run :=
  ⟨start, ((groups.drop start).takeWhile (· == 0)).length⟩

/-- The longest run of zero groups, the first of equally long ones. -/
def longestZeroRun (groups : List UInt16) : Run :=
  (List.range groups.length).foldl
    (fun best start =>
      let candidate := zeroRunAt groups start
      if best.length < candidate.length then candidate else best)
    ⟨0, 0⟩

def groupsText (groups : List UInt16) : String :=
  ":".intercalate (groups.map groupText)

def v6Text (groups : List UInt16) : String :=
  match groups with
  | [0, 0, 0, 0, 0, 0xffff, high, low] =>
      "::ffff:" ++ octetsText
        [high.toNat / 256, high.toNat % 256, low.toNat / 256, low.toNat % 256]
  | _ =>
      let run := longestZeroRun groups
      if run.length < 2 then
        groupsText groups
      else
        groupsText (groups.take run.start) ++ "::"
          ++ groupsText (groups.drop (run.start + run.length))

def text : IpAddress → String
  | .v4 first second third fourth =>
      octetsText [first.toNat, second.toNat, third.toNat, fourth.toNat]
  | .v6 groups => v6Text groups.toList

end IpAddress

namespace SocketAddress

def text (address : SocketAddress) : String :=
  let port := ":" ++ toString address.port.toNat
  match address.ip with
  | .v4 .. => address.ip.text ++ port
  | .v6 _ =>
      let scope := if address.scope = 0 then "" else "%" ++ toString address.scope.toNat
      "[" ++ address.ip.text ++ scope ++ "]" ++ port

end SocketAddress

end FramedTransport
