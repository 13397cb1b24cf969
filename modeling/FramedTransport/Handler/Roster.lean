import FramedTransport.Handler.Behaviour
import FramedTransport.Handler.Tree

/-!
Named handlers around one router.
Some of them change the router while a dispatch runs. A name given again belongs
to a new handler; registrations of the old one stay what they are.
-/

namespace FramedTransport

inductive Duty where
  | answer (behaviour : Behaviour)
  | registers (target : String) (type : UInt16)
  | deregisters (target : String) (type : UInt16) (reply : Bool)
deriving DecidableEq, Repr

structure Named where
  name : String
  duty : Duty
deriving DecidableEq, Repr

structure Call where
  name : String
  request : Request
deriving DecidableEq, Repr

/-- Members in the order in which they were enrolled; a member's position identifies it. -/
structure Roster where
  members : List (String × HandlerTree Named) := []
  router : Router Nat := {}
  calls : List Call := []

namespace Roster

def enrol (roster : Roster) (name : String) (tree : HandlerTree Named) : Roster :=
  { roster with members := roster.members ++ [(name, tree)] }

/-- The latest member of a name. -/
def current? (roster : Roster) (name : String) : Option Nat :=
  let positions := (List.range roster.members.length).filter fun position =>
    (roster.members[position]?.map Prod.fst) == some name
  positions.getLast?

def register (roster : Roster) (type : UInt16) (target : String) : Option Roster :=
  (roster.current? target).map fun member =>
    { roster with router := roster.router.register type member }

def deregister (roster : Roster) (type : UInt16) (target : String) : Option (Bool × Roster) :=
  (roster.current? target).map fun member =>
    let (removed, router) := roster.router.deregister type member
    (removed, { roster with router })

def note (named : Named) (request : Request) (roster : Roster) : Roster :=
  { roster with calls := roster.calls ++ [⟨named.name, request⟩] }

def perform (named : Named) : Handler Roster := fun request roster =>
  let roster := note named request roster
  match named.duty with
  | .answer behaviour => (behaviour.respond request, roster)
  | .registers target type => (none, (roster.register type target).getD roster)
  | .deregisters target type reply =>
      match roster.deregister type target with
      | none => (none, roster)
      | some (removed, roster) =>
          let answer := Behaviour.textBytes (if removed then "true" else "false")
          (if reply then some answer else none, roster)

def conduct : Conduct Named Roster where
  respond := perform
  observe := note

def call (member : Nat) : Handler Roster := fun request roster =>
  match roster.members[member]? with
  | some (_, tree) => tree.handle conduct request roster
  | none => (none, roster)

def dispatch : Handler Roster := fun request roster =>
  roster.router.dispatch call request roster

inductive Action where
  | enrol (name : String) (tree : HandlerTree Named)
  | register (type : UInt16) (name : String)
  | deregister (type : UInt16) (name : String)
  | count (type : UInt16)
  | handle (request : Request)

inductive Reply where
  | done
  | missing
  | removed (answer : Bool)
  | count (count : Nat)
  | answered (answer : Option Bytes)
deriving DecidableEq, Repr

def act (action : Action) (roster : Roster) : Reply × Roster :=
  match action with
  | .enrol name tree => (.done, roster.enrol name tree)
  | .register type name =>
      match roster.register type name with
      | some roster => (.done, roster)
      | none => (.missing, roster)
  | .deregister type name =>
      match roster.deregister type name with
      | some (removed, roster) => (.removed removed, roster)
      | none => (.missing, roster)
  | .count type => (.count (roster.router.count type), roster)
  | .handle request =>
      let (answer, roster) := dispatch request roster
      (.answered answer, roster)

end Roster

end FramedTransport
