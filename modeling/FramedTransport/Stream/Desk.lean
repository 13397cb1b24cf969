import FramedTransport.Stream.Sender

/-!
Calls on one half of a stream, one after the other.
Between calls the caller may cancel the half, let time pass, and do as it likes
with the results it has kept.
-/

namespace FramedTransport

structure HalfDesk (η : Type) where
  half : η
  exchange : Exchange
  kept : List Delivery := []

inductive Receiver.Call where
  | receive (maxLength : Nat) (deadline : Option Duration)
  | receiveFrame (deadline : Option Duration)
deriving DecidableEq, Repr

inductive Sender.Call where
  | send (payload : Bytes) (deadline : Option Duration)
  | sendFrame (payload : Bytes) (deadline : Option Duration)
  | shutdown (deadline : Option Duration)
deriving DecidableEq, Repr

/-- How a half answers a call; a shutdown delivers nothing. -/
abbrev Calls (κ η : Type) := κ → η → Exchange → Outcome (Option Delivery) × η × Exchange

def Receiver.calls : Calls Receiver.Call Receiver
  | .receive maxLength deadline, receiver, exchange =>
      let (outcome, after) := receiver.receive maxLength deadline exchange
      (outcome.map some, after)
  | .receiveFrame deadline, receiver, exchange =>
      let (outcome, after) := receiver.receiveFrame deadline exchange
      (outcome.map some, after)

def Sender.calls : Calls Sender.Call Sender
  | .send payload deadline, sender, exchange =>
      let (outcome, after) := sender.send payload deadline exchange
      (outcome.map some, after)
  | .sendFrame payload deadline, sender, exchange =>
      let (outcome, after) := sender.sendFrame payload deadline exchange
      (outcome.map some, after)
  | .shutdown deadline, sender, exchange =>
      let (outcome, after) := sender.shutdown deadline exchange
      (outcome.map fun () => none, after)

namespace HalfDesk

inductive Action (κ : Type) where
  | call (call : κ) (keep : Bool)
  | cancel
  | sleep (millis : Nat)
  | takeBytes
  | release
deriving DecidableEq, Repr

inductive Reply where
  | done
  | missing
  | bytes (bytes : Bytes)
  | delivered (delivery : Delivery)
  | refused (halt : Halt)
deriving DecidableEq, Repr

variable {κ η : Type}

def giveBack (desk : HalfDesk η) (delivery : Delivery) : HalfDesk η :=
  { desk with exchange := desk.exchange.giveBackBuffer delivery.buffer }

def changeTime (change : Timeline → Timeline) (desk : HalfDesk η) : HalfDesk η :=
  let link := desk.exchange.link
  { desk with exchange := { desk.exchange with link := { link with time := change link.time } } }

def perform (calls : Calls κ η) (action : Action κ) (desk : HalfDesk η) : Reply × HalfDesk η :=
  match action with
  | .call call keep =>
      let (outcome, half, exchange) := calls call desk.half desk.exchange
      let desk := { desk with half, exchange }
      match outcome with
      | .error halt => (.refused halt, desk)
      | .ok none => (.done, desk)
      | .ok (some delivery) =>
          if keep then (.delivered delivery, { desk with kept := desk.kept ++ [delivery] })
          else (.delivered delivery, desk.giveBack delivery)
  | .cancel => (.done, desk.changeTime Timeline.cancel)
  | .sleep millis => (.done, desk.changeTime fun time => time.sleep millis)
  | .takeBytes =>
      match desk.kept.getLast? with
      | some delivery =>
          (.bytes delivery.payload, { desk with kept := desk.kept.dropLast }.giveBack delivery)
      | none => (.missing, desk)
  | .release => (.done, desk.kept.foldl giveBack { desk with kept := [] })

end HalfDesk

end FramedTransport
