import FramedTransport.Handler

/-!
Ready-made answers to a request.
-/

namespace FramedTransport

inductive Behaviour where
  | echo
  | upperCase
  | reverse
  | silent
  | constant (answer : Bytes)
  | describe
  | stripFront (front : Bytes)
deriving DecidableEq, Repr

namespace Behaviour

def upperByte (byte : UInt8) : UInt8 :=
  if 97 ≤ byte ∧ byte ≤ 122 then byte - 32 else byte

def textBytes (text : String) : Bytes := text.toUTF8.toList

def description (request : Request) : String :=
  "|".intercalate
    [request.remote.text, toString request.header.payloadLength,
      toString request.header.frameLength, toString request.payload.length]

def respond (behaviour : Behaviour) (request : Request) : Option Bytes :=
  match behaviour with
  | .echo => some request.payload
  | .upperCase => some (request.payload.map upperByte)
  | .reverse => some request.payload.reverse
  | .silent => none
  | .constant answer => some answer
  | .describe => some (textBytes (description request))
  | .stripFront front =>
      if front.isPrefixOf request.payload then some (request.payload.drop front.length) else none

end Behaviour

end FramedTransport
