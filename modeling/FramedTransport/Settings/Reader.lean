import FramedTransport.Duration.Reader
import FramedTransport.Settings
import FramedTransport.Settings.Document

/-!
Settings read from a document.
Entries change the default settings one after the other, in the order of their
keys; a document that sets anything else, or a value out of its range, is
refused. Settings are checked once all of them are read.
-/

namespace FramedTransport

/-- `malformed` is a document that means no settings; `overflow` is a duration whose sum is
too long; a misfit is a value that was understood and cannot work. -/
inductive Settings.Fault where
  | malformed
  | overflow
  | misfit (misfit : Settings.Misfit)
deriving DecidableEq, Repr

namespace Settings

def countBound : Setting → Nat
  | .backlog => UInt32.size
  | _ => UInt64.size

def countOf (setting : Setting) : Document.Value → Except Fault Value
  | .number value =>
      if 0 ≤ value ∧ value < countBound setting then .ok (.count value.toNat)
      else .error .malformed
  | .text _ => .error .malformed

def spanOf : Document.Value → Except Fault Value
  | .text text =>
      match Duration.ofText text with
      | .ok span => .ok (.span span)
      | .error .malformed => .error .malformed
      | .error .overflow => .error .overflow
  | .number _ => .error .malformed

def valueOf (setting : Setting) (value : Document.Value) : Except Fault Value :=
  if setting.isSpan then spanOf value else countOf setting value

def setAll (settings : Settings) : List (String × Document.Value) → Except Fault Settings
  | [] => .ok settings
  | (key, value) :: rest =>
      match Setting.ofKey? key with
      | none => .error .malformed
      | some setting => do setAll (settings.assign setting (← valueOf setting value)) rest

def ofDocument (document : Document) : Except Fault Settings :=
  setAll {} (document.entries.mergeSort fun first second => first.1 ≤ second.1)

def checked (settings : Settings) : Except Fault Settings :=
  match settings.check with
  | .ok () => .ok settings
  | .error misfit => .error (.misfit misfit)

def ofText (text : String) : Except Fault Settings :=
  match Document.ofText? text with
  | none => .error .malformed
  | some document => do checked (← ofDocument document)

end Settings

end FramedTransport
