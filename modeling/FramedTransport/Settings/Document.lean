import FramedTransport.Settings.Quoted

/-!
Documents of settings: one `key = value` a line.
A value is a whole number or a text in quotes. Blank lines and comments say
nothing, and no key is set twice.
-/

namespace FramedTransport

inductive Document.Value where
  | number (value : Int)
  | text (value : String)
deriving DecidableEq, Repr

structure Document where
  entries : List (String × Document.Value)
deriving DecidableEq, Repr

namespace Document

def skipBlank (cs : List Char) : List Char := cs.dropWhile Quoted.isBlank

def isKeyChar (c : Char) : Bool := c.isAlphanum || c = '_' || c = '-'

def key? (cs : List Char) : Option (String × List Char) :=
  let bare := cs.takeWhile isKeyChar
  if bare.isEmpty then (Quoted.line? cs).map fun (text, rest) => (String.ofList text, rest)
  else some (String.ofList bare, cs.dropWhile isKeyChar)

def decimal? (digits : List Char) : Option Nat := do
  let plain ← Digits.ungrouped? 10 digits
  if plain.head? = some '0' ∧ 1 < plain.length then none else some (Digits.number 10 plain)

def radix? : Char → Option Nat
  | 'x' => some 16
  | 'o' => some 8
  | 'b' => some 2
  | _ => none

def number? : List Char → Option Int
  | '+' :: digits => (decimal? digits).map Int.ofNat
  | '-' :: digits => (decimal? digits).map fun value => -Int.ofNat value
  | '0' :: marker :: digits =>
      match radix? marker with
      | some radix => (Digits.ungrouped? radix digits).map fun plain => Digits.number radix plain
      | none => (decimal? ('0' :: marker :: digits)).map Int.ofNat
  | digits => (decimal? digits).map Int.ofNat

def isNumberChar (c : Char) : Bool := c.isAlphanum || c = '_' || c = '+' || c = '-' || c = '.'

def value? (cs : List Char) : Option (Value × List Char) :=
  match Quoted.text? cs with
  | some (text, rest) => some (.text (String.ofList text), rest)
  | none =>
      (number? (cs.takeWhile isNumberChar)).map fun number =>
        (.number number, cs.dropWhile isNumberChar)

def entry? (cs : List Char) : Option ((String × Value) × List Char) := do
  let (key, rest) ← key? cs
  match skipBlank rest with
  | '=' :: rest => do
      let (value, rest) ← value? (skipBlank rest)
      return ((key, value), rest)
  | _ => none

def skipComment : List Char → List Char
  | '#' :: rest => rest.dropWhile Quoted.isPlain
  | cs => cs

def lineEnd? (cs : List Char) : Option (List Char) :=
  match skipComment (skipBlank cs) with
  | [] => some []
  | '\n' :: rest => some rest
  | '\r' :: '\n' :: rest => some rest
  | _ => none

def line? (cs : List Char) : Option (Option (String × Value) × List Char) :=
  match lineEnd? cs with
  | some rest => some (none, rest)
  | none => do
      let (entry, rest) ← entry? (skipBlank cs)
      let rest ← lineEnd? rest
      return (some entry, rest)

def lines? (cs : List Char) : Option (List (String × Value)) :=
  if cs.isEmpty then some []
  else
    match line? cs with
    | none => none
    | some (entry, rest) =>
        if rest.length < cs.length then (lines? rest).map (entry.toList ++ ·) else none
termination_by cs.length

/-- The document that a text writes, after a byte order mark if there is one. -/
def ofText? (text : String) : Option Document := do
  let cs := text.toList
  let entries ← lines? (if cs.head? = some '\ufeff' then cs.drop 1 else cs)
  if (entries.map Prod.fst).Nodup then some { entries } else none

end Document

end FramedTransport
