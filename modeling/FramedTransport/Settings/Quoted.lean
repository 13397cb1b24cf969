import FramedTransport.Digits

/-!
Text in quotes, in four forms.
Double quotes admit escapes and single quotes take every character as it is;
three quotes in a row open a text that may run over several lines. A reader gets
the characters after the opening quotes and returns those after the closing ones.
-/

namespace FramedTransport.Quoted

/-- What may stand unescaped in a text of one line. -/
def isPlain (c : Char) : Bool := c = '\t' || (' ' ≤ c && c ≠ '\x7f')

def isBlank (c : Char) : Bool := c = ' ' || c = '\t'

def charOf? (digits : List Char) : Option Char :=
  let code := Digits.number 16 digits
  if digits.all (Digits.isDigitOf 16) ∧ code.isValidChar then some (Char.ofNat code) else none

def escape? : Char → Option Char
  | 'b' => some '\x08'
  | 't' => some '\t'
  | 'n' => some '\n'
  | 'f' => some '\x0c'
  | 'r' => some '\r'
  | 'e' => some '\x1b'
  | '"' => some '"'
  | '\\' => some '\\'
  | _ => none

/-- The escaped character after a backslash, and how many characters spell it. -/
def escaped? : List Char → Option (Char × Nat)
  | 'x' :: rest => (charOf? (rest.take 2)).map (·, 3)
  | 'u' :: rest => (charOf? (rest.take 4)).map (·, 5)
  | 'U' :: rest => (charOf? (rest.take 8)).map (·, 9)
  | c :: _ => (escape? c).map (·, 1)
  | [] => none

def literal : List Char → Option (List Char × List Char)
  | [] => none
  | '\'' :: rest => some ([], rest)
  | c :: rest =>
      if isPlain c then (literal rest).map fun (text, rest) => (c :: text, rest) else none

/-- A text with escapes that ends at the next double quote. `spelled` counts the
characters to pass over, which spell an escape that has been read. -/
def basic : (spelled : Nat) → List Char → Option (List Char × List Char)
  | _, [] => none
  | spelled + 1, _ :: rest => basic spelled rest
  | 0, '"' :: rest => some ([], rest)
  | 0, '\\' :: rest =>
      match escaped? rest with
      | some (c, spelled) => (basic spelled rest).map fun (text, rest) => (c :: text, rest)
      | none => none
  | 0, c :: rest =>
      if isPlain c then (basic 0 rest).map fun (text, rest) => (c :: text, rest) else none

/-- The quotes in front: three of them end the text, and up to two before those belong to it. -/
def closing? (quote : Char) (cs : List Char) : Option (List Char × List Char) :=
  let quotes := cs.takeWhile (· = quote)
  if quotes.length < 3 then none
  else
    let kept := min (quotes.length - 3) 2
    some (List.replicate kept quote, cs.drop (kept + 3))

def literalLines : List Char → Option (List Char × List Char)
  | [] => none
  | c :: rest =>
      match closing? '\'' (c :: rest) with
      | some closed => some closed
      | none =>
          let newline := c = '\n' || (c = '\r' && rest.head? == some '\n')
          if isPlain c || newline then
            (literalLines rest).map fun (text, rest) => (c :: text, rest)
          else none

inductive Skip where
  | nothing
  | escape (spelled : Nat)
  | restOfLine
  | blankLines

/-- A text with escapes that ends at three double quotes. A backslash at the end of a line
takes the blank space up to the next visible character with it. -/
def basicLines : Skip → List Char → Option (List Char × List Char)
  | _, [] => none
  | .escape (spelled + 1), _ :: rest => basicLines (.escape spelled) rest
  | skip, c :: rest =>
      let newline := c = '\n' || (c = '\r' && rest.head? == some '\n')
      let onBlankLines := match skip with
        | .blankLines => true
        | _ => false
      let onRestOfLine := match skip with
        | .restOfLine => true
        | _ => false
      if onRestOfLine then
        if c = '\n' then basicLines .blankLines rest
        else if isBlank c || newline then basicLines .restOfLine rest
        else none
      else if onBlankLines && (isBlank c || newline) then
        basicLines .blankLines rest
      else
        match closing? '"' (c :: rest) with
        | some closed => some closed
        | none =>
            if c = '\\' then
              match escaped? rest with
              | some (c, spelled) =>
                  (basicLines (.escape spelled) rest).map fun (text, rest) => (c :: text, rest)
              | none => basicLines .restOfLine rest
            else if isPlain c || newline then
              (basicLines .nothing rest).map fun (text, rest) => (c :: text, rest)
            else none

/-- A newline directly after the opening quotes of several lines is no part of the text. -/
def dropNewline : List Char → List Char
  | '\r' :: '\n' :: rest => rest
  | '\n' :: rest => rest
  | cs => cs

def line? : List Char → Option (List Char × List Char)
  | '"' :: rest => basic 0 rest
  | '\'' :: rest => literal rest
  | _ => none

def text? : List Char → Option (List Char × List Char)
  | '"' :: '"' :: '"' :: rest => basicLines .nothing (dropNewline rest)
  | '\'' :: '\'' :: '\'' :: rest => literalLines (dropNewline rest)
  | cs => line? cs

end FramedTransport.Quoted
