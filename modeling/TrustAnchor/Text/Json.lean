import TrustAnchor.Text.Decimal
import TrustAnchor.Text.Hex

/-!
JSON texts, read strictly: one value with white space around it, and nothing else.  Each reader gives what
it read and the characters after it.

Objects keep their members in the order of the text, repeated names included, because a reader of a document
may have to refuse a repetition.  Of numbers only those are kept that are written as whole numbers without a
sign and fit in 64 bits; of the others it is only known that they are numbers.
-/

namespace TrustAnchor

inductive Json
  | null
  | bool (b : Bool)
  /-- A whole number of at most 64 bits without sign, fraction or exponent. -/
  | natural (n : Nat)
  /-- Any other number. -/
  | number
  | string (text : String)
  | array (elements : List Json)
  | object (members : List (String × Json))
  deriving Repr

namespace Json

def isSpace (c : Char) : Bool := c = ' ' || c = '\t' || c = '\n' || c = '\r'

def skipSpace (text : List Char) : List Char := text.dropWhile isSpace

/-! ## Strings

A string is read in two passes.  The first finds its end and takes escapes for what they are alone; the second
puts the halves of surrogate pairs together.  Both take the last piece first, as the first pass left them. -/

/-- A piece of a string: a character, or a unit of 16 bits that was written by its digits. -/
inductive Piece
  | char (c : Char)
  | unit (n : Nat)
  deriving DecidableEq, Repr

/-- The unit with four hexadecimal digits. -/
def unit? (a b c d : Char) : Option Piece := do
  let a ← Hex.codeValue? a.toNat
  let b ← Hex.codeValue? b.toNat
  let c ← Hex.codeValue? c.toNat
  let d ← Hex.codeValue? d.toNat
  return .unit (((a * 16 + b) * 16 + c) * 16 + d)

/-- The character that a letter behind a backslash stands for. -/
def escaped? : Char → Option Piece
  | '"' => some (.char '"')
  | '\\' => some (.char '\\')
  | '/' => some (.char '/')
  | 'b' => some (.char (Char.ofNat 8))
  | 'f' => some (.char (Char.ofNat 12))
  | 'n' => some (.char '\n')
  | 'r' => some (.char '\r')
  | 't' => some (.char '\t')
  | _ => none

/-- A character that stands for itself: any but the control characters. -/
def plain? (c : Char) : Option Piece := if c.toNat < 32 then none else some (.char c)

/-- The pieces up to the closing quote, put before those already read. -/
def pieces? (read : List Piece) : List Char → Option (List Piece × List Char)
  | [] => none
  | '"' :: rest => some (read, rest)
  | ['\\'] => none
  | '\\' :: 'u' :: a :: b :: c :: d :: rest => do
    let piece ← unit? a b c d
    pieces? (piece :: read) rest
  | '\\' :: c :: rest => do
    let piece ← escaped? c
    pieces? (piece :: read) rest
  | c :: rest => do
    let piece ← plain? c
    pieces? (piece :: read) rest

def isHighSurrogate (n : Nat) : Bool := 0xD800 ≤ n && n < 0xDC00

def isLowSurrogate (n : Nat) : Bool := 0xDC00 ≤ n && n < 0xE000

/-- The character of a surrogate pair. -/
def pairChar (high low : Nat) : Char :=
  Char.ofNat (0x10000 + (high - 0xD800) * 0x400 + (low - 0xDC00))

/-- The characters of pieces, put before a text.  A low surrogate needs a high one before it, and a high one
that is not followed by a low one is no character. -/
def join? (text : List Char) : List Piece → Option (List Char)
  | [] => some text
  | .char c :: earlier => join? (c :: text) earlier
  | .unit n :: earlier =>
    if isLowSurrogate n then
      match earlier with
      | .unit high :: earlier =>
        if isHighSurrogate high then join? (pairChar high n :: text) earlier else none
      | _ => none
    else if isHighSurrogate n then none
    else join? (Char.ofNat n :: text) earlier

/-- A string, after its opening quote. -/
def string? (text : List Char) : Option (String × List Char) := do
  let (pieces, rest) ← pieces? [] text
  let body ← join? [] pieces
  return (String.ofList body, rest)

/-! ## Numbers -/

def digits (text : List Char) : List Char × List Char := text.span Char.isDigit

/-- Whole numbers are kept up to here. -/
def naturalLimit : Nat := 18446744073709551616

/-- The digits before a fraction: a zero alone, or digits that begin with another one. -/
def wholePart? (text : List Char) : Option (List Char × List Char) :=
  match digits text with
  | ([], _) => none
  | (['0'], rest) => some (['0'], rest)
  | ('0' :: _, _) => none
  | (ds, rest) => some (ds, rest)

/-- One or more digits. -/
def someDigits? (text : List Char) : Option (List Char) :=
  match digits text with
  | ([], _) => none
  | (_, rest) => some rest

/-- What follows a fraction, and whether there was one. -/
def fraction? : List Char → Option (Bool × List Char)
  | '.' :: rest => (someDigits? rest).map fun rest => (true, rest)
  | text => some (false, text)

def afterSign : List Char → List Char
  | '+' :: rest => rest
  | '-' :: rest => rest
  | text => text

/-- What follows an exponent, and whether there was one. -/
def exponent? : List Char → Option (Bool × List Char)
  | 'e' :: rest => (someDigits? (afterSign rest)).map fun rest => (true, rest)
  | 'E' :: rest => (someDigits? (afterSign rest)).map fun rest => (true, rest)
  | text => some (false, text)

/-- A number, after its sign. -/
def number? (negative : Bool) (text : List Char) : Option (Json × List Char) := do
  let (whole, rest) ← wholePart? text
  let (hasFraction, rest) ← fraction? rest
  let (hasExponent, rest) ← exponent? rest
  if negative || hasFraction || hasExponent then return (.number, rest)
  else
    match Decimal.below? naturalLimit whole with
    | some n => return (.natural n, rest)
    | none => return (.number, rest)

/-! ## Values -/

/-- Removes a word from the front of a text. -/
def word? (word : String) (text : List Char) : Option (List Char) :=
  if word.toList.isPrefixOf text then some (text.drop word.length) else none

/-- How deep arrays and objects may stand in one another. -/
def depthLimit : Nat := 127

mutual

/-- A value, with white space before it.  `fuel` bounds how many values stand in one another and side by side,
`depth` how many more arrays and objects may be opened in one another. -/
def value? : (fuel depth : Nat) → List Char → Option (Json × List Char)
  | 0, _, _ => none
  | fuel + 1, depth, text =>
    match skipSpace text with
    | '"' :: rest => (string? rest).map fun (s, rest) => (.string s, rest)
    | '{' :: rest =>
      match depth with
      | 0 => none
      | depth + 1 =>
        match skipSpace rest with
        | '}' :: rest => some (.object [], rest)
        | rest => members? fuel depth [] rest
    | '[' :: rest =>
      match depth with
      | 0 => none
      | depth + 1 =>
        match skipSpace rest with
        | ']' :: rest => some (.array [], rest)
        | rest => elements? fuel depth [] rest
    | '-' :: rest => number? true rest
    | 'n' :: rest => (word? "ull" rest).map fun rest => (.null, rest)
    | 't' :: rest => (word? "rue" rest).map fun rest => (.bool true, rest)
    | 'f' :: rest => (word? "alse" rest).map fun rest => (.bool false, rest)
    | rest => number? false rest

/-- One or more elements behind those already read, and the closing bracket.  The last one read comes first. -/
def elements? : (fuel depth : Nat) → List Json → List Char → Option (Json × List Char)
  | 0, _, _, _ => none
  | fuel + 1, depth, read, text => do
    let (element, rest) ← value? fuel depth text
    match skipSpace rest with
    | ']' :: rest => return (.array (element :: read).reverse, rest)
    | ',' :: rest => elements? fuel depth (element :: read) rest
    | _ => none

/-- One or more members behind those already read, and the closing brace.  The last one read comes first. -/
def members? : (fuel depth : Nat) → List (String × Json) → List Char → Option (Json × List Char)
  | 0, _, _, _ => none
  | fuel + 1, depth, read, text =>
    match skipSpace text with
    | '"' :: rest => do
      let (name, rest) ← string? rest
      match skipSpace rest with
      | ':' :: rest =>
        let (value, rest) ← value? fuel depth rest
        match skipSpace rest with
        | '}' :: rest => return (.object ((name, value) :: read).reverse, rest)
        | ',' :: rest => members? fuel depth ((name, value) :: read) rest
        | _ => none
      | _ => none
    | _ => none

end

/-- The value that a whole text is. -/
def parse? (text : String) : Option Json := do
  let chars := text.toList
  let (value, rest) ← value? (chars.length + 1) depthLimit chars
  if skipSpace rest = [] then return value else none

end Json
end TrustAnchor
