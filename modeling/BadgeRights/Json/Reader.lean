import BadgeRights.Json
import BadgeRights.Text.Numeral

set_option autoImplicit false

namespace BadgeRights.Json

def isJsonBlank (c : Char) : Bool :=
  c == ' ' || c == '\t' || c == '\n' || c == '\r'

def skipBlanks (cs : List Char) : List Char :=
  cs.dropWhile isJsonBlank

def hexDigit? (c : Char) : Option Nat :=
  if '0' ≤ c ∧ c ≤ '9' then some (c.toNat - '0'.toNat)
  else if 'a' ≤ c ∧ c ≤ 'f' then some (c.toNat - 'a'.toNat + 10)
  else if 'A' ≤ c ∧ c ≤ 'F' then some (c.toNat - 'A'.toNat + 10)
  else none

def hexNumber? (digits : List Char) : Option Nat :=
  digits.foldlM (fun n c => (hexDigit? c).map fun d => 16 * n + d) 0

inductive Piece where
  | char (c : Char)
  | unit (code : Nat)

def simpleEscape? : Char → Option Char
  | '"' => some '"'
  | '\\' => some '\\'
  | '/' => some '/'
  | 'b' => some '\x08'
  | 'f' => some '\x0c'
  | 'n' => some '\n'
  | 'r' => some '\r'
  | 't' => some '\t'
  | _ => none

/-- The pieces of a string literal behind its opening quote, last piece first, and what follows the
closing quote. -/
def readPieces (pieces : List Piece) : List Char → Option (List Piece × List Char)
  | [] => none
  | '"' :: rest => some (pieces, rest)
  | '\\' :: 'u' :: a :: b :: c :: d :: rest =>
      match hexNumber? [a, b, c, d] with
      | some code => readPieces (.unit code :: pieces) rest
      | none => none
  | '\\' :: e :: rest =>
      match simpleEscape? e with
      | some c => readPieces (.char c :: pieces) rest
      | none => none
  | c :: rest => if c.toNat < 0x20 then none else readPieces (.char c :: pieces) rest

def isHighSurrogate (code : Nat) : Bool := 0xD800 ≤ code && code < 0xDC00

def isLowSurrogate (code : Nat) : Bool := 0xDC00 ≤ code && code < 0xE000

/-- Joins code units to characters; a surrogate without its partner stands for none. -/
def assemble? : List Piece → Option (List Char)
  | [] => some []
  | .char c :: rest => (assemble? rest).map (c :: ·)
  | .unit high :: .unit low :: rest =>
      if isHighSurrogate high && isLowSurrogate low then
        let code := 0x10000 + (high - 0xD800) * 0x400 + (low - 0xDC00)
        (assemble? rest).map (Char.ofNat code :: ·)
      else if isHighSurrogate high || isLowSurrogate high then none
      else (assemble? (.unit low :: rest)).map (Char.ofNat high :: ·)
  | .unit code :: rest =>
      if isHighSurrogate code || isLowSurrogate code then none
      else (assemble? rest).map (Char.ofNat code :: ·)

def readText (cs : List Char) : Option (Option String × List Char) :=
  match readPieces [] cs with
  | none => none
  | some (pieces, rest) => some ((assemble? pieces.reverse).map String.ofList, rest)

def isNumberChar (c : Char) : Bool :=
  Text.isDigit c || c == '-' || c == '+' || c == '.' || c == 'e' || c == 'E'

def isWholePart (cs : List Char) : Bool :=
  !cs.isEmpty && (cs.head? != some '0' || cs.length == 1)

def isExponent : List Char → Bool
  | '+' :: digits | '-' :: digits | digits => !digits.isEmpty && digits.all Text.isDigit

def isFractionTail (cs : List Char) : Bool :=
  match cs with
  | '.' :: rest =>
      let (digits, tail) := rest.span Text.isDigit
      !digits.isEmpty &&
        match tail with
        | [] => true
        | e :: exponent => (e == 'e' || e == 'E') && isExponent exponent
  | e :: exponent => (e == 'e' || e == 'E') && isExponent exponent
  | [] => false

def number? (literal : List Char) : Option Json :=
  let (negative, unsigned) :=
    match literal with
    | '-' :: rest => (true, rest)
    | _ => (false, literal)
  let (whole, tail) := unsigned.span Text.isDigit
  if !isWholePart whole then none
  else
    let size := Text.ofDigits whole 0
    match tail with
    | [] =>
        if !negative then some (.integer size)
        else if size = 0 then some (.fraction (String.ofList literal))
        else some (.integer (-size))
    | _ => if isFractionTail tail then some (.fraction (String.ofList literal)) else none

def ofEntries (reversed : List (Option String × Json)) : Json :=
  match reversed.reverse.mapM fun (key, value) => key.map fun k => (k, value) with
  | some entries => .object entries
  | none => .noText

mutual

/-- Reads a value. The fuel bounds the steps; twice the length of the text is enough, because every
second step consumes a character. -/
def readValue : Nat → List Char → Option (Json × List Char)
  | 0, _ => none
  | fuel + 1, cs =>
      match skipBlanks cs with
      | '"' :: rest =>
          (readText rest).map fun (content, rest) => (content.elim .noText .text, rest)
      | '[' :: rest =>
          match skipBlanks rest with
          | ']' :: rest => some (.array [], rest)
          | rest => readItems fuel [] rest
      | '{' :: rest =>
          match skipBlanks rest with
          | '}' :: rest => some (.object [], rest)
          | rest => readEntries fuel [] rest
      | 'n' :: 'u' :: 'l' :: 'l' :: rest => some (.null, rest)
      | 't' :: 'r' :: 'u' :: 'e' :: rest => some (.bool true, rest)
      | 'f' :: 'a' :: 'l' :: 's' :: 'e' :: rest => some (.bool false, rest)
      | rest =>
          let (literal, rest) := rest.span isNumberChar
          (number? literal).map fun n => (n, rest)

def readItems : Nat → List Json → List Char → Option (Json × List Char)
  | 0, _, _ => none
  | fuel + 1, items, cs =>
      match readValue fuel cs with
      | none => none
      | some (item, rest) =>
          match skipBlanks rest with
          | ',' :: rest => readItems fuel (item :: items) rest
          | ']' :: rest => some (.array (item :: items).reverse, rest)
          | _ => none

def readEntries : Nat → List (Option String × Json) → List Char → Option (Json × List Char)
  | 0, _, _ => none
  | fuel + 1, entries, cs =>
      match skipBlanks cs with
      | '"' :: rest =>
          match readText rest with
          | none => none
          | some (key, rest) =>
              match skipBlanks rest with
              | ':' :: rest =>
                  match readValue fuel rest with
                  | none => none
                  | some (value, rest) =>
                      match skipBlanks rest with
                      | ',' :: rest => readEntries fuel ((key, value) :: entries) rest
                      | '}' :: rest => some (ofEntries ((key, value) :: entries), rest)
                      | _ => none
              | _ => none
      | _ => none

end

def read? (text : String) : Option Json :=
  let cs := text.toList
  match readValue (2 * cs.length + 2) cs with
  | some (value, rest) => if (skipBlanks rest).isEmpty then some value else none
  | none => none

end BadgeRights.Json
