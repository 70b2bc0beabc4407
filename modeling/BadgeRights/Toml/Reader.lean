import BadgeRights.Toml.Literal

set_option autoImplicit false

namespace BadgeRights.Toml

def isTomlBlank (c : Char) : Bool := c == ' ' || c == '\t'

def skipTomlBlanks (cs : List Char) : List Char := cs.dropWhile isTomlBlank

def isPlain (c : Char) : Bool := c == '\t' || (0x20 ≤ c.toNat && c.toNat != 0x7F)

def lineBreak? : List Char → Option (List Char)
  | '\n' :: rest => some rest
  | '\r' :: '\n' :: rest => some rest
  | _ => none

def endLine? (cs : List Char) : Option (List Char) :=
  match skipTomlBlanks cs with
  | [] => some []
  | '#' :: rest =>
      match rest.dropWhile isPlain with
      | [] => some []
      | rest => lineBreak? rest
  | rest => lineBreak? rest

def skipLines : Nat → List Char → Option (List Char)
  | 0, cs => some cs
  | fuel + 1, cs =>
      match skipTomlBlanks cs with
      | '\n' :: rest => skipLines fuel rest
      | '\r' :: '\n' :: rest => skipLines fuel rest
      | '#' :: rest => (lineBreak? (rest.dropWhile isPlain)).bind (skipLines fuel)
      | rest => some rest

def scalarValue? (code : Nat) : Option Char :=
  if code < 0xD800 ∨ (0xE000 ≤ code ∧ code < 0x110000) then some (Char.ofNat code) else none

def hexCode? (digits : List Char) : Option Char :=
  if digits.all isHexDigit then scalarValue? (numberOf 16 digits) else none

def tomlEscape? : Char → Option Char
  | 'b' => some '\x08'
  | 't' => some '\t'
  | 'n' => some '\n'
  | 'f' => some '\x0c'
  | 'r' => some '\r'
  | '"' => some '"'
  | '\\' => some '\\'
  | _ => none

def escaped? : List Char → Option (Char × List Char)
  | 'u' :: a :: b :: c :: d :: rest => (hexCode? [a, b, c, d]).map fun x => (x, rest)
  | 'U' :: a :: b :: c :: d :: e :: f :: g :: h :: rest =>
      (hexCode? [a, b, c, d, e, f, g, h]).map fun x => (x, rest)
  | e :: rest => (tomlEscape? e).map fun x => (x, rest)
  | [] => none

abbrev Text? := Option (List Char × List Char)

def basicString (read : List Char) : Nat → List Char → Text?
  | 0, _ => none
  | _ + 1, [] => none
  | _ + 1, '"' :: rest => some (read, rest)
  | fuel + 1, '\\' :: rest =>
      match escaped? rest with
      | some (c, rest) => basicString (c :: read) fuel rest
      | none => none
  | fuel + 1, c :: rest => if isPlain c then basicString (c :: read) fuel rest else none

def literalString (read : List Char) : List Char → Text?
  | [] => none
  | '\'' :: rest => some (read, rest)
  | c :: rest => if isPlain c then literalString (c :: read) rest else none

/-- Up to two quotes in front of the closing ones belong to the string. -/
def extraQuotes (quote : Char) (read : List Char) : List Char → List Char × List Char
  | c :: d :: rest =>
      if c = quote then
        if d = quote then (quote :: quote :: read, rest) else (quote :: read, d :: rest)
      else (read, c :: d :: rest)
  | [c] => if c = quote then (quote :: read, []) else (read, [c])
  | [] => (read, [])

def skipToNextWord? (cs : List Char) : Option (List Char) :=
  (lineBreak? (skipTomlBlanks cs)).bind (skipLinesOnly cs.length)
where
  skipLinesOnly : Nat → List Char → Option (List Char)
    | 0, cs => some cs
    | fuel + 1, cs =>
        match skipTomlBlanks cs with
        | '\n' :: rest => skipLinesOnly fuel rest
        | '\r' :: '\n' :: rest => skipLinesOnly fuel rest
        | rest => some rest

def longBasicString (read : List Char) : Nat → List Char → Text?
  | 0, _ => none
  | _ + 1, [] => none
  | _ + 1, '"' :: '"' :: '"' :: rest => some (extraQuotes '"' read rest)
  | fuel + 1, '\\' :: rest =>
      match escaped? rest with
      | some (c, rest) => longBasicString (c :: read) fuel rest
      | none => (skipToNextWord? rest).bind (longBasicString read fuel)
  | fuel + 1, '\r' :: '\n' :: rest => longBasicString ('\n' :: read) fuel rest
  | fuel + 1, c :: rest =>
      if isPlain c || c == '\n' then longBasicString (c :: read) fuel rest else none

def longLiteralString (read : List Char) : List Char → Text?
  | [] => none
  | '\'' :: '\'' :: '\'' :: rest => some (extraQuotes '\'' read rest)
  | '\r' :: '\n' :: rest => longLiteralString ('\n' :: read) rest
  | c :: rest => if isPlain c || c == '\n' then longLiteralString (c :: read) rest else none

def dropFirstBreak (cs : List Char) : List Char := (lineBreak? cs).getD cs

def shortString? : List Char → Option (String × List Char)
  | '"' :: rest =>
      (basicString [] (rest.length + 1) rest).map fun (read, rest) =>
        (String.ofList read.reverse, rest)
  | '\'' :: rest =>
      (literalString [] rest).map fun (read, rest) => (String.ofList read.reverse, rest)
  | _ => none

def string? : List Char → Option (String × List Char)
  | '"' :: '"' :: '"' :: rest =>
      let rest := dropFirstBreak rest
      (longBasicString [] (rest.length + 1) rest).map fun (read, rest) =>
        (String.ofList read.reverse, rest)
  | '\'' :: '\'' :: '\'' :: rest =>
      (longLiteralString [] (dropFirstBreak rest)).map fun (read, rest) =>
        (String.ofList read.reverse, rest)
  | cs => shortString? cs

def isKeyChar (c : Char) : Bool :=
  Text.isDigit c || ('a' ≤ c && c ≤ 'z') || ('A' ≤ c && c ≤ 'Z') || c == '_' || c == '-'

def keyPart? (cs : List Char) : Option (String × List Char) :=
  match shortString? cs with
  | some part => some part
  | none =>
      let (part, rest) := cs.span isKeyChar
      if part.isEmpty then none else some (String.ofList part, rest)

/-- A key of parts with dots between them: the path, the last part, and what follows. Keys and values
nest less than eighty levels deep, which `depth` counts down. -/
def key? : (depth : Nat) → List Char → Option (List String × String × List Char)
  | 0, _ => none
  | depth + 1, cs =>
      match keyPart? (skipTomlBlanks cs) with
      | none => none
      | some (part, rest) =>
          match skipTomlBlanks rest with
          | '.' :: rest =>
              (key? depth rest).map fun (path, last, rest) => (part :: path, last, rest)
          | rest => some ([], part, rest)

def nestingLimit : Nat := 79

def isLiteralChar (c : Char) : Bool := isKeyChar c || c == '+' || c == '.' || c == ':'

def bareValue? (cs : List Char) : Option (Toml × List Char) :=
  let (literal, rest) := cs.span isLiteralChar
  match rest with
  | ' ' :: digit :: _ =>
      if isDate literal ∧ Text.isDigit digit then
        let (time, rest) := rest.tail.span isLiteralChar
        if isTimeWithOffset time then some (.scalar, rest) else none
      else (literal? literal).map fun v => (v, rest)
  | _ => (literal? literal).map fun v => (v, rest)

mutual

def value? : (fuel depth : Nat) → List Char → Option (Toml × List Char)
  | 0, _, _ => none
  | fuel + 1, depth, cs =>
      match cs with
      | '"' :: _ | '\'' :: _ => (string? cs).map fun (s, rest) => (.text s, rest)
      | '[' :: rest => if depth = 0 then none else items? fuel (depth - 1) [] rest
      | '\x7b' :: rest =>
          if depth = 0 then none
          else
            match skipTomlBlanks rest with
            | '\x7d' :: rest => some (.inline [], rest)
            | rest => pairs? fuel (depth - 1) [] rest
      | _ => bareValue? cs

def items? : (fuel depth : Nat) → List Toml → List Char → Option (Toml × List Char)
  | 0, _, _, _ => none
  | fuel + 1, depth, items, cs =>
      match skipLines cs.length cs with
      | none => none
      | some (']' :: rest) => some (.array items, rest)
      | some cs =>
          match value? fuel depth cs with
          | none => none
          | some (item, rest) =>
              match skipLines rest.length rest with
              | some (',' :: rest) => items? fuel depth (items ++ [item]) rest
              | some (']' :: rest) => some (.array (items ++ [item]), rest)
              | _ => none

def pairs? : (fuel depth : Nat) → Entries → List Char → Option (Toml × List Char)
  | 0, _, _, _ => none
  | fuel + 1, depth, entries, cs =>
      match key? nestingLimit cs with
      | some (path, key, '=' :: rest) =>
          match value? fuel depth (skipTomlBlanks rest) with
          | none => none
          | some (value, rest) =>
              match addAt path key value .header entries, skipTomlBlanks rest with
              | some entries, ',' :: rest => pairs? fuel depth entries rest
              | some entries, '\x7d' :: rest => some (.inline entries, rest)
              | _, _ => none
      | _ => none

end

structure Document where
  root : Entries
  current : List String

def header? (doc : Document) (cs : List Char) : Option (Document × List Char) :=
  match cs with
  | '[' :: '[' :: rest =>
      match key? nestingLimit rest with
      | some (path, key, ']' :: ']' :: rest) =>
          (openItem path key doc.root).map fun root => (⟨root, path ++ [key]⟩, rest)
      | _ => none
  | '[' :: rest =>
      match key? nestingLimit rest with
      | some (path, key, ']' :: rest) =>
          (openTable path key doc.root).map fun root => (⟨root, path ++ [key]⟩, rest)
      | _ => none
  | _ => none

def assignment? (doc : Document) (cs : List Char) : Option (Document × List Char) :=
  match key? nestingLimit cs with
  | some (path, key, '=' :: rest) =>
      match value? (2 * rest.length + 2) nestingLimit (skipTomlBlanks rest) with
      | some (value, rest) =>
          (addTo doc.current path key value doc.root).map fun root => ({ doc with root }, rest)
      | none => none
  | _ => none

def readLines : Nat → Document → List Char → Option Entries
  | 0, _, _ => none
  | fuel + 1, doc, cs =>
      match skipTomlBlanks cs with
      | [] => some doc.root
      | c :: rest =>
          if c = '#' ∨ c = '\n' ∨ c = '\r' then
            (endLine? (c :: rest)).bind (readLines fuel doc)
          else
            match if c = '[' then header? doc (c :: rest) else assignment? doc (c :: rest) with
            | some (doc, rest) => (endLine? rest).bind (readLines fuel doc)
            | none => none

def read? (text : String) : Option Entries :=
  let cs :=
    match text.toList with
    | '\uFEFF' :: rest => rest
    | cs => cs
  readLines (cs.length + 1) ⟨[], []⟩ cs

end BadgeRights.Toml
