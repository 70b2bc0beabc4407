import BadgeRights.Toml
import BadgeRights.Text.Numeral

set_option autoImplicit false

namespace BadgeRights.Toml

def digits? (isDigit : Char → Bool) : List Char → Option (List Char)
  | [] => none
  | [c] => if isDigit c then some [c] else none
  | c :: '_' :: rest => if isDigit c then (digits? isDigit rest).map (c :: ·) else none
  | c :: rest => if isDigit c then (digits? isDigit rest).map (c :: ·) else none

def hexValue (c : Char) : Nat :=
  if '0' ≤ c ∧ c ≤ '9' then c.toNat - '0'.toNat
  else if 'a' ≤ c ∧ c ≤ 'f' then c.toNat - 'a'.toNat + 10
  else c.toNat - 'A'.toNat + 10

def isHexDigit (c : Char) : Bool :=
  ('0' ≤ c && c ≤ '9') || ('a' ≤ c && c ≤ 'f') || ('A' ≤ c && c ≤ 'F')

def numberOf (base : Nat) (digits : List Char) : Nat :=
  digits.foldl (fun n c => base * n + hexValue c) 0

def integerLimit : Nat := 9223372036854775807

def inBase? (base : Nat) (isDigit : Char → Bool) (cs : List Char) : Option Toml := do
  let digits ← digits? isDigit cs
  let n := numberOf base digits
  if n ≤ integerLimit then some (.integer n) else none

def unsigned : List Char → Bool × List Char
  | '+' :: rest => (false, rest)
  | '-' :: rest => (true, rest)
  | cs => (false, cs)

def decimal? (cs : List Char) : Option (List Char) := do
  let digits ← digits? Text.isDigit cs
  if digits.head? = some '0' ∧ digits.length ≠ 1 then none else some digits

def integer? (cs : List Char) : Option Toml :=
  match cs with
  | '0' :: 'x' :: rest => inBase? 16 isHexDigit rest
  | '0' :: 'o' :: rest => inBase? 8 (fun c => '0' ≤ c && c ≤ '7') rest
  | '0' :: 'b' :: rest => inBase? 2 (fun c => c == '0' || c == '1') rest
  | _ => do
      let (negative, body) := unsigned cs
      let n := numberOf 10 (← decimal? body)
      if negative then
        if n ≤ integerLimit + 1 then some (.integer (-n)) else none
      else if n ≤ integerLimit then some (.integer n) else none

/-- Halfway between the largest finite double and the next power of two: from here on a number is
too large for a double. -/
def doubleLimit : Nat := Nat.pow 2 1024 - Nat.pow 2 970

def isTooLarge (mantissa : Nat) (exponent : Int) : Bool :=
  let size : Int := (Nat.toDigits 10 mantissa).length + exponent
  if mantissa = 0 ∨ size < 309 then false
  else if 309 < size then true
  else if 0 ≤ exponent then decide (doubleLimit ≤ mantissa * Nat.pow 10 exponent.toNat)
  else decide (doubleLimit * Nat.pow 10 (-exponent).toNat ≤ mantissa)

def exponent? (cs : List Char) : Option Int := do
  let (negative, body) := unsigned cs
  let n := numberOf 10 (← digits? Text.isDigit body)
  return if negative then -n else n

def isExponentMark (c : Char) : Bool := c == 'e' || c == 'E'

def float? (cs : List Char) : Option Toml := do
  let (negative, body) := unsigned cs
  if body = "inf".toList ∨ body = "nan".toList then return .scalar
  let (number, exponentPart) := body.span fun c => !isExponentMark c
  let (whole, fractionPart) := number.span (· != '.')
  let whole ← decimal? whole
  let fraction ←
    match fractionPart with
    | [] => some []
    | _ :: rest => digits? Text.isDigit rest
  let exponent ←
    match exponentPart with
    | [] => if fractionPart = [] then none else some 0
    | _ :: rest => exponent? rest
  let mantissa := numberOf 10 (whole ++ fraction)
  if !negative && isTooLarge mantissa (exponent - fraction.length) then none
  else return .scalar

def fixed? (count : Nat) (cs : List Char) : Option (Nat × List Char) :=
  let digits := cs.take count
  if digits.length = count ∧ digits.all Text.isDigit then
    some (numberOf 10 digits, cs.drop count)
  else none

def expect? (c : Char) : List Char → Option (List Char)
  | [] => none
  | d :: rest => if d = c then some rest else none

def daysIn (year month : Nat) : Nat :=
  let leap := year % 4 = 0 ∧ (year % 100 ≠ 0 ∨ year % 400 = 0)
  if month = 2 then (if leap then 29 else 28)
  else if month ∈ [4, 6, 9, 11] then 30
  else 31

def date? (cs : List Char) : Option (List Char) := do
  let (year, cs) ← fixed? 4 cs
  let (month, cs) ← fixed? 2 (← expect? '-' cs)
  let (day, cs) ← fixed? 2 (← expect? '-' cs)
  if 1 ≤ month ∧ month ≤ 12 ∧ 1 ≤ day ∧ day ≤ daysIn year month then some cs else none

def time? (cs : List Char) : Option (List Char) := do
  let (hour, cs) ← fixed? 2 cs
  let (minute, cs) ← fixed? 2 (← expect? ':' cs)
  let (second, cs) ← fixed? 2 (← expect? ':' cs)
  if 23 < hour ∨ 59 < minute ∨ 60 < second then none
  else
    match cs with
    | '.' :: rest =>
        let (digits, rest) := rest.span Text.isDigit
        if digits.isEmpty then none else some rest
    | _ => some cs

def isOffset (cs : List Char) : Bool :=
  match cs with
  | [] | ['Z'] | ['z'] => true
  | sign :: rest =>
      (sign == '+' || sign == '-') &&
        match (do
          let (hour, rest) ← fixed? 2 rest
          let (minute, rest) ← fixed? 2 (← expect? ':' rest)
          return (hour, minute, rest)) with
        | some (hour, minute, rest) => hour ≤ 23 && minute ≤ 59 && rest.isEmpty
        | none => false

def isTimeWithOffset (cs : List Char) : Bool :=
  match time? cs with
  | some rest => isOffset rest
  | none => false

def isDate (cs : List Char) : Bool := date? cs == some []

def isDateOrTime (cs : List Char) : Bool :=
  match date? cs with
  | some [] => true
  | some (separator :: rest) => (separator == 'T' || separator == 't') && isTimeWithOffset rest
  | none => time? cs == some []

def literal? (cs : List Char) : Option Toml :=
  if cs = "true".toList ∨ cs = "false".toList ∨ isDateOrTime cs then some .scalar
  else (integer? cs).orElse fun _ => float? cs

end BadgeRights.Toml
