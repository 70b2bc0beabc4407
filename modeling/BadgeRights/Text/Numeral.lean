import BadgeRights.Text.Blank

set_option autoImplicit false

namespace BadgeRights.Text

def isDigit (c : Char) : Bool :=
  '0' ≤ c && c ≤ '9'

def digitValue (c : Char) : Nat :=
  c.toNat - '0'.toNat

def ofDigits (cs : List Char) (sofar : Nat) : Nat :=
  cs.foldl (fun n c => 10 * n + digitValue c) sofar

def numeral? (s : String) : Option Nat :=
  let digits := trimBlanks s.toList
  if !digits.isEmpty && digits.all isDigit then some (ofDigits digits 0) else none

def decimal (n : Nat) : String :=
  String.ofList (Nat.toDigits 10 n)

end BadgeRights.Text
