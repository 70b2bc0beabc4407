set_option autoImplicit false

namespace BadgeRights.Address

def mint : String := "Mint"

def isHexDigit (c : Char) : Bool :=
  ('0' ≤ c && c ≤ '9') || ('a' ≤ c && c ≤ 'f') || ('A' ≤ c && c ≤ 'F')

def isLowercase (c : Char) : Bool :=
  'a' ≤ c && c ≤ 'z'

def base32 : List Char := "qpzry9x8gf2tvdw0s3jn54khce6mua7l".toList

def isHex (cs : List Char) : Bool :=
  cs.length == 40 && cs.all isHexDigit

def atLastSeparator? (cs : List Char) : Option (List Char × List Char) :=
  match cs.reverse.span (· != '1') with
  | (_, []) => none
  | (dataReversed, _ :: hrpReversed) => some (hrpReversed.reverse, dataReversed.reverse)

def isBech32 (cs : List Char) : Bool :=
  match atLastSeparator? cs with
  | none => false
  | some (hrp, data) =>
      !hrp.isEmpty && hrp.all isLowercase && decide (6 ≤ data.length) && data.all base32.contains

/-- Holds for the three forms of address. A text that starts with `0x` can only be of the second. -/
def isWellFormedChars (cs : List Char) : Bool :=
  if cs = mint.toList then true
  else
    match cs with
    | '0' :: 'x' :: hex => isHex hex
    | _ => isBech32 cs

def isWellFormed (address : String) : Bool :=
  isWellFormedChars address.toList

end BadgeRights.Address
