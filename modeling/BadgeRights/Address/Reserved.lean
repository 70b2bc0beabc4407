import BadgeRights.Address.List

set_option autoImplicit false

namespace BadgeRights.Reserved

def splitColons : List Char → List (List Char)
  | [] => [[]]
  | ':' :: rest => [] :: splitColons rest
  | c :: rest =>
      match splitColons rest with
      | [] => [[c]]
      | part :: parts => (c :: part) :: parts

def addresses? (cs : List Char) : Option (List String) :=
  let parts := splitColons cs
  if parts.all Address.isWellFormedChars then some (parts.map String.ofList) else none

/-- Drops a pair of parentheses around a negated id; one parenthesis alone belongs to the id. -/
def unwrap (cs : List Char) : List Char :=
  match cs with
  | '(' :: rest => if rest.getLast? = some ')' then rest.dropLast else cs
  | _ => cs

theorem length_unwrap_le (cs : List Char) : (unwrap cs).length ≤ cs.length := by
  unfold unwrap
  split
  · split <;> simp; omega
  · exact Nat.le_refl _

def allWithout : List Char := "AllWithout".toList

def plain? (cs : List Char) : Option AddressList :=
  if cs = "Mint".toList then some AddressList.mintOnly
  else if cs = "All".toList || cs = "AllWithMint".toList then some AddressList.everyone
  else if cs = "AllWithoutMint".toList then some AddressList.everyoneButMint
  else if cs = "None".toList then some AddressList.nobody
  else if allWithout.isPrefixOf cs then
    (addresses? (cs.drop allWithout.length)).map AddressList.allBut
  else (addresses? cs).map AddressList.only

def members? : List Char → Option AddressList
  | '!' :: rest => (members? (unwrap rest)).map AddressList.inverted
  | cs => plain? cs
  termination_by cs => cs.length
  decreasing_by
    have := length_unwrap_le rest
    simp only [List.length_cons]
    omega

def list? (id : String) : Option AddressList :=
  (members? id.toList).map fun l => l.withId id

end BadgeRights.Reserved
