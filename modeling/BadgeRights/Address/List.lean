import BadgeRights.Address

set_option autoImplicit false

namespace BadgeRights

structure AddressList where
  listId : String := ""
  addresses : List String := []
  whitelist : Bool
  uri : String := ""
  customData : String := ""
  createdBy : String := ""
  deriving DecidableEq, Inhabited

namespace AddressList

instance : Membership String AddressList :=
  ⟨fun l a => if l.whitelist then a ∈ l.addresses else a ∉ l.addresses⟩

theorem mem_def (a : String) (l : AddressList) :
    a ∈ l ↔ if l.whitelist then a ∈ l.addresses else a ∉ l.addresses := Iff.rfl

def only (addresses : List String) : AddressList := ⟨"", addresses, true, "", "", ""⟩

def allBut (addresses : List String) : AddressList := ⟨"", addresses, false, "", "", ""⟩

def withId (l : AddressList) (id : String) : AddressList := { l with listId := id }

def everyone : AddressList := (allBut []).withId "AllWithMint"

def everyoneButMint : AddressList := (allBut [Address.mint]).withId "AllWithoutMint"

def mintOnly : AddressList := (only [Address.mint]).withId "Mint"

def nobody : AddressList := (only []).withId "None"

def contains (l : AddressList) (address : String) : Bool :=
  l.addresses.contains address == l.whitelist

@[simp] theorem contains_eq_true (l : AddressList) (a : String) : l.contains a = true ↔ a ∈ l := by
  cases h : l.whitelist <;> simp [contains, mem_def, h]

instance (a : String) (l : AddressList) : Decidable (a ∈ l) :=
  decidable_of_iff _ (contains_eq_true l a)

def isEmpty (l : AddressList) : Bool := l.whitelist && l.addresses.isEmpty

theorem not_mem_of_isEmpty (l : AddressList) (h : l.isEmpty = true) (a : String) : ¬a ∈ l := by
  simp_all [isEmpty, mem_def]

def isUniversal (l : AddressList) : Bool := !l.whitelist && l.addresses.isEmpty

def inverted (l : AddressList) : AddressList := { l with whitelist := !l.whitelist }

@[simp] theorem mem_inverted (l : AddressList) (a : String) : a ∈ l.inverted ↔ ¬a ∈ l := by
  cases h : l.whitelist <;> simp [inverted, mem_def, h]

theorem contains_inverted (l : AddressList) (a : String) :
    l.inverted.contains a = !l.contains a := by
  cases h : l.whitelist <;> simp [inverted, contains, h]

@[simp] theorem mem_withId (l : AddressList) (id a : String) : a ∈ l.withId id ↔ a ∈ l := Iff.rfl

/-- The id of the list, or else the id under which a list with its members is reserved. -/
def describe (l : AddressList) : String :=
  if l.listId ≠ "" then l.listId
  else
    match l.whitelist, l.addresses with
    | true, [] => nobody.listId
    | false, [] => everyone.listId
    | true, addresses => String.intercalate ":" addresses
    | false, addresses => "AllWithout" ++ String.intercalate ":" addresses

def orEveryone (l : AddressList) (inUse : Bool) : AddressList :=
  if inUse then l else everyone

def subtract (value handled : AddressList) : AddressList × AddressList :=
  let inHandled := value.addresses.filter handled.addresses.contains
  let notInHandled := value.addresses.filter fun a => !handled.addresses.contains a
  let onlyHandled := handled.addresses.filter fun a => !value.addresses.contains a
  let both := value.addresses ++ onlyHandled
  match value.whitelist, handled.whitelist with
  | true, true => (only notInHandled, only inHandled)
  | true, false => (only inHandled, only notInHandled)
  | false, true => (allBut both, only onlyHandled)
  | false, false => (only onlyHandled, allBut both)

def sameMembers (l m : AddressList) : Bool :=
  l.whitelist == m.whitelist && l.addresses.all m.addresses.contains &&
    m.addresses.all l.addresses.contains

theorem mem_of_sameMembers (l m : AddressList) (same : l.sameMembers m = true) (a : String) :
    a ∈ l ↔ a ∈ m := by
  simp only [sameMembers, Bool.and_eq_true, beq_iff_eq, List.all_eq_true,
    List.contains_iff_mem] at same
  obtain ⟨⟨polarity, left⟩, right⟩ := same
  simp only [mem_def, polarity]
  grind

theorem mem_subtract_left (value handled : AddressList) (a : String) :
    a ∈ (value.subtract handled).1 ↔ a ∈ value ∧ ¬a ∈ handled := by
  cases hv : value.whitelist <;> cases hh : handled.whitelist <;>
    simp [subtract, hv, hh, mem_def, only, allBut] <;> grind

theorem mem_subtract_right (value handled : AddressList) (a : String) :
    a ∈ (value.subtract handled).2 ↔ a ∈ value ∧ a ∈ handled := by
  cases hv : value.whitelist <;> cases hh : handled.whitelist <;>
    simp [subtract, hv, hh, mem_def, only, allBut] <;> grind

end AddressList

end BadgeRights
