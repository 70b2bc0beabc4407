import BadgeRights.Address.Reserved
import BadgeRights.Fault

set_option autoImplicit false

namespace BadgeRights

abbrev Resolver := String → Checked AddressList

def Resolver.reserved : Resolver := fun id =>
  match Reserved.list? id with
  | some l => .ok l
  | none => refuse (.unknownList id)

structure ListStore where
  lists : List AddressList := []
  deriving DecidableEq, Inhabited

namespace ListStore

def get? (store : ListStore) (id : String) : Option AddressList :=
  store.lists.find? fun l => l.listId == id

def isTaken (id : String) : Bool :=
  (Reserved.list? id).isSome || id.toList.head? == some '!'

def insert (store : ListStore) (l : AddressList) : Checked ListStore :=
  if l.listId = "" then refuse .emptyListId
  else if isTaken l.listId then refuse (.reservedListId l.listId)
  else .ok ⟨l :: store.lists⟩

def ofList (lists : List AddressList) : Checked ListStore :=
  lists.foldlM insert {}

def negated? (id : String) : Option String :=
  match id.toList with
  | '!' :: rest => some (String.ofList (Reserved.unwrap rest))
  | _ => none

def resolve (store : ListStore) : Resolver := fun id =>
  match Reserved.list? id with
  | some l => .ok l
  | none =>
      match store.get? id with
      | some l => .ok l
      | none =>
          match (negated? id).bind store.get? with
          | some l => .ok (l.inverted.withId id)
          | none => refuse (.unknownList id)

end ListStore

end BadgeRights
