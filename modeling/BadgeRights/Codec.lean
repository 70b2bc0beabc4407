import BadgeRights.Json
import BadgeRights.Fault

/-!
Codecs: how values are written as documents and read back. A record is written as an object; it is
read by the names of its fields, so that their order and unknown fields do not matter, or from an
array of its fields in the order of their declaration. The first faulty field is reported: of an
object in the order of the names, of an array in the order of the items. Missing fields are noticed
last.

A value with alternatives is written as a tag beside its content. It is read from an object with
these two entries or from an array of the two. The entries of an object are visited in the order of
their names. Where the name of the content comes before that of the tag, the content is held until
the tag is known, and what is held is read in the lenient manner.
-/

set_option autoImplicit false

namespace BadgeRights

inductive DecodeError where
  | mismatch
  | missing
  | notUnsigned (text : String)
  | negative (n : Int)
  deriving DecidableEq

def DecodeError.message? : DecodeError → Option String
  | mismatch | missing => none
  | notUnsigned text => some (Cause.notUnsigned text).fault.text
  | negative n => some ("negative value -" ++ Text.decimal n.natAbs)

abbrev Decoded (α : Type) := Except DecodeError α

class Codec (α : Type) where
  encode : α → Json
  decode : Json → Decoded α

export Codec (encode decode)

namespace Codec

def Lawful (α : Type) [Codec α] : Prop :=
  ∀ a : α, (decode (encode a) : Decoded α) = .ok a

/-- The largest negative size of an integer that is still told apart from a fraction. -/
def negativeLimit : Nat := 9223372036854775808

def ofInteger : Int → Decoded Nat
  | .ofNat n => .ok n
  | n => .error (.negative n)

@[simp] theorem ofInteger_eq_ok {i : Int} {n : Nat} : ofInteger i = .ok n ↔ i = n := by
  cases i with
  | ofNat m =>
      rw [ofInteger, Except.ok.injEq]
      exact Int.ofNat_inj.symm
  | negSucc m => simp [ofInteger]

def decodeNat : Json → Decoded Nat
  | .integer n =>
      if -(negativeLimit : Int) ≤ n ∧ n ≤ (maxValue : Int) then ofInteger n else .error .mismatch
  | .text s =>
      match Text.numeral? s with
      | some n => .ok n
      | none => .error (.notUnsigned s)
  | _ => .error .mismatch

instance : Codec Nat where
  encode n := .text (Text.decimal n)
  decode := decodeNat

instance : Codec String where
  encode s := .text s
  decode
    | .text s => .ok s
    | _ => .error .mismatch

instance : Codec Bool where
  encode b := .bool b
  decode
    | .bool b => .ok b
    | _ => .error .mismatch

variable {α : Type}

instance [Codec α] : Codec (List α) where
  encode xs := .array (xs.map encode)
  decode
    | .array items => items.mapM decode
    | _ => .error .mismatch

instance [Codec α] : Codec (Option α) where
  encode
    | none => .null
    | some a => encode a
  decode
    | .null => .ok none
    | j => (decode j).map some

abbrev Fields := List (String × Json)

namespace Fields

/-- The value of a field, if it is there. What is missing inside the value makes it a value of another
shape. -/
def read? (read : Json → Decoded α) (fields : Fields) (name : String) : Decoded (Option α) :=
  match fields.lookup name with
  | none => .ok none
  | some j =>
      match read j with
      | .ok a => .ok (some a)
      | .error .missing => .error .mismatch
      | .error e => .error e

def get? [Codec α] (fields : Fields) (name : String) : Decoded (Option α) :=
  read? decode fields name

def getD [Codec α] [Inhabited α] (fields : Fields) (name : String) : Decoded α :=
  (get? fields name).map fun a => a.getD default

end Fields

def known (a : Option α) : Decoded α :=
  match a with
  | some a => .ok a
  | none => .error .mismatch

def required (a : Option α) : Decoded α :=
  match a with
  | some a => .ok a
  | none => .error .missing

def checkField (read : Fields → Decoded α) (field : String × Json) : Decoded Unit :=
  match read [field] with
  | .ok _ | .error .missing => .ok ()
  | .error e => .error e

def record (names : List String) (read : Fields → Decoded α) : Json → Decoded α
  | .object entries => read entries
  | .array items => do
      (names.zip items).forM (checkField read)
      let a ← read (names.zip items)
      if items.length ≤ names.length then return a else .error .mismatch
  | _ => .error .mismatch

inductive Manner where
  | strict
  | lenient
  deriving DecidableEq

/-- An alternative has no content if it comes with null, or in the lenient manner with an object
without entries. -/
def Manner.isNothing : Manner → Json → Bool
  | _, .null => true
  | .lenient, .object [] => true
  | _, _ => false

def nameOf (manner : Manner) (ofName? : String → Option α) : Json → Decoded α
  | .text s => known (ofName? s)
  | .object [(s, j)] => if manner.isNothing j then known (ofName? s) else .error .mismatch
  | _ => .error .mismatch

structure Tagging where
  tags : List String
  tagKey : String
  contentKey : String

namespace Tagging

def tag? (t : Tagging) (name : String) : Option String := t.tags.find? (· == name)

def readItem (t : Tagging) (manner : Manner) : Json → Decoded String
  | .text s => known (t.tag? s)
  | .integer (.ofNat n) => if manner = .lenient then known t.tags[n]? else .error .mismatch
  | _ => .error .mismatch

/-- The content is held, and read in the lenient manner, if its name is visited before the tag's. -/
def contentManner (t : Tagging) (manner : Manner) : Manner :=
  if t.contentKey < t.tagKey then .lenient else manner

def read (t : Tagging) (manner : Manner) (ofTag : Manner → String → Option Json → Decoded α) :
    Json → Decoded α
  | .object entries => do
      let tag ← nameOf manner t.tag? (← required (entries.lookup t.tagKey))
      ofTag (t.contentManner manner) tag (entries.lookup t.contentKey)
  | .array (first :: second :: rest) => do
      let tag ← t.readItem manner first
      let a ← ofTag manner tag (some second)
      if rest.isEmpty then return a else .error .mismatch
  | _ => .error .mismatch

end Tagging

def content [Codec α] (j : Option Json) : Decoded α := do
  decode (← required j)

def noContent (a : α) : Option Json → Decoded α
  | none | some .null => .ok a
  | _ => .error .mismatch

end Codec

end BadgeRights
