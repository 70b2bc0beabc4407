import BadgeRights.Codec
import BadgeRights.Proofs.Outline

set_option autoImplicit false

namespace BadgeRights

namespace Text

theorem isDigit_of_mem_toDigits {n : Nat} {c : Char} (h : c ∈ Nat.toDigits 10 n) :
    isDigit c = true := by
  have digit := Nat.isDigit_of_mem_toDigits (by decide) (by decide) h
  simpa [isDigit, Char.isDigit, Char.le_def] using digit

theorem not_isBlank_of_isDigit {c : Char} (h : isDigit c = true) : ¬isBlank c = true := by
  have bounds : 48 ≤ c.toNat ∧ c.toNat ≤ 57 := by
    simpa [isDigit, Char.le_def, UInt32.le_iff_toNat_le] using h
  simp only [isBlank, Bool.or_eq_true, Bool.and_eq_true, decide_eq_true_eq, beq_iff_eq]
  omega

theorem trimBlanks_of_isDigit {cs : List Char} (digits : ∀ c ∈ cs, isDigit c = true) :
    trimBlanks cs = cs := by
  have solid (xs : List Char) (h : ∀ c ∈ xs, isDigit c = true) : xs.dropWhile isBlank = xs := by
    cases xs with
    | nil => rfl
    | cons c rest =>
        exact List.dropWhile_cons_of_neg (not_isBlank_of_isDigit (h c List.mem_cons_self))
  rw [trimBlanks, solid cs digits, solid, List.reverse_reverse]
  exact fun c hc => digits c (List.mem_reverse.1 hc)

@[simp] theorem numeral?_decimal (n : Nat) : numeral? (decimal n) = some n := by
  have digits : ∀ c ∈ Nat.toDigits 10 n, isDigit c = true := fun c => isDigit_of_mem_toDigits
  have value : ofDigits (Nat.toDigits 10 n) 0 = n := Nat.ofDigitChars_ten_toDigits
  rw [numeral?, decimal, String.toList_ofList, trimBlanks_of_isDigit digits]
  simp [Nat.toDigits_ne_nil, List.all_eq_true.2 digits, value]

end Text

open Outline

/-- A codec that reads every document which the outline of a value allows as the value; what is
written is the outline in full. -/
class LawfulCodec (α : Type) [Codec α] where
  outline : α → Outline
  json_outline (a : α) : (outline a).json = encode a
  decode_of_allows {a : α} {j : Json} : (outline a).Allows j → (decode j : Decoded α) = .ok a

export LawfulCodec (outline json_outline decode_of_allows)

namespace Codec

instance : LawfulCodec Nat where
  outline n := .text (Text.decimal n)
  json_outline _ := rfl
  decode_of_allows {n j} allowed := by
    cases allowed
    change decodeNat _ = _
    rw [decodeNat, Text.numeral?_decimal]

theorem decode_integer_eq_ok {i : Int} {n : Nat} :
    (decode (.integer i) : Decoded Nat) = .ok n ↔ i = n ∧ n ≤ maxValue := by
  change decodeNat _ = _ ↔ _
  rw [decodeNat]
  split
  · rw [ofInteger_eq_ok]
    omega
  · simp only [reduceCtorEq, false_iff]
    omega

instance : LawfulCodec String where
  outline := .text
  json_outline _ := rfl
  decode_of_allows allowed := by
    cases allowed
    rfl

instance : LawfulCodec Bool where
  outline := .bool
  json_outline _ := rfl
  decode_of_allows allowed := by
    cases allowed
    rfl

section Combinators

variable {α : Type} [Codec α]

theorem decode_some {j : Json} {a : α} (h : j ≠ .null) (decoded : (decode j : Decoded α) = .ok a) :
    (decode j : Decoded (Option α)) = .ok (some a) := by
  have inner : (decode j : Decoded (Option α)) = (decode j : Decoded α).map some := by
    cases j with
    | null => exact absurd rfl h
    | _ => rfl
  rw [inner, decoded]
  rfl

variable [LawfulCodec α]

theorem lawful_of_outline : Lawful α := by
  intro a
  have allowed := (outline a).allows_json
  rw [json_outline] at allowed
  exact decode_of_allows allowed

theorem mapM_decode {xs : List α} {shown : List Json}
    (allowed : AllowsItems (xs.map outline) shown) :
    (shown.mapM decode : Decoded (List α)) = .ok xs := by
  induction xs generalizing shown with
  | nil =>
      cases allowed
      rfl
  | cons x rest ih =>
      cases allowed with
      | cons first later =>
          rw [List.mapM_cons, decode_of_allows first, ih later]
          rfl

instance : LawfulCodec (List α) where
  outline xs := .array (xs.map outline)
  json_outline xs := by
    simp only [json, jsonItems_eq_map, List.map_map, Function.comp_def, json_outline]
    rfl
  decode_of_allows allowed := by
    cases allowed with
    | array shown => exact mapM_decode shown

class NeverNull (α : Type) [Codec α] [LawfulCodec α] : Prop where
  outline_ne_null (a : α) : outline a ≠ .null

instance : NeverNull Nat := ⟨nofun⟩

instance [NeverNull α] : LawfulCodec (Option α) where
  outline
    | none => .null
    | some a => outline a
  json_outline
    | none => rfl
    | some a => json_outline a
  decode_of_allows {a j} allowed := by
    cases a with
    | none =>
        cases allowed
        rfl
    | some a =>
        have present := ne_null_of_allows (NeverNull.outline_ne_null a) allowed
        exact decode_some present (decode_of_allows allowed)

end Combinators

theorem nameOf_of_allows {α : Type} {manner : Manner} {ofName? : String → Option α} {name : String}
    {a : α} {j : Json} (named : ofName? name = some a) (allowed : (Outline.text name).Allows j) :
    nameOf manner ofName? j = .ok a := by
  cases allowed
  rw [nameOf, named]
  rfl

inductive Field (R : Type) : Type 1 where
  | required {α : Type} [Codec α] [LawfulCodec α] (name : String) (get : R → α)
  | optional {α : Type} [Codec α] [LawfulCodec α] [Inhabited α] [DecidableEq α] (name : String)
      (get : R → α)

namespace Field

variable {R : Type}

def name : Field R → String
  | required name _ | optional name _ => name

def entry (r : R) : Field R → String × Json
  | required name get | optional name get => (name, encode (get r))

def outlined (r : R) : Field R → String × Bool × Outline
  | required name get => (name, false, outline (get r))
  | optional name get => (name, get r = default, outline (get r))

-- A required field is only known to be there once all fields have been read.
def Found (fields : Fields) (r : R) : Field R → Prop
  | required name get => fields.get? name = .ok (some (get r))
  | optional name get => fields.getD name = .ok (get r)

theorem outlined_fst (r : R) (field : Field R) : (field.outlined r).1 = field.name := by
  cases field <;> rfl

theorem json_outlined (r : R) (field : Field R) :
    ((field.outlined r).1, (field.outlined r).2.2.json) = field.entry r := by
  cases field <;> simp only [outlined, entry, json_outline]

section Lookup

variable {α : Type} {fields : Fields} {name : String} {j : Json} {a : α}

theorem read?_eq {read : Json → Decoded α} (found : fields.lookup name = some j)
    (reads : read j = .ok a) : fields.read? read name = .ok (some a) := by
  simp only [Fields.read?, found, reads]

variable [Codec α]

theorem get?_eq (found : fields.lookup name = some j) (decoded : (decode j : Decoded α) = .ok a) :
    fields.get? name = .ok (some a) :=
  read?_eq found decoded

theorem getD_eq [Inhabited α] (found : fields.lookup name = some j)
    (decoded : (decode j : Decoded α) = .ok a) : fields.getD name = .ok a := by
  rw [Fields.getD, get?_eq found decoded]
  rfl

theorem getD_missing [Inhabited α] (missing : fields.lookup name = none) :
    fields.getD name = .ok (default : α) := by
  rw [Fields.getD, Fields.get?, Fields.read?, missing]
  rfl

end Lookup

theorem found_of_shows {r : R} {all : List (Field R)} {fields : Fields}
    (shows : Shows (all.map (outlined r)) fields) : all.Forall (Found fields r) := by
  rw [List.forall_iff_forall_mem]
  intro field hfield
  have listed := shows.listed _ (List.mem_map_of_mem hfield)
  cases field with
  | required name get =>
      rcases listed with ⟨j, found, allowed⟩ | ⟨marked, _⟩
      · exact get?_eq found (decode_of_allows allowed)
      · cases marked
  | optional name get =>
      rcases listed with ⟨j, found, allowed⟩ | ⟨marked, missing⟩
      · exact getD_eq found (decode_of_allows allowed)
      · have same : get r = default := of_decide_eq_true marked
        rw [Found, same]
        exact getD_missing missing

end Field

/-- A record is written field by field, and it is read off what is found of its fields. If its codec
goes through the fields one by one, then the list of them is all that has to be given. -/
class RecordCodec (R : Type) [Codec R] where
  fields : List (Field R)
  distinct : (fields.map Field.name).Nodup := by decide
  encode_eq (r : R) : encode r = .object (fields.map (Field.entry r)) := by
    intro r
    rfl
  decode_of_found {r : R} {entries : Fields} : fields.Forall (Field.Found entries r) →
      (decode (.object entries) : Decoded R) = .ok r := by
    intro r entries found
    simp only [List.Forall, Field.Found] at found
    -- With every field replaced by its value, nothing is left to read.
    simp only [decode, record, found]
    rfl

section Records

variable {R : Type} [Codec R] [RecordCodec R]

theorem RecordCodec.nodup_outlined (r : R) :
    ((fields.map (Field.outlined r)).map Prod.fst).Nodup := by
  rw [List.map_map, List.map_congr_left fun field _ => field.outlined_fst r]
  exact distinct

instance : LawfulCodec R where
  outline r := .object (RecordCodec.fields.map (Field.outlined r))
  json_outline r := by
    rw [json, jsonEntries_eq_map, List.map_map, RecordCodec.encode_eq r]
    exact congrArg Json.object (List.map_congr_left fun field _ => field.json_outlined r)
  decode_of_allows {r j} allowed := by
    obtain ⟨entries, rfl, shows⟩ := shows_of_allows (RecordCodec.nodup_outlined r) allowed
    exact RecordCodec.decode_of_found (Field.found_of_shows shows)

instance : NeverNull R := ⟨nofun⟩

end Records

namespace Tagging

variable {α β : Type} {t : Tagging} {tag : String} {manner : Manner}
  {ofTag : Manner → String → Option Json → Decoded β} {j : Json}

def outline (t : Tagging) (tag : String) : Option Outline → Outline
  | none => .object [(t.tagKey, false, .text tag)]
  | some content => .object [(t.tagKey, false, .text tag), (t.contentKey, false, content)]

theorem tag?_of_mem (known : tag ∈ t.tags) : t.tag? tag = some tag := by
  have found : (t.tag? tag).isSome := List.find?_isSome.2 ⟨tag, known, beq_self_eq_true tag⟩
  obtain ⟨other, hother⟩ := Option.isSome_iff_exists.1 found
  have same : (other == tag) = true := List.find?_some (p := (· == tag)) hother
  rw [hother, beq_iff_eq.1 same]

theorem read_object {entries : Fields} (known : tag ∈ t.tags)
    (found : entries.lookup t.tagKey = some (.text tag)) :
    t.read manner ofTag (.object entries) =
      ofTag (t.contentManner manner) tag (entries.lookup t.contentKey) := by
  have named : nameOf manner t.tag? (.text tag) = .ok tag := by
    rw [nameOf, tag?_of_mem known]
    rfl
  simp only [read, found, required, bind, Except.bind, named]

theorem read_bare {b : β} (known : tag ∈ t.tags) (distinct : t.tagKey ≠ t.contentKey)
    (tagged : ofTag (t.contentManner manner) tag none = .ok b)
    (allowed : (t.outline tag none).Allows j) : t.read manner ofTag j = .ok b := by
  obtain ⟨entries, rfl, shows⟩ := shows_of_allows (by simp) allowed
  obtain ⟨_, found, tag⟩ := shows.lookup List.mem_cons_self
  cases tag
  rw [read_object known found, shows.unlisted, tagged]
  simpa using distinct.symm

theorem read_content {content : Outline} {read : Json → Decoded α} {wrap : α → β} {a : α}
    (known : tag ∈ t.tags) (distinct : t.tagKey ≠ t.contentKey)
    (reads : ∀ {shown}, content.Allows shown → read shown = .ok a)
    (tagged : ∀ shown, ofTag (t.contentManner manner) tag (some shown) =
      (do return wrap (← read shown)))
    (allowed : (t.outline tag (some content)).Allows j) : t.read manner ofTag j = .ok (wrap a) := by
  obtain ⟨entries, rfl, shows⟩ := shows_of_allows (by simpa using distinct) allowed
  obtain ⟨_, found, tag⟩ := shows.lookup List.mem_cons_self
  obtain ⟨shown, foundToo, allowed⟩ := shows.lookup (List.mem_cons_of_mem _ List.mem_cons_self)
  cases tag
  rw [read_object known found, foundToo, tagged, reads allowed]
  rfl

end Tagging

end Codec

end BadgeRights
