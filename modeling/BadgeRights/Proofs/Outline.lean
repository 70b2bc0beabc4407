import Mathlib.Data.List.Nodup
import BadgeRights.Json

set_option autoImplicit false

namespace BadgeRights

/-- What is written for a value. An entry of an object has a name and a mark beside its outline; it
may be missing if the mark is set. -/
inductive Outline where
  | null
  | bool (value : Bool)
  | text (value : String)
  | array (items : List Outline)
  | object (entries : List (String × Bool × Outline))

namespace Outline

mutual

def json : Outline → Json
  | null => .null
  | bool value => .bool value
  | text value => .text value
  | array items => .array (jsonItems items)
  | object entries => .object (jsonEntries entries)

def jsonItems : List Outline → List Json
  | [] => []
  | item :: rest => item.json :: jsonItems rest

def jsonEntries : List (String × Bool × Outline) → List (String × Json)
  | [] => []
  | (name, _, value) :: rest => (name, value.json) :: jsonEntries rest

end

theorem jsonItems_eq_map (items : List Outline) : jsonItems items = items.map json := by
  induction items with
  | nil => rfl
  | cons item rest ih => rw [jsonItems, ih, List.map_cons]

theorem jsonEntries_eq_map (entries : List (String × Bool × Outline)) :
    jsonEntries entries = entries.map fun e => (e.1, e.2.2.json) := by
  induction entries with
  | nil => rfl
  | cons e rest ih => rw [jsonEntries, ih, List.map_cons]

mutual

inductive Allows : Outline → Json → Prop where
  | null : Allows .null .null
  | bool (value : Bool) : Allows (.bool value) (.bool value)
  | text (value : String) : Allows (.text value) (.text value)
  | array {items : List Outline} {shown : List Json} :
      AllowsItems items shown → Allows (.array items) (.array shown)
  | object {entries : List (String × Bool × Outline)} {shown permuted : List (String × Json)} :
      AllowsEntries entries shown → shown.Perm permuted →
        Allows (.object entries) (.object permuted)

inductive AllowsItems : List Outline → List Json → Prop where
  | nil : AllowsItems [] []
  | cons {item : Outline} {j : Json} {rest : List Outline} {shown : List Json} :
      Allows item j → AllowsItems rest shown → AllowsItems (item :: rest) (j :: shown)

inductive AllowsEntries : List (String × Bool × Outline) → List (String × Json) → Prop where
  | nil : AllowsEntries [] []
  | kept {name : String} {marked : Bool} {value : Outline} {j : Json}
      {rest : List (String × Bool × Outline)} {shown : List (String × Json)} :
      Allows value j → AllowsEntries rest shown →
        AllowsEntries ((name, marked, value) :: rest) ((name, j) :: shown)
  | omitted {name : String} {value : Outline} {rest : List (String × Bool × Outline)}
      {shown : List (String × Json)} :
      AllowsEntries rest shown → AllowsEntries ((name, true, value) :: rest) shown

end

mutual

theorem allows_json : (o : Outline) → o.Allows o.json
  | null => .null
  | bool value => .bool value
  | text value => .text value
  | array items => .array (allowsItems_json items)
  | object entries => .object (allowsEntries_json entries) (.refl _)

theorem allowsItems_json : (items : List Outline) → AllowsItems items (jsonItems items)
  | [] => .nil
  | item :: rest => .cons item.allows_json (allowsItems_json rest)

theorem allowsEntries_json :
    (entries : List (String × Bool × Outline)) → AllowsEntries entries (jsonEntries entries)
  | [] => .nil
  | (_, _, value) :: rest => .kept value.allows_json (allowsEntries_json rest)

end

section Lookup

variable {entries : List (String × Bool × Outline)} {shown fields : List (String × Json)}

theorem AllowsEntries.keys_sublist (allowed : AllowsEntries entries shown) :
    (shown.map Prod.fst).Sublist (entries.map Prod.fst) := by
  induction entries generalizing shown with
  | nil =>
      cases allowed
      exact .refl _
  | cons e rest ih =>
      cases allowed with
      | kept _ later => exact (ih later).cons_cons _
      | omitted later => exact (ih later).cons _

theorem AllowsEntries.of_mem (allowed : AllowsEntries entries shown)
    (distinct : (entries.map Prod.fst).Nodup) {e : String × Bool × Outline} (he : e ∈ entries) :
    (∃ j, (e.1, j) ∈ shown ∧ e.2.2.Allows j) ∨ e.2.1 = true ∧ e.1 ∉ shown.map Prod.fst := by
  induction entries generalizing shown with
  | nil => cases he
  | cons first rest ih =>
      rw [List.map_cons, List.nodup_cons] at distinct
      cases allowed with
      | kept value later =>
          rcases List.mem_cons.1 he with rfl | he
          · exact .inl ⟨_, List.mem_cons_self, value⟩
          · rcases ih later distinct.2 he with ⟨j, hj, allows⟩ | ⟨marked, missing⟩
            · exact .inl ⟨j, List.mem_cons_of_mem _ hj, allows⟩
            · refine .inr ⟨marked, ?_⟩
              rw [List.map_cons, List.mem_cons, not_or]
              refine ⟨?_, missing⟩
              intro same
              exact distinct.1 (List.mem_map.2 ⟨e, he, same⟩)
      | omitted later =>
          -- What is left out does not come back under its name further on.
          rcases List.mem_cons.1 he with rfl | he
          · exact .inr ⟨rfl, fun again => distinct.1 (later.keys_sublist.subset again)⟩
          · exact ih later distinct.2 he

theorem lookup_of_mem (distinct : (fields.map Prod.fst).Nodup) {name : String} {j : Json}
    (h : (name, j) ∈ fields) : fields.lookup name = some j := by
  induction fields with
  | nil => cases h
  | cons field rest ih =>
      rw [List.map_cons, List.nodup_cons] at distinct
      rcases List.mem_cons.1 h with rfl | h
      · exact List.lookup_cons_self
      · have other : (name == field.1) = false := by
          rw [beq_eq_false_iff_ne]
          rintro rfl
          exact distinct.1 (List.mem_map.2 ⟨_, h, rfl⟩)
        rw [List.lookup_cons, other]
        exact ih distinct.2 h

theorem lookup_of_not_mem {name : String} (h : name ∉ fields.map Prod.fst) :
    fields.lookup name = none := by
  rw [List.lookup_eq_none_iff]
  intro field hfield
  rw [bne_iff_ne]
  rintro rfl
  exact h (List.mem_map.2 ⟨field, hfield, rfl⟩)

structure Shows (entries : List (String × Bool × Outline)) (fields : List (String × Json)) :
    Prop where
  listed : ∀ e ∈ entries, (∃ j, fields.lookup e.1 = some j ∧ e.2.2.Allows j) ∨
    e.2.1 = true ∧ fields.lookup e.1 = none
  unlisted : ∀ name ∉ entries.map Prod.fst, fields.lookup name = none

theorem nodup_of_allows (distinct : (entries.map Prod.fst).Nodup)
    (allowed : (object entries).Allows (.object fields)) : (fields.map Prod.fst).Nodup := by
  cases allowed with
  | object kept perm =>
    exact (perm.map Prod.fst).nodup_iff.1 (kept.keys_sublist.nodup distinct)

theorem shows_of_allows (distinct : (entries.map Prod.fst).Nodup) {j : Json}
    (allowed : (object entries).Allows j) :
    ∃ fields, j = .object fields ∧ Shows entries fields := by
  cases allowed with
  | @object _ shown fields kept perm =>
    have keys := perm.map Prod.fst
    have distinctToo := nodup_of_allows distinct (.object kept perm)
    refine ⟨fields, rfl, ⟨?_, ?_⟩⟩
    · intro e he
      rcases kept.of_mem distinct he with ⟨j, hj, allows⟩ | ⟨marked, missing⟩
      · exact .inl ⟨j, lookup_of_mem distinctToo (perm.mem_iff.1 hj), allows⟩
      · exact .inr ⟨marked, lookup_of_not_mem fun again => missing (keys.mem_iff.2 again)⟩
    · intro name unlisted
      refine lookup_of_not_mem fun again => unlisted ?_
      exact kept.keys_sublist.subset (keys.mem_iff.2 again)

theorem Shows.lookup (shows : Shows entries fields) {name : String} {value : Outline}
    (h : (name, false, value) ∈ entries) : ∃ j, fields.lookup name = some j ∧ value.Allows j := by
  rcases shows.listed _ h with found | ⟨marked, _⟩
  · exact found
  · cases marked

theorem single_of_allows {name : String} {value : Outline} {j : Json}
    (allowed : (object [(name, false, value)]).Allows j) :
    ∃ inner, j = .object [(name, inner)] ∧ value.Allows inner := by
  cases allowed with
  | object kept perm =>
    cases kept with
    | kept allowed rest =>
        cases rest
        obtain rfl := List.perm_singleton.1 perm.symm
        exact ⟨_, rfl, allowed⟩

end Lookup

theorem ne_null_of_allows {o : Outline} {j : Json} (h : o ≠ .null) (allowed : o.Allows j) :
    j ≠ .null := by
  rintro rfl
  cases allowed
  exact h rfl

end Outline

end BadgeRights
