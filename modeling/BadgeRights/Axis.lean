/-!
Axes: types of which one value can be cut by another into what lies outside and what both share.
Cutting extends to products by peeling: the pieces outside on the first axis keep the second axis
whole, and the pieces outside on the second axis take the shared part of the first. So the pieces
and the shared part stay apart from each other.
-/

set_option autoImplicit false

namespace BadgeRights

structure Cut (α : Type) where
  outside : List α
  shared : Option α
  deriving DecidableEq

namespace Cut

variable {α β : Type}

def apart (a : α) : Cut α := ⟨[a], none⟩

def map (f : α → β) (c : Cut α) : Cut β := ⟨c.outside.map f, c.shared.map f⟩

def pair (a : α) (b : β) (ca : Cut α) (cb : Cut β) : Cut (α × β) :=
  match ca.shared, cb.shared with
  | some sa, some sb =>
      ⟨ca.outside.map (fun x => (x, b)) ++ cb.outside.map (fun y => (sa, y)), some (sa, sb)⟩
  | _, _ => apart (a, b)

theorem mem_pair_outside {π ρ : Type} [Membership π α] [Membership ρ β] (oa : List α)
    (ob : List β) (sa : α) (b : β) (x : π) (y : ρ) :
    (∃ piece ∈ oa.map (fun p => (p, b)) ++ ob.map (fun q => (sa, q)),
        x ∈ piece.1 ∧ y ∈ piece.2) ↔
      ((∃ p ∈ oa, x ∈ p) ∧ y ∈ b) ∨ (x ∈ sa ∧ ∃ q ∈ ob, y ∈ q) := by
  simp only [List.mem_append, List.mem_map]
  constructor
  · rintro ⟨piece, ⟨p, hp, rfl⟩ | ⟨q, hq, rfl⟩, hx, hy⟩
    · exact .inl ⟨⟨p, hp, hx⟩, hy⟩
    · exact .inr ⟨hx, q, hq, hy⟩
  · rintro (⟨⟨p, hp, hx⟩, hy⟩ | ⟨hx, q, hq, hy⟩)
    · exact ⟨(p, b), .inl ⟨p, hp, rfl⟩, hx, hy⟩
    · exact ⟨(sa, q), .inr ⟨q, hq, rfl⟩, hx, hy⟩

end Cut

class Axis (α : Type) (π : outParam Type) extends Membership π α where
  cut : α → α → Cut α

def Cut.ExactAt {α π : Type} [Membership π α] (c : Cut α) (value handled : α) (x : π) : Prop :=
  ((∃ piece ∈ c.outside, x ∈ piece) ↔ x ∈ value ∧ ¬x ∈ handled) ∧
    ((∃ s ∈ c.shared, x ∈ s) ↔ x ∈ value ∧ x ∈ handled)

variable {α β π ρ : Type}

instance [Axis α π] [Axis β ρ] : Axis (α × β) (π × ρ) where
  mem box x := x.1 ∈ box.1 ∧ x.2 ∈ box.2
  cut value handled :=
    Cut.pair value.1 value.2 (Axis.cut value.1 handled.1) (Axis.cut value.2 handled.2)

theorem mem_pair [Axis α π] [Axis β ρ] (x : π × ρ) (box : α × β) :
    x ∈ box ↔ x.1 ∈ box.1 ∧ x.2 ∈ box.2 := Iff.rfl

theorem Cut.apart_exactAt [Membership π α] (value handled : α) (x : π)
    (h : ¬(x ∈ value ∧ x ∈ handled)) : (Cut.apart value).ExactAt value handled x := by
  simp [Cut.ExactAt, Cut.apart]
  grind

class LawfulAxis (α : Type) {π : outParam Type} [Axis α π] : Prop where
  exact (value handled : α) (x : π) : (Axis.cut value handled).ExactAt value handled x

instance [Axis α π] [Axis β ρ] [LawfulAxis α] [LawfulAxis β] : LawfulAxis (α × β) where
  exact value handled := by
    rintro ⟨x, y⟩
    have first := LawfulAxis.exact value.1 handled.1 x
    have second := LawfulAxis.exact value.2 handled.2 y
    change (Cut.pair value.1 value.2 (Axis.cut value.1 handled.1)
      (Axis.cut value.2 handled.2)).ExactAt value handled (x, y)
    generalize Axis.cut value.1 handled.1 = ca at first
    generalize Axis.cut value.2 handled.2 = cb at second
    obtain ⟨oa, sa⟩ := ca
    obtain ⟨ob, sb⟩ := cb
    simp only [Cut.ExactAt] at first second
    cases sa with
    | none => exact Cut.apart_exactAt _ _ _ (by simp [mem_pair] at first ⊢; grind)
    | some sa =>
        cases sb with
        | none => exact Cut.apart_exactAt _ _ _ (by simp [mem_pair] at second ⊢; grind)
        | some sb =>
            simp only [Cut.pair, Cut.ExactAt, mem_pair, Cut.mem_pair_outside]
            simp at first second ⊢
            grind

end BadgeRights
