set_option autoImplicit false

namespace BadgeRights.Order

variable {α : Type}

def insertBy (before : α → α → Bool) (a : α) : List α → List α
  | [] => [a]
  | b :: rest => if before a b then a :: b :: rest else b :: insertBy before a rest

def sortBy (before : α → α → Bool) (xs : List α) : List α :=
  xs.foldr (insertBy before) []

theorem insertBy_perm (before : α → α → Bool) (a : α) (xs : List α) :
    (insertBy before a xs).Perm (a :: xs) := by
  induction xs with
  | nil => exact List.Perm.refl _
  | cons b rest ih =>
      simp only [insertBy]
      split
      · exact List.Perm.refl _
      · exact (ih.cons b).trans (List.Perm.swap a b rest)

theorem sortBy_perm (before : α → α → Bool) (xs : List α) : (sortBy before xs).Perm xs := by
  induction xs with
  | nil => exact List.Perm.refl _
  | cons a rest ih => exact (insertBy_perm before a _).trans (ih.cons a)

theorem mem_sortBy (before : α → α → Bool) (a : α) (xs : List α) :
    a ∈ sortBy before xs ↔ a ∈ xs :=
  (sortBy_perm before xs).mem_iff

theorem pairwise_insertBy (before : α → α → Bool)
    (total : ∀ a b, before a b = true ∨ before b a = true)
    (trans : ∀ a b c, before a b = true → before b c = true → before a c = true)
    (a : α) (xs : List α) (sorted : xs.Pairwise (before · · = true)) :
    (insertBy before a xs).Pairwise (before · · = true) := by
  induction xs with
  | nil => simp [insertBy]
  | cons b rest ih =>
      obtain ⟨first, tail⟩ := List.pairwise_cons.1 sorted
      unfold insertBy
      split
      · rename_i h
        refine List.pairwise_cons.2 ⟨fun c hc => ?_, sorted⟩
        cases hc with
        | head => exact h
        | tail _ hc => exact trans a b c h (first c hc)
      · rename_i h
        refine List.pairwise_cons.2 ⟨fun c hc => ?_, ih tail⟩
        have := (insertBy_perm before a rest).mem_iff.1 hc
        cases this with
        | head => exact (total a b).resolve_left h
        | tail _ hc => exact first c hc

theorem pairwise_sortBy (before : α → α → Bool)
    (total : ∀ a b, before a b = true ∨ before b a = true)
    (trans : ∀ a b c, before a b = true → before b c = true → before a c = true)
    (xs : List α) : (sortBy before xs).Pairwise (before · · = true) := by
  induction xs with
  | nil => exact List.Pairwise.nil
  | cons a rest ih => exact pairwise_insertBy before total trans a _ ih

theorem insertBy_of_before_all (before : α → α → Bool) (a : α) (xs : List α)
    (first : ∀ b ∈ xs, before a b = true) : insertBy before a xs = a :: xs := by
  cases xs with
  | nil => rfl
  | cons b rest => simp [insertBy, first]

theorem sortBy_of_pairwise (before : α → α → Bool) (xs : List α)
    (sorted : xs.Pairwise (before · · = true)) : sortBy before xs = xs := by
  induction xs with
  | nil => rfl
  | cons a rest ih =>
      obtain ⟨first, tail⟩ := List.pairwise_cons.1 sorted
      change insertBy before a (sortBy before rest) = a :: rest
      rw [ih tail]
      exact insertBy_of_before_all before a rest first

theorem sortBy_eq_of_perm (before : α → α → Bool)
    (total : ∀ a b, before a b = true ∨ before b a = true)
    (trans : ∀ a b c, before a b = true → before b c = true → before a c = true)
    (antisymm : ∀ a b, before a b = true → before b a = true → a = b)
    {xs ys : List α} (perm : xs.Perm ys) : sortBy before xs = sortBy before ys := by
  have same : (sortBy before xs).Perm (sortBy before ys) :=
    (sortBy_perm before xs).trans (perm.trans (sortBy_perm before ys).symm)
  exact same.eq_of_pairwise (fun a b _ _ => antisymm a b)
    (pairwise_sortBy before total trans xs) (pairwise_sortBy before total trans ys)

end BadgeRights.Order
