import BadgeRights.Span
import BadgeRights.Order.Insertion

set_option autoImplicit false

namespace BadgeRights.Spans

def Mem (x : Nat) (spans : List Span) : Prop := ∃ s ∈ spans, x ∈ s

@[simp] theorem mem_nil (x : Nat) : ¬Mem x [] := by simp [Mem]

@[simp] theorem mem_cons (x : Nat) (s : Span) (rest : List Span) :
    Mem x (s :: rest) ↔ x ∈ s ∨ Mem x rest := by simp [Mem]

@[simp] theorem mem_append (x : Nat) (as bs : List Span) :
    Mem x (as ++ bs) ↔ Mem x as ∨ Mem x bs := by
  simp [Mem, or_and_right, exists_or]

def contains (spans : List Span) (x : Nat) : Bool :=
  spans.any fun s => s.contains x

@[simp] theorem contains_eq_true (spans : List Span) (x : Nat) :
    contains spans x = true ↔ Mem x spans := by
  simp [contains, Mem]

instance (x : Nat) (spans : List Span) : Decidable (Mem x spans) :=
  decidable_of_iff _ (contains_eq_true spans x)

def before (s t : Span) : Bool :=
  decide (s.start < t.start) || (s.start == t.start && decide (s.stop ≤ t.stop))

theorem before_total (s t : Span) : before s t = true ∨ before t s = true := by
  simp only [before, Bool.or_eq_true, Bool.and_eq_true, decide_eq_true_eq, beq_iff_eq]
  omega

theorem before_trans (s t u : Span) (st : before s t = true) (tu : before t u = true) :
    before s u = true := by
  simp only [before, Bool.or_eq_true, Bool.and_eq_true, decide_eq_true_eq, beq_iff_eq] at *
  omega

theorem before_antisymm (s t : Span) (st : before s t = true) (ts : before t s = true) :
    s = t := by
  rcases s with ⟨sStart, sStop⟩
  rcases t with ⟨tStart, tStop⟩
  simp only [before, Bool.or_eq_true, Bool.and_eq_true, decide_eq_true_eq, beq_iff_eq] at st ts
  simp only [Span.mk.injEq]
  omega

theorem start_le_of_before (s t : Span) (h : before s t = true) : s.start ≤ t.start := by
  simp only [before, Bool.or_eq_true, Bool.and_eq_true, decide_eq_true_eq, beq_iff_eq] at h
  omega

def sort (spans : List Span) : List Span :=
  Order.sortBy before spans

@[simp] theorem mem_sort (x : Nat) (spans : List Span) : Mem x (sort spans) ↔ Mem x spans := by
  simp [Mem, sort, Order.mem_sortBy]

theorem pairwise_sort (spans : List Span) :
    (sort spans).Pairwise fun s t => s.start ≤ t.start :=
  (Order.pairwise_sortBy before before_total before_trans spans).imp (start_le_of_before _ _)

def joinFrom (current : Span) : List Span → List Span
  | [] => [current]
  | s :: rest =>
      if s.start ≤ current.stop + 1 then
        joinFrom ⟨current.start, max current.stop s.stop⟩ rest
      else
        current :: joinFrom s rest

/-- Joining needs the starts in order, and nothing about the stops. -/
theorem mem_joinFrom (x : Nat) (current : Span) (spans : List Span)
    (sorted : (current :: spans).Pairwise fun s t => s.start ≤ t.start) :
    Mem x (joinFrom current spans) ↔ Mem x (current :: spans) := by
  induction spans generalizing current with
  | nil => rfl
  | cons s rest ih =>
      obtain ⟨first, tail⟩ := List.pairwise_cons.1 sorted
      unfold joinFrom
      split
      · rw [ih ⟨current.start, max current.stop s.stop⟩
          (List.pairwise_cons.2 ⟨fun t ht => first t (List.mem_cons_of_mem _ ht),
            (List.pairwise_cons.1 tail).2⟩)]
        have := first s List.mem_cons_self
        simp only [mem_cons, Span.mem_def]
        grind
      · rw [mem_cons, ih s tail]
        simp only [mem_cons]

def join : List Span → List Span
  | [] => []
  | s :: rest => joinFrom s rest

def merge (spans : List Span) : List Span :=
  join (sort spans)

@[simp] theorem mem_merge (x : Nat) (spans : List Span) : Mem x (merge spans) ↔ Mem x spans := by
  rw [← mem_sort x spans]
  unfold merge join
  split
  · rename_i h
    rw [h]
  · rename_i s rest h
    rw [h]
    exact mem_joinFrom x s rest (h ▸ pairwise_sort spans)

def bisect (spans : Array Span) (x low high : Nat) : Nat × Bool :=
  if low < high then
    let middle := low + (high - low) / 2
    match spans[middle]? with
    | none => (low, false)
    | some s =>
        if s.contains x then (middle, true)
        else if x < s.start then bisect spans x low middle
        else bisect spans x (middle + 1) high
  else
    (low, false)
  termination_by high - low
  decreasing_by all_goals omega

/-- Where `x` is found in the merged form, or where a span of `x` would be put into it. -/
def search (x : Nat) (spans : List Span) : Nat × Bool :=
  let merged := (merge spans).toArray
  bisect merged x 0 merged.size

def removeOne (remaining : List Span) (handled : Span) : List Span × List Span :=
  (remaining.flatMap fun s => (s.remove handled).1,
    remaining.filterMap fun s => (s.remove handled).2)

theorem mem_removeOne_left (x : Nat) (spans : List Span) (handled : Span) :
    Mem x (removeOne spans handled).1 ↔ Mem x spans ∧ ¬x ∈ handled := by
  induction spans with
  | nil => simp [removeOne]
  | cons s rest ih =>
      simp only [removeOne, List.flatMap_cons, mem_append, mem_cons] at ih ⊢
      rw [ih, show Mem x (s.remove handled).1 ↔ _ from Span.mem_remove_left s handled x]
      grind

theorem mem_removeOne_right (x : Nat) (spans : List Span) (handled : Span) :
    Mem x (removeOne spans handled).2 ↔ Mem x spans ∧ x ∈ handled := by
  simp only [removeOne, Mem, List.mem_filterMap]
  constructor
  · rintro ⟨cut, ⟨s, hs, hc⟩, hx⟩
    have := (Span.mem_remove_right s handled x).1 ⟨cut, hc, hx⟩
    exact ⟨⟨s, hs, this.1⟩, this.2⟩
  · rintro ⟨⟨s, hs, hx⟩, hh⟩
    obtain ⟨cut, hc, hm⟩ := (Span.mem_remove_right s handled x).2 ⟨hx, hh⟩
    exact ⟨cut, ⟨s, hs, hc⟩, hm⟩

def removeAll (spans handled : List Span) : List Span × List Span :=
  handled.foldl
    (fun (left, removed) h =>
      let (next, taken) := removeOne left h
      (next, removed ++ taken))
    (spans, [])

theorem mem_removeAll (x : Nat) (spans handled : List Span) :
    (Mem x (removeAll spans handled).1 ↔ Mem x spans ∧ ¬Mem x handled) ∧
      (Mem x (removeAll spans handled).2 ↔ Mem x spans ∧ Mem x handled) := by
  have general (todo left removed : List Span) :
      let out := todo.foldl
        (fun (left, removed) h =>
          let (next, taken) := removeOne left h
          (next, removed ++ taken))
        (left, removed)
      (Mem x out.1 ↔ Mem x left ∧ ¬Mem x todo) ∧
        (Mem x out.2 ↔ Mem x removed ∨ Mem x left ∧ Mem x todo) := by
    induction todo generalizing left removed with
    | nil => simp
    | cons h rest ih =>
        have := ih (removeOne left h).1 (removed ++ (removeOne left h).2)
        simp only [mem_append, mem_removeOne_left, mem_removeOne_right] at this
        simp only [List.foldl_cons, mem_cons]
        grind
  simpa [removeAll] using general handled spans []

def subtract (spans handled : List Span) : List Span × List Span :=
  let (left, removed) := removeAll spans handled
  (merge left, merge removed)

def difference (spans handled : List Span) : List Span := (subtract spans handled).1

def intersection (spans handled : List Span) : List Span := (subtract spans handled).2

@[simp] theorem mem_difference (x : Nat) (spans handled : List Span) :
    Mem x (difference spans handled) ↔ Mem x spans ∧ ¬Mem x handled := by
  simp only [difference, subtract, mem_merge, mem_removeAll]

@[simp] theorem mem_intersection (x : Nat) (spans handled : List Span) :
    Mem x (intersection spans handled) ↔ Mem x spans ∧ Mem x handled := by
  simp only [intersection, subtract, mem_merge, mem_removeAll]

structure Comparison where
  firstOnly : List Span
  secondOnly : List Span
  overlaps : List Span
  deriving DecidableEq

def Comparison.between (first second : List Span) : Comparison :=
  let (firstOnly, overlaps) := subtract first second
  let (secondOnly, _) := subtract second first
  ⟨firstOnly, secondOnly, overlaps⟩

def union (spans others : List Span) : List Span := merge (spans ++ others)

@[simp] theorem mem_union (x : Nat) (spans others : List Span) :
    Mem x (union spans others) ↔ Mem x spans ∨ Mem x others := by
  simp only [union, mem_merge, mem_append]

def complement (spans : List Span) (low high : Nat) : List Span :=
  if low ≤ high then difference [⟨low, high⟩] spans else []

theorem mem_complement (x : Nat) (spans : List Span) (low high : Nat) :
    Mem x (complement spans low high) ↔ (low ≤ x ∧ x ≤ high) ∧ ¬Mem x spans := by
  unfold complement
  split
  · simp only [mem_difference, mem_cons, mem_nil, or_false, Span.mem_def]
  · simp only [mem_nil, false_iff]
    omega

def gaps (spans : List Span) : List Span := complement spans 1 maxValue

def isSubset (spans others : List Span) : Bool := (difference spans others).isEmpty

def Ordered (spans : List Span) : Prop := ∀ s ∈ spans, s.Ordered

def Valid (spans : List Span) : Prop := ∀ s ∈ spans, s.Valid

instance (spans : List Span) : Decidable (Ordered spans) :=
  inferInstanceAs (Decidable (∀ s ∈ spans, s.Ordered))

instance (spans : List Span) : Decidable (Valid spans) :=
  inferInstanceAs (Decidable (∀ s ∈ spans, s.Valid))

end BadgeRights.Spans
