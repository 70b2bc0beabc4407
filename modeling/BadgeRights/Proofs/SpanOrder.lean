import BadgeRights.Proofs.SpanAlgebra
import BadgeRights.Proofs.Checked

set_option autoImplicit false

namespace BadgeRights

/-- `t` starts behind `s`. A reversed `s` may start behind its stop, so that both ends are compared. -/
def Span.Precedes (s t : Span) : Prop := s.start ≤ t.start ∧ s.stop < t.start

theorem Span.Precedes.trans {s t u : Span} (st : s.Precedes t) (tu : t.Precedes u) :
    s.Precedes u := by
  simp only [Precedes] at *
  omega

theorem Span.Precedes.apart {s t : Span} (precedes : s.Precedes t) : Apart s t :=
  apart_of_stop_lt precedes.2

namespace Spans

theorem precedes_merge (spans : List Span) : (merge spans).Pairwise Span.Precedes := by
  have sorted := pairwise_sort (merge spans)
  rw [sort_merge] at sorted
  refine (sorted.and (pairwise_merge spans)).imp ?_
  intro s t h
  simp only [Span.Precedes]
  omega

section Search

variable {spans : List Span} {x low high middle : Nat} {s : Span}

structure Narrowed (spans : List Span) (x low high : Nat) : Prop where
  low_le : low ≤ high
  high_le : high ≤ spans.length
  below : ∀ i s, spans[i]? = some s → i < low → s.start ≤ x ∧ ¬x ∈ s
  above : ∀ i s, spans[i]? = some s → high ≤ i → x < s.start

theorem narrowed_all (spans : List Span) (x : Nat) : Narrowed spans x 0 spans.length where
  low_le := Nat.zero_le _
  high_le := Nat.le_refl _
  below := nofun
  above := by
    intro i s found beyond
    rw [List.getElem?_eq_none beyond] at found
    cases found

theorem precedes_of_lt (sorted : spans.Pairwise Span.Precedes) {i j : Nat} {t : Span}
    (first : spans[i]? = some s) (second : spans[j]? = some t) (lt : i < j) : s.Precedes t := by
  obtain ⟨hi, rfl⟩ := List.getElem?_eq_some_iff.1 first
  obtain ⟨hj, rfl⟩ := List.getElem?_eq_some_iff.1 second
  exact List.pairwise_iff_getElem.1 sorted i j hi hj lt

theorem Narrowed.left (narrowed : Narrowed spans x low high)
    (sorted : spans.Pairwise Span.Precedes) (fromLow : low ≤ middle) (toHigh : middle < high)
    (probe : spans[middle]? = some s) (behind : x < s.start) : Narrowed spans x low middle where
  low_le := fromLow
  high_le := Nat.le_trans (Nat.le_of_lt toHigh) narrowed.high_le
  below := narrowed.below
  above := by
    intro i t found beyond
    by_cases here : i = middle
    · subst here
      rw [probe] at found
      cases found
      exact behind
    · have order := precedes_of_lt sorted probe found (by omega)
      simp only [Span.Precedes] at order
      omega

theorem Narrowed.right (narrowed : Narrowed spans x low high)
    (sorted : spans.Pairwise Span.Precedes) (toHigh : middle < high)
    (probe : spans[middle]? = some s) (outside : ¬x ∈ s) (starts : s.start ≤ x) :
    Narrowed spans x (middle + 1) high where
  low_le := toHigh
  high_le := narrowed.high_le
  below := by
    intro i t found before
    by_cases here : i = middle
    · subst here
      rw [probe] at found
      cases found
      exact ⟨starts, outside⟩
    · -- Whatever `t` is, it starts and stops before the span at the probe starts.
      have order := precedes_of_lt sorted found probe (by omega)
      simp only [Span.Precedes, Span.mem_def] at order ⊢
      omega
  above := narrowed.above

def Located (spans : List Span) (x : Nat) : Nat × Bool → Prop
  | (index, true) => ∃ s, spans[index]? = some s ∧ x ∈ s
  | (index, false) => Narrowed spans x index index

theorem located_bisect (spans : Array Span) (sorted : spans.toList.Pairwise Span.Precedes)
    (narrowed : Narrowed spans.toList x low high) :
    Located spans.toList x (bisect spans x low high) := by
  fun_induction bisect spans x low high with
  | case1 low high searching middle outOfBounds =>
      have bound := narrowed.high_le
      rw [Array.getElem?_eq_none_iff] at outOfBounds
      simp only [Array.length_toList] at bound
      omega
  | case2 low high searching middle s probe holds =>
      rw [← Array.getElem?_toList] at probe
      exact ⟨s, probe, (Span.contains_eq_true s x).1 holds⟩
  | case3 low high searching middle s probe outside behind ih =>
      rw [← Array.getElem?_toList] at probe
      exact ih (narrowed.left sorted (by omega) (by omega) probe behind)
  | case4 low high searching middle s probe outside starts ih =>
      rw [← Array.getElem?_toList] at probe
      rw [Span.contains_eq_true] at outside
      exact ih (narrowed.right sorted (by omega) probe outside (by omega))
  | case5 low high done =>
      obtain rfl : low = high := by
        have := narrowed.low_le
        omega
      exact narrowed

theorem located_search (x : Nat) (spans : List Span) :
    Located (merge spans) x (search x spans) :=
  located_bisect _ (precedes_merge spans) (narrowed_all (merge spans) x)

def InsertionPoint (spans : List Span) (x index : Nat) : Prop :=
  index ≤ spans.length ∧ ∀ i s, spans[i]? = some s → (i < index ↔ s.start ≤ x)

theorem Narrowed.insertionPoint {index : Nat} (narrowed : Narrowed spans x index index) :
    InsertionPoint spans x index := by
  refine ⟨narrowed.high_le, fun i s found => ?_⟩
  constructor
  · intro before
    exact (narrowed.below i s found before).1
  · intro starts
    by_cases before : i < index
    · exact before
    · have := narrowed.above i s found (by omega)
      omega

theorem Narrowed.not_mem {index : Nat} (narrowed : Narrowed spans x index index) :
    ¬Mem x spans := by
  intro member
  obtain ⟨s, hs, inside⟩ := member
  obtain ⟨i, found⟩ := List.mem_iff_getElem?.1 hs
  by_cases before : i < index
  · exact (narrowed.below i s found before).2 inside
  · have := narrowed.above i s found (by omega)
    rw [Span.mem_def] at inside
    omega

theorem InsertionPoint.unique {index other : Nat} (first : InsertionPoint spans x index)
    (second : InsertionPoint spans x other) : index = other := by
  obtain ⟨bound, starts⟩ := first
  obtain ⟨boundOther, startsOther⟩ := second
  -- The span between two places would have to start on both sides of `x`.
  have agree : ∀ i < spans.length, (i < index ↔ i < other) := by
    intro i hi
    have found := List.getElem?_eq_getElem hi
    rw [starts i _ found, startsOther i _ found]
  by_cases lt : index < other
  · have := agree index (by omega)
    omega
  · by_cases gt : other < index
    · have := agree other (by omega)
      omega
    · omega

/-- For any spans, the search says of every natural whether one of them holds it. Where it finds one,
the index leads to a merged span that holds the natural; where it finds none, the index is the only
place in the merged list where the natural can be put in. -/
theorem search_agrees_with_scan (x : Nat) (spans : List Span) :
    let (index, found) := search x spans
    found = contains spans x ∧
      (found = true → ∃ s, (merge spans)[index]? = some s ∧ x ∈ s) ∧
      (found = false →
        (∀ s ∈ merge spans, ¬x ∈ s) ∧ InsertionPoint (merge spans) x index ∧
          ∀ other, InsertionPoint (merge spans) x other → other = index) := by
  have located := located_search x spans
  generalize search x spans = answer at located ⊢
  obtain ⟨index, found⟩ := answer
  cases found with
  | true =>
      obtain ⟨s, entry, holds⟩ := located
      have member : Mem x (merge spans) := ⟨s, List.mem_of_getElem? entry, holds⟩
      rw [mem_merge] at member
      exact ⟨((contains_eq_true spans x).2 member).symm, fun _ => ⟨s, entry, holds⟩, nofun⟩
  | false =>
      have point := Narrowed.insertionPoint located
      have absent := Narrowed.not_mem located
      have scanned : contains spans x = false := by
        rwa [Bool.eq_false_iff, ne_eq, contains_eq_true, ← mem_merge]
      refine ⟨scanned.symm, nofun, fun _ => ⟨?_, point, fun other h => h.unique point⟩⟩
      intro s hs holds
      exact absent ⟨s, hs, holds⟩

-- A reversed span is an entry like others: 10 belongs in front of it, and 25 behind it.
example :
    search 10 [⟨20, 5⟩, ⟨30, 40⟩, ⟨1, 3⟩] = (1, false) ∧
      search 25 [⟨20, 5⟩, ⟨30, 40⟩, ⟨1, 3⟩] = (2, false) := by
  constructor <;> cbv

end Search

section Disjoint

variable {spans : List Span}

theorem precedes_of_not_overlaps {s t : Span} (sorted : s.start ≤ t.start) (ordered : t.Ordered)
    (h : ¬s.overlaps t = true) : s.Precedes t := by
  simp only [Span.overlaps, Bool.and_eq_true, decide_eq_true_eq, Span.Ordered, Span.Precedes] at *
  omega

theorem not_overlaps_of_apart {s t : Span} (ordered : s.Ordered) (orderedOther : t.Ordered)
    (apart : Apart s t) : ¬s.overlaps t = true := by
  intro meet
  -- Ordered spans that overlap share the later one of their starts.
  have shared := apart (max s.start t.start)
  simp only [Span.overlaps, Bool.and_eq_true, decide_eq_true_eq, Span.Ordered, Span.mem_def] at *
  omega

theorem precedes_of_separate (sorted : spans.Pairwise fun s t => s.start ≤ t.start)
    (ordered : Ordered spans) (h : separate spans = .ok ()) : spans.Pairwise Span.Precedes := by
  fun_induction separate spans with
  | case1 s t rest meet => exact absurd h Checked.refuse_ne_ok
  | case2 s t rest meet ih =>
      obtain ⟨first, tail⟩ := List.pairwise_cons.1 sorted
      obtain ⟨_, later⟩ := List.forall_mem_cons.1 ordered
      have next : s.Precedes t := precedes_of_not_overlaps (first t List.mem_cons_self)
        (later t List.mem_cons_self) meet
      have restSorted := ih tail later h
      refine List.pairwise_cons.2 ⟨List.forall_mem_cons.2 ⟨next, ?_⟩, restSorted⟩
      -- Only neighbours were compared, but what is behind the next span is behind this one.
      intro u hu
      exact next.trans ((List.pairwise_cons.1 restSorted).1 u hu)
  | case3 spans short =>
      cases spans with
      | nil => exact List.Pairwise.nil
      | cons s rest =>
          cases rest with
          | nil => exact List.pairwise_singleton _ _
          | cons t rest => exact absurd rfl (short s t rest)

theorem separate_of_apart (ordered : Ordered spans) (apart : spans.Pairwise Apart) :
    separate spans = .ok () := by
  fun_induction separate spans with
  | case1 s t rest meet =>
      obtain ⟨first, later⟩ := List.forall_mem_cons.1 ordered
      have neighbours := (List.pairwise_cons.1 apart).1 t List.mem_cons_self
      exact absurd meet (not_overlaps_of_apart first (later t List.mem_cons_self) neighbours)
  | case2 s t rest meet ih =>
      exact ih (List.forall_mem_cons.1 ordered).2 (List.pairwise_cons.1 apart).2
  | case3 => rfl

theorem separate_sort_eq_ok (ordered : Ordered spans) :
    separate (sort spans) = .ok () ↔ spans.Pairwise Apart := by
  have perm := Order.sortBy_perm before spans
  have orderedSort : Ordered (sort spans) := fun s hs => ordered s (perm.mem_iff.1 hs)
  rw [← perm.pairwise_iff Apart.symm]
  constructor
  · intro h
    exact (precedes_of_separate (pairwise_sort spans) orderedSort h).imp Span.Precedes.apart
  · intro apart
    exact separate_of_apart orderedSort apart

theorem validateDisjoint_eq_ok :
    validateDisjoint spans = .ok () ↔ Valid spans ∧ spans.Pairwise Apart := by
  rw [validateDisjoint, Checked.bind_eq_ok, ← validate_eq_ok]
  constructor
  · intro h
    rcases h with ⟨_, checked, separated⟩
    have ordered := ((validate_eq_ok spans).1 checked).ordered
    exact ⟨checked, (separate_sort_eq_ok ordered).1 separated⟩
  · intro h
    rcases h with ⟨checked, apart⟩
    have ordered := ((validate_eq_ok spans).1 checked).ordered
    exact ⟨(), checked, (separate_sort_eq_ok ordered).2 apart⟩

end Disjoint

end Spans

end BadgeRights
