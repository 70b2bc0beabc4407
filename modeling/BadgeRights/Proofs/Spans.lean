import BadgeRights.Proofs.Region
import BadgeRights.Span.Set

set_option autoImplicit false

namespace BadgeRights

theorem Span.remove_left_ordered {s : Span} (ordered : s.Ordered) (handled : Span) :
    ∀ piece ∈ (s.remove handled).1, piece.Ordered := by
  unfold remove
  cases s.inter? handled with
  | none => simpa using ordered
  | some cut => exact outside_ordered s cut

theorem Span.remove_right_ordered {s handled : Span} (ordered : s.Ordered)
    (orderedHandled : handled.Ordered) : ∀ cut ∈ (s.remove handled).2, cut.Ordered := by
  unfold remove
  cases meet : s.inter? handled with
  | none => simp
  | some cut => simpa using inter?_ordered s handled cut ordered orderedHandled meet

theorem Span.apart_of_stop_lt {s t : Span} (behind : s.stop < t.start) : Apart s t := by
  intro n inFirst inSecond
  simp only [mem_def] at inFirst inSecond
  omega

namespace Spans

theorem mem_flatMap {α : Type} {xs : List α} (pieces : α → List Span) (n : Nat) :
    Mem n (xs.flatMap pieces) ↔ ∃ x ∈ xs, Mem n (pieces x) := by
  simp only [Mem, List.mem_flatMap]
  grind

theorem Ordered.append {spans others : List Span} (first : Ordered spans)
    (second : Ordered others) : Ordered (spans ++ others) :=
  List.forall_mem_append.2 ⟨first, second⟩

theorem joinFrom_ordered (current : Span) (spans : List Span) (first : current.Ordered)
    (ordered : Ordered spans) : Ordered (joinFrom current spans) := by
  induction spans generalizing current with
  | nil =>
      intro s hs
      rwa [List.mem_singleton.1 hs]
  | cons t rest ih =>
      obtain ⟨next, later⟩ := List.forall_mem_cons.1 ordered
      unfold joinFrom
      split
      · -- The joined span starts with the first of its two parts and ends with the longer one.
        refine ih _ ?_ later
        simp only [Span.Ordered] at *
        omega
      · exact List.forall_mem_cons.2 ⟨first, ih t next later⟩

theorem merge_ordered (spans : List Span) (ordered : Ordered spans) : Ordered (merge spans) := by
  have sorted : Ordered (sort spans) := fun s hs => ordered s ((Order.mem_sortBy _ _ _).1 hs)
  unfold merge join
  split
  · exact nofun
  · rename_i s rest h
    rw [h] at sorted
    obtain ⟨first, later⟩ := List.forall_mem_cons.1 sorted
    exact joinFrom_ordered s rest first later

theorem pairwise_joinFrom (current : Span) (spans : List Span)
    (sorted : (current :: spans).Pairwise fun s t => s.start ≤ t.start) :
    ((joinFrom current spans).Pairwise fun s t => s.stop + 1 < t.start) ∧
      ∀ s ∈ joinFrom current spans, current.start ≤ s.start := by
  induction spans generalizing current with
  | nil => simp [joinFrom]
  | cons s rest ih =>
      obtain ⟨first, tail⟩ := List.pairwise_cons.1 sorted
      unfold joinFrom
      split
      · refine ih ⟨current.start, max current.stop s.stop⟩ (List.pairwise_cons.2 ⟨?_, ?_⟩)
        · exact fun t ht => first t (List.mem_cons_of_mem _ ht)
        · exact (List.pairwise_cons.1 tail).2
      · rename_i gap
        obtain ⟨separate, later⟩ := ih s tail
        have start := first s List.mem_cons_self
        constructor
        · refine List.pairwise_cons.2 ⟨fun t ht => ?_, separate⟩
          have := later t ht
          omega
        · refine List.forall_mem_cons.2 ⟨Nat.le_refl _, fun t ht => ?_⟩
          exact Nat.le_trans start (later t ht)

theorem pairwise_merge (spans : List Span) :
    (merge spans).Pairwise fun s t => s.stop + 1 < t.start := by
  have sorted := pairwise_sort spans
  unfold merge join
  split
  · exact List.Pairwise.nil
  · rename_i s rest h
    rw [h] at sorted
    exact (pairwise_joinFrom s rest sorted).1

theorem mem_iff_of_merge_eq {spans others : List Span} (same : merge spans = merge others)
    (n : Nat) : Mem n spans ↔ Mem n others := by
  rw [← mem_merge n spans, same, mem_merge]

theorem apart_merge (spans : List Span) : (merge spans).Pairwise Apart := by
  refine (pairwise_merge spans).imp ?_
  intro s t gap
  exact Span.apart_of_stop_lt (Nat.lt_of_succ_lt gap)

theorem removeOne_left_ordered {spans : List Span} (ordered : Ordered spans) (handled : Span) :
    Ordered (removeOne spans handled).1 := by
  intro piece hpiece
  obtain ⟨s, hs, hpiece⟩ := List.mem_flatMap.1 hpiece
  exact Span.remove_left_ordered (ordered s hs) handled piece hpiece

theorem removeOne_right_ordered {spans : List Span} {handled : Span} (ordered : Ordered spans)
    (orderedHandled : handled.Ordered) : Ordered (removeOne spans handled).2 := by
  intro cut hcut
  obtain ⟨s, hs, hcut⟩ := List.mem_filterMap.1 hcut
  exact Span.remove_right_ordered (ordered s hs) orderedHandled cut hcut

def removeNext (pieces : List Span × List Span) (handled : Span) : List Span × List Span :=
  ((removeOne pieces.1 handled).1, pieces.2 ++ (removeOne pieces.1 handled).2)

theorem removeAll_eq_foldl (spans handled : List Span) :
    removeAll spans handled = handled.foldl removeNext (spans, []) := rfl

theorem removeAll_left_ordered {spans : List Span} (ordered : Ordered spans)
    (handled : List Span) : Ordered (removeAll spans handled).1 := by
  -- A reversed span cuts badly, but no piece that stays is reversed for it.
  have general (pieces : List Span × List Span) (h : Ordered pieces.1) :
      Ordered (handled.foldl removeNext pieces).1 := by
    induction handled generalizing pieces with
    | nil => exact h
    | cons s rest ih => exact ih (removeNext pieces s) (removeOne_left_ordered h s)
  rw [removeAll_eq_foldl]
  exact general (spans, []) ordered

theorem removeAll_right_ordered {spans handled : List Span} (ordered : Ordered spans)
    (orderedHandled : Ordered handled) : Ordered (removeAll spans handled).2 := by
  -- What is left and what was taken away so far are both ordered.
  have general (pieces : List Span × List Span) (h : Ordered pieces.1 ∧ Ordered pieces.2) :
      Ordered (handled.foldl removeNext pieces).2 := by
    induction handled generalizing pieces with
    | nil => exact h.2
    | cons s rest ih =>
        obtain ⟨orderedFirst, orderedRest⟩ := List.forall_mem_cons.1 orderedHandled
        have taken := removeOne_right_ordered h.1 orderedFirst
        exact ih orderedRest (removeNext pieces s) ⟨removeOne_left_ordered h.1 s, h.2.append taken⟩
  rw [removeAll_eq_foldl]
  exact general (spans, []) ⟨ordered, by simp [Ordered]⟩

theorem difference_ordered {spans : List Span} (ordered : Ordered spans) (others : List Span) :
    Ordered (difference spans others) :=
  merge_ordered _ (removeAll_left_ordered ordered others)

theorem single_ordered {low high : Nat} : Ordered [⟨low, high⟩] ↔ low ≤ high :=
  List.forall_mem_singleton

theorem complement_ordered (spans : List Span) (low high : Nat) :
    Ordered (complement spans low high) := by
  unfold complement
  split
  · rename_i bounds
    exact difference_ordered (single_ordered.2 bounds) spans
  · simp [Ordered]

theorem intersection_ordered {spans others : List Span} (ordered : Ordered spans)
    (orderedOthers : Ordered others) : Ordered (intersection spans others) :=
  merge_ordered _ (removeAll_right_ordered ordered orderedOthers)

theorem Ordered.eq_nil_iff {spans : List Span} (ordered : Ordered spans) :
    spans = [] ↔ ∀ n, ¬Mem n spans := by
  cases spans with
  | nil => simp
  | cons s rest =>
      obtain ⟨n, hn⟩ := (ordered s List.mem_cons_self).inhabited
      constructor
      · exact nofun
      · intro none
        exact absurd ((mem_cons n s rest).2 (.inl hn)) (none n)

theorem merge_eq_nil_iff {spans : List Span} (ordered : Ordered spans) :
    merge spans = [] ↔ spans = [] := by
  rw [(merge_ordered spans ordered).eq_nil_iff, ordered.eq_nil_iff]
  simp only [mem_merge]

theorem apart_of_intersection {spans others : List Span} (h : intersection spans others = [])
    {n : Nat} (hn : Mem n spans) : ¬Mem n others := by
  intro hm
  have both := (mem_intersection n spans others).2 ⟨hn, hm⟩
  rw [h] at both
  exact mem_nil n both

theorem intersection_eq_nil_iff {spans others : List Span} (ordered : Ordered spans)
    (orderedOthers : Ordered others) :
    intersection spans others = [] ↔ ∀ n, Mem n spans → ¬Mem n others := by
  rw [(intersection_ordered ordered orderedOthers).eq_nil_iff]
  simp only [mem_intersection, not_and]

theorem isSubset_iff {spans : List Span} (ordered : Ordered spans) (others : List Span) :
    isSubset spans others = true ↔ ∀ n, Mem n spans → Mem n others := by
  rw [isSubset, List.isEmpty_iff, (difference_ordered ordered others).eq_nil_iff]
  simp only [mem_difference, not_and, not_not]

end Spans

end BadgeRights
