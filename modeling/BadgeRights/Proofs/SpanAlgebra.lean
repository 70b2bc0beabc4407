import BadgeRights.Proofs.Spans

set_option autoImplicit false

namespace BadgeRights.Spans

variable {s : Span} {rest spans others : List Span} {n : Nat}

theorem contains_eq_iff :
    contains spans n = contains others n ↔ (Mem n spans ↔ Mem n others) := by
  rw [Bool.eq_iff_iff, contains_eq_true, contains_eq_true]

section Subtraction

theorem contains_subtract (spans others : List Span) (n : Nat) :
    (contains (subtract spans others).1 n = true ↔ Mem n spans ∧ ¬Mem n others) ∧
      (contains (subtract spans others).2 n = true ↔ Mem n spans ∧ Mem n others) := by
  simp only [contains_eq_true]
  exact ⟨mem_difference n spans others, mem_intersection n spans others⟩

/-- What is taken away from a list and what stays, what two lists hold alone and what they share,
and what one of them holds: all this is right at every natural, whatever the spans are. That a
difference without spans means a subset takes a first list without reversed spans. -/
theorem subtraction_is_exact (spans others : List Span) :
    (∀ n : Nat,
      let (remaining, removed) := subtract spans others
      let compared := Comparison.between spans others
      (contains remaining n = true ↔ Mem n spans ∧ ¬Mem n others) ∧
        (contains removed n = true ↔ Mem n spans ∧ Mem n others) ∧
        (contains compared.firstOnly n = true ↔ Mem n spans ∧ ¬Mem n others) ∧
        (contains compared.secondOnly n = true ↔ Mem n others ∧ ¬Mem n spans) ∧
        (contains compared.overlaps n = true ↔ Mem n spans ∧ Mem n others) ∧
        (contains (union spans others) n = true ↔ Mem n spans ∨ Mem n others)) ∧
      (Ordered spans → (isSubset spans others = true ↔ ∀ n, Mem n spans → Mem n others)) := by
  constructor
  · intro n
    obtain ⟨remaining, removed⟩ := contains_subtract spans others n
    obtain ⟨remainingOthers, _⟩ := contains_subtract others spans n
    have either := (contains_eq_true (union spans others) n).trans (mem_union n spans others)
    exact ⟨remaining, removed, remaining, remainingOthers, removed, either⟩
  · intro ordered
    exact isSubset_iff ordered others

theorem reversed_span_subtracts :
    Ordered [⟨1, 20⟩] ∧ isSubset [⟨1, 20⟩] [⟨15, 5⟩, ⟨3, 25⟩, ⟨1, 4⟩] = true := by
  have ordered : Ordered [⟨1, 20⟩] := by decide
  refine ⟨ordered, ((subtraction_is_exact _ _).2 ordered).2 ?_⟩
  intro n member
  simp only [mem_cons, mem_nil, or_false, Span.mem_def] at member ⊢
  omega

-- A reversed span of the first list has no member and stays nevertheless.
example : isSubset [⟨5, 3⟩] [⟨10, 20⟩] = false := by decide

end Subtraction

section Merging

/-- No span is reversed, and between two spans there is a natural that is in neither. -/
structure Canonical (spans : List Span) : Prop where
  ordered : Ordered spans
  separate : spans.Pairwise fun s t => s.stop + 1 < t.start

theorem Canonical.tail (canonical : Canonical (s :: rest)) : Canonical rest :=
  ⟨(List.forall_mem_cons.1 canonical.ordered).2, canonical.separate.of_cons⟩

theorem Canonical.mem_start (canonical : Canonical (s :: rest)) : s.start ∈ s :=
  ⟨Nat.le_refl _, canonical.ordered s List.mem_cons_self⟩

theorem Canonical.lt_of_mem_tail (canonical : Canonical (s :: rest)) (later : Mem n rest) :
    s.stop + 1 < n := by
  obtain ⟨t, ht, hn⟩ := later
  have gap := (List.pairwise_cons.1 canonical.separate).1 t ht
  simp only [Span.mem_def] at hn
  omega

theorem Canonical.start_le (canonical : Canonical (s :: rest)) (member : Mem n (s :: rest)) :
    s.start ≤ n := by
  have bounds := canonical.mem_start
  simp only [Span.mem_def] at bounds
  rcases (mem_cons n s rest).1 member with here | later
  · exact here.1
  · have := canonical.lt_of_mem_tail later
    omega

theorem Canonical.stop_le {t : Span} (canonicalOther : Canonical (t :: others))
    (start : s.start = t.start)
    (inside : ∀ n, Mem n (s :: rest) → Mem n (t :: others)) : s.stop ≤ t.stop := by
  by_cases short : s.stop ≤ t.stop
  · exact short
  · -- The longer span would have a member in the gap behind the other one.
    have bounds := canonicalOther.mem_start
    simp only [Span.mem_def] at bounds
    have next : t.stop + 1 ∈ s := by
      simp only [Span.mem_def]
      omega
    rcases (mem_cons _ t others).1 (inside _ ((mem_cons _ s rest).2 (.inl next))) with here | later
    · exact absurd here.2 (Nat.not_succ_le_self _)
    · exact absurd (canonicalOther.lt_of_mem_tail later) (Nat.lt_irrefl _)

theorem Canonical.first_eq {t : Span} (canonical : Canonical (s :: rest))
    (canonicalOther : Canonical (t :: others))
    (same : ∀ n, Mem n (s :: rest) ↔ Mem n (t :: others)) : s = t := by
  have forth := canonicalOther.start_le ((same _).1 ((mem_cons _ _ _).2 (.inl canonical.mem_start)))
  have back := canonical.start_le ((same _).2 ((mem_cons _ _ _).2 (.inl canonicalOther.mem_start)))
  have start : s.start = t.start := Nat.le_antisymm back forth
  have stop : s.stop = t.stop := Nat.le_antisymm
    (canonicalOther.stop_le start fun n => (same n).1)
    (canonical.stop_le start.symm fun n => (same n).2)
  cases s
  cases t
  simp_all

theorem Canonical.mem_tail (canonical : Canonical (s :: rest)) (later : Mem n rest)
    (member : Mem n (s :: others)) : Mem n others := by
  refine ((mem_cons n s others).1 member).resolve_left ?_
  intro here
  have := canonical.lt_of_mem_tail later
  simp only [Span.mem_def] at here
  omega

theorem Canonical.apart (canonical : Canonical spans) : spans.Pairwise Apart :=
  canonical.separate.imp fun gap => Span.apart_of_stop_lt (Nat.lt_of_succ_lt gap)

theorem Canonical.ext (canonical : Canonical spans) (canonicalOther : Canonical others)
    (same : ∀ n, Mem n spans ↔ Mem n others) : spans = others := by
  induction spans generalizing others with
  | nil =>
      refine (canonicalOther.ordered.eq_nil_iff.2 fun n member => ?_).symm
      exact mem_nil n ((same n).2 member)
  | cons s rest ih =>
      cases others with
      | nil =>
          refine canonical.ordered.eq_nil_iff.2 fun n member => ?_
          exact mem_nil n ((same n).1 member)
      | cons t more =>
          -- The first spans agree, and what is in the rests lies behind them.
          obtain rfl := canonical.first_eq canonicalOther same
          rw [ih canonical.tail canonicalOther.tail]
          intro n
          constructor
          · intro later
            exact canonical.mem_tail later ((same n).1 ((mem_cons n s rest).2 (.inr later)))
          · intro later
            exact canonicalOther.mem_tail later ((same n).2 ((mem_cons n s more).2 (.inr later)))

theorem canonical_merge (ordered : Ordered spans) : Canonical (merge spans) :=
  ⟨merge_ordered spans ordered, pairwise_merge spans⟩

theorem merge_eq_iff (ordered : Ordered spans) (orderedOthers : Ordered others) :
    merge spans = merge others ↔ ∀ n, Mem n spans ↔ Mem n others := by
  constructor
  · intro merged
    exact mem_iff_of_merge_eq merged
  · intro same
    refine (canonical_merge ordered).ext (canonical_merge orderedOthers) fun n => ?_
    simp only [mem_merge, same]

theorem before_refl (s : Span) : before s s = true := by
  simp [before]

theorem pairwise_before_joinFrom (current : Span) (spans : List Span)
    (sorted : spans.Pairwise (before · · = true))
    (follows : ∀ t ∈ spans, current.start ≤ t.start ∧
      (current.stop + 1 < current.start → before current t = true)) :
    ((joinFrom current spans).Pairwise (before · · = true)) ∧
      ∀ t ∈ joinFrom current spans, before current t = true := by
  induction spans generalizing current with
  | nil => simp [joinFrom, before_refl]
  | cons s rest ih =>
      obtain ⟨first, tail⟩ := List.pairwise_cons.1 sorted
      obtain ⟨here, later⟩ := List.forall_mem_cons.1 follows
      unfold joinFrom
      by_cases touches : s.start ≤ current.stop + 1
      · -- What is joined to another span is not reversed, so that nothing is asked of its stop.
        rw [if_pos touches]
        obtain ⟨joined, grown⟩ := ih ⟨current.start, max current.stop s.stop⟩ tail (by
          intro t ht
          refine ⟨(later t ht).1, fun reversed => ?_⟩
          dsimp only at reversed
          omega)
        refine ⟨joined, fun t ht => before_trans _ _ _ ?_ (grown t ht)⟩
        simp [before]
      · rw [if_neg touches]
        obtain ⟨joined, behind⟩ := ih s tail fun t ht =>
          ⟨start_le_of_before s t (first t ht), fun _ => first t ht⟩
        have next : before current s = true := by
          by_cases start : current.start < s.start
          · simp [before, start]
          · exact here.2 (by omega)
        have all : ∀ t ∈ joinFrom s rest, before current t = true :=
          fun t ht => before_trans current s t next (behind t ht)
        exact ⟨List.pairwise_cons.2 ⟨all, joined⟩,
          List.forall_mem_cons.2 ⟨before_refl current, all⟩⟩

theorem sort_merge (spans : List Span) : sort (merge spans) = merge spans := by
  have sorted := Order.pairwise_sortBy before before_total before_trans spans
  refine Order.sortBy_of_pairwise before _ ?_
  unfold merge join
  split
  · exact List.Pairwise.nil
  · rename_i s rest h
    rw [sort] at h
    rw [h] at sorted
    obtain ⟨first, tail⟩ := List.pairwise_cons.1 sorted
    exact (pairwise_before_joinFrom s rest tail fun t ht =>
      ⟨start_le_of_before s t (first t ht), fun _ => first t ht⟩).1

theorem joinFrom_of_separate (current : Span) (spans : List Span)
    (separate : (current :: spans).Pairwise fun s t => s.stop + 1 < t.start) :
    joinFrom current spans = current :: spans := by
  induction spans generalizing current with
  | nil => rfl
  | cons s rest ih =>
      obtain ⟨first, tail⟩ := List.pairwise_cons.1 separate
      have gap := first s List.mem_cons_self
      simp [joinFrom, Nat.not_le.2 gap, ih s tail]

theorem merge_merge (spans : List Span) : merge (merge spans) = merge spans := by
  have separate := pairwise_merge spans
  rw [merge, sort_merge]
  cases merged : merge spans with
  | nil => rfl
  | cons s rest => exact joinFrom_of_separate s rest (merged ▸ separate)

theorem merge_eq_of_perm (perm : spans.Perm others) : merge spans = merge others :=
  congrArg join (Order.sortBy_eq_of_perm before before_total before_trans before_antisymm perm)

/-- The merged list has the members of the list that was merged, with gaps between its spans; merged
again it stays as it is, and the order of the spans does not matter. Among lists without reversed
spans it stands for all that have the same members, so that a span may be there twice or in pieces. -/
theorem merge_is_canonical (spans : List Span) :
    (∀ n, contains (merge spans) n = contains spans n) ∧
      ((merge spans).Pairwise fun s t => s.stop + 1 < t.start) ∧
      merge (merge spans) = merge spans ∧
      (∀ others, others.Perm spans → merge others = merge spans) ∧
      (Ordered spans →
        Ordered (merge spans) ∧
          (∀ others, Ordered others →
            (merge others = merge spans ↔ ∀ n, contains others n = contains spans n)) ∧
          (∀ others, (∀ s, s ∈ others ↔ s ∈ spans) → merge others = merge spans) ∧
          ∀ pieces : Span → List Span,
            (∀ s ∈ spans, Ordered (pieces s) ∧ ∀ n, Mem n (pieces s) ↔ n ∈ s) →
              merge (spans.flatMap pieces) = merge spans) := by
  refine ⟨?_, pairwise_merge spans, merge_merge spans, fun others => merge_eq_of_perm, ?_⟩
  · intro n
    rw [contains_eq_iff, mem_merge]
  · intro ordered
    refine ⟨merge_ordered spans ordered, ?_, ?_, ?_⟩
    · intro others orderedOthers
      simp only [merge_eq_iff orderedOthers ordered, contains_eq_iff]
    · intro others same
      refine (merge_eq_iff (fun s hs => ordered s ((same s).1 hs)) ordered).2 fun n => ?_
      simp only [Mem, same]
    · intro pieces exact
      refine (merge_eq_iff ?_ ordered).2 fun n => ?_
      · intro piece hpiece
        obtain ⟨s, hs, hpiece⟩ := List.mem_flatMap.1 hpiece
        exact (exact s hs).1 piece hpiece
      · rw [mem_flatMap]
        exact exists_congr fun s => and_congr_right fun hs => (exact s hs).2 n

theorem scattered_spans_merge :
    let spans : List Span := [⟨20, 22⟩, ⟨5, 15⟩, ⟨1, 4⟩]
    let others : List Span := [⟨1, 10⟩, ⟨20, 22⟩, ⟨11, 15⟩, ⟨20, 21⟩]
    let pieces : Span → List Span := fun s => [s, .single s.start]
    (Ordered spans ∧ Ordered others) ∧
      merge others = merge spans ∧ merge (spans.flatMap pieces) = merge spans := by
  intro spans others pieces
  have ordered : Ordered spans ∧ Ordered others := by decide
  obtain ⟨_, _, _, _, canonical⟩ := merge_is_canonical spans
  obtain ⟨_, sameMembers, _, fragments⟩ := canonical ordered.1
  refine ⟨ordered, (sameMembers others ordered.2).2 fun n => ?_, fragments pieces fun s hs => ?_⟩
  · simp only [contains_eq_iff, spans, others, mem_cons, mem_nil, or_false, Span.mem_def]
    omega
  · have first : s.start ∈ s := ⟨Nat.le_refl _, ordered.1 s hs⟩
    refine ⟨List.forall_mem_cons.2 ⟨ordered.1 s hs, ?_⟩, fun n => ?_⟩
    · simp [Span.single, Span.Ordered]
    · simp only [pieces, mem_cons, mem_nil, or_false, Span.single, Span.mem_def] at first ⊢
      omega

end Merging

section Complements

variable {low high : Nat}

theorem canonical_difference (ordered : Ordered spans) (others : List Span) :
    Canonical (difference spans others) :=
  ⟨difference_ordered ordered others, pairwise_merge _⟩

theorem canonical_intersection (ordered : Ordered spans) (orderedOthers : Ordered others) :
    Canonical (intersection spans others) :=
  ⟨intersection_ordered ordered orderedOthers, pairwise_merge _⟩

theorem canonical_complement (spans : List Span) (low high : Nat) :
    Canonical (complement spans low high) := by
  refine ⟨complement_ordered spans low high, ?_⟩
  unfold complement
  by_cases bounds : low ≤ high
  · rw [if_pos bounds]
    exact pairwise_merge _
  · rw [if_neg bounds]
    exact List.Pairwise.nil

theorem complement_complement (ordered : Ordered spans) (bounds : low ≤ high) :
    complement (complement spans low high) low high = intersection spans [⟨low, high⟩] := by
  have canonical := canonical_intersection ordered (single_ordered.2 bounds)
  refine (canonical_complement _ low high).ext canonical fun n => ?_
  simp only [mem_complement, mem_intersection, mem_cons, mem_nil, or_false, Span.mem_def]
  by_cases inside : low ≤ n ∧ n ≤ high <;> simp [inside]

theorem complement_union (spans others : List Span) (low high : Nat) :
    complement (union spans others) low high =
      intersection (complement spans low high) (complement others low high) := by
  have first := canonical_complement spans low high
  have second := canonical_complement others low high
  refine (canonical_complement _ low high).ext
    (canonical_intersection first.ordered second.ordered) fun n => ?_
  simp only [mem_complement, mem_union, mem_intersection, not_or]
  by_cases inside : low ≤ n ∧ n ≤ high <;> simp [inside]

theorem intersection_comm (ordered : Ordered spans) (orderedOthers : Ordered others) :
    intersection spans others = intersection others spans := by
  refine (canonical_intersection ordered orderedOthers).ext
    (canonical_intersection orderedOthers ordered) fun n => ?_
  simp only [mem_intersection, and_comm]

theorem difference_eq_intersection (ordered : Ordered spans)
    (inside : ∀ n, Mem n spans → low ≤ n ∧ n ≤ high) (others : List Span) :
    difference spans others = intersection spans (complement others low high) := by
  have outside := canonical_complement others low high
  refine (canonical_difference ordered others).ext
    (canonical_intersection ordered outside.ordered) fun n => ?_
  simp only [mem_difference, mem_intersection, mem_complement]
  by_cases member : Mem n spans
  · simp [member, inside n member]
  · simp [member]

/-- The complement of a complement, the complement of a union, the intersection in either order, and
the difference as an intersection with a complement: the lists are equal, not only their members. -/
theorem spans_obey_set_laws (ordered : Ordered spans) (orderedOthers : Ordered others)
    (bounds : low ≤ high) :
    complement (complement spans low high) low high = intersection spans [⟨low, high⟩] ∧
      complement (union spans others) low high =
        intersection (complement spans low high) (complement others low high) ∧
      intersection spans others = intersection others spans ∧
      ((∀ n, Mem n spans → low ≤ n ∧ n ≤ high) →
        (subtract spans others).1 = intersection spans (complement others low high)) := by
  refine ⟨complement_complement ordered bounds, complement_union spans others low high,
    intersection_comm ordered orderedOthers, ?_⟩
  intro inside
  exact difference_eq_intersection ordered inside others

theorem overlapping_spans_obey :
    let spans : List Span := [⟨5, 15⟩, ⟨0, 6⟩, ⟨17, 20⟩]
    let others : List Span := [⟨10, maxValue + 1⟩, ⟨3, 4⟩]
    (Ordered spans ∧ Ordered others ∧ 0 ≤ 20 ∧ ∀ n, Mem n spans → 0 ≤ n ∧ n ≤ 20) ∧
      complement (complement spans 0 20) 0 20 = [⟨0, 15⟩, ⟨17, 20⟩] ∧
      intersection (complement spans 0 20) (complement others 0 20) = [] ∧
      intersection others spans = [⟨3, 4⟩, ⟨10, 15⟩, ⟨17, 20⟩] ∧
      (subtract spans others).1 = [⟨0, 2⟩, ⟨5, 9⟩] := by
  intro spans others
  have ordered : Ordered spans := by decide
  have orderedOthers : Ordered others := by decide
  have inside : ∀ n, Mem n spans → 0 ≤ n ∧ n ≤ 20 := by
    intro n member
    simp only [spans, mem_cons, mem_nil, or_false, Span.mem_def] at member
    omega
  obtain ⟨twice, ofUnion, swapped, difference⟩ :=
    spans_obey_set_laws ordered orderedOthers (Nat.zero_le 20)
  refine ⟨⟨ordered, orderedOthers, Nat.zero_le 20, inside⟩, ?_, ?_, ?_, ?_⟩
  · rw [twice]
    decide
  · rw [← ofUnion]
    decide
  · rw [← swapped]
    decide
  · rw [difference inside]
    decide

end Complements

end BadgeRights.Spans
