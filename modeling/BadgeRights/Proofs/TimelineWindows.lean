import BadgeRights.Proofs.Timeline
import BadgeRights.Proofs.SpanOrder

set_option autoImplicit false

namespace BadgeRights.Timeline

variable {V : Type} {timeline other : Timeline V} {item : TimelineItem V} {t : Nat}

instance : Membership Nat (TimelineItem V) := ⟨fun item t => Spans.Mem t item.times⟩

instance (t : Nat) (item : TimelineItem V) : Decidable (t ∈ item) :=
  inferInstanceAs (Decidable (Spans.Mem t item.times))

theorem isActive_eq_decide (t : Nat) :
    (isActive t : TimelineItem V → Bool) = fun item => decide (t ∈ item) := by
  funext item
  rw [Bool.eq_iff_iff, isActive_eq_true, decide_eq_true_eq]
  rfl

section Accepted

structure Unambiguous (timeline : Timeline V) : Prop where
  valid : ∀ item ∈ timeline, Spans.Valid item.times
  within : ∀ item ∈ timeline, item.times.Pairwise Apart
  across : timeline.Pairwise Apart

theorem apart_iff_windows {item other : TimelineItem V} :
    Apart item other ↔ ∀ s ∈ item.times, ∀ s' ∈ other.times, Apart s s' := by
  constructor
  · intro apart s hs s' hs' t inFirst inSecond
    exact apart t ⟨s, hs, inFirst⟩ ⟨s', hs', inSecond⟩
  · intro windows t active activeToo
    rcases active with ⟨s, hs, inFirst⟩
    rcases activeToo with ⟨s', hs', inSecond⟩
    exact windows s hs s' hs' t inFirst inSecond

theorem unambiguous_iff :
    timeline.Unambiguous ↔ Spans.Valid (allTimes timeline) ∧ (allTimes timeline).Pairwise Apart := by
  have valid : Spans.Valid (allTimes timeline) ↔ ∀ item ∈ timeline, Spans.Valid item.times := by
    simp only [Spans.Valid, allTimes, List.forall_mem_flatMap]
  rw [valid, allTimes, List.pairwise_flatMap, ← List.Pairwise.iff fun _ _ => apart_iff_windows]
  exact ⟨fun h => ⟨h.valid, h.within, h.across⟩, fun h => ⟨h.1, h.2.1, h.2.2⟩⟩

theorem validate_eq_ok : validate timeline = .ok () ↔ timeline.Unambiguous := by
  rw [unambiguous_iff, ← Spans.validateDisjoint_eq_ok]
  constructor
  · intro h
    obtain ⟨_, _, disjoint⟩ := Checked.bind_eq_ok.1 h
    split at disjoint
    · assumption
    · cases disjoint
  · intro disjoint
    -- The check of all windows together repeats that of each item, so that it says enough.
    have valid := (unambiguous_iff.2 (Spans.validateDisjoint_eq_ok.1 disjoint)).valid
    refine Checked.bind_eq_ok.2 ⟨(), ?_, ?_⟩
    · exact Checked.forM_eq_ok.2 fun item hitem => (Spans.validate_eq_ok _).2 (valid item hitem)
    · rw [disjoint]

theorem Unambiguous.countP_isActive (unambiguous : timeline.Unambiguous) (t : Nat) :
    timeline.countP (isActive t) = if ∃ item ∈ timeline, t ∈ item then 1 else 0 := by
  rw [isActive_eq_decide]
  exact countP_mem_of_apart unambiguous.across t

theorem Unambiguous.itemAt?_eq_some_iff (unambiguous : timeline.Unambiguous) :
    itemAt? timeline t = some item ↔ item ∈ timeline ∧ t ∈ item := by
  rw [itemAt?, isActive_eq_decide]
  constructor
  · intro found
    exact ⟨List.mem_of_find?_eq_some found, by simpa using List.find?_some found⟩
  · intro h
    rcases h with ⟨hitem, active⟩
    exact find?_mem_of_apart unambiguous.across hitem active

theorem Unambiguous.of_perm (unambiguous : timeline.Unambiguous) (perm : other.Perm timeline) :
    other.Unambiguous where
  valid item hitem := unambiguous.valid item (perm.mem_iff.1 hitem)
  within item hitem := unambiguous.within item (perm.mem_iff.1 hitem)
  across := (perm.pairwise_iff Apart.symm).2 unambiguous.across

theorem Unambiguous.itemAt?_of_perm (unambiguous : timeline.Unambiguous)
    (perm : other.Perm timeline) (t : Nat) : itemAt? other t = itemAt? timeline t := by
  ext item
  rw [(unambiguous.of_perm perm).itemAt?_eq_some_iff, unambiguous.itemAt?_eq_some_iff,
    perm.mem_iff]

/-- Valid windows of which no two share an instant: that is all that makes a timeline accepted. Then at
most one item is active at an instant, and it is the same in whatever order the items stand. -/
theorem accepted_iff_unambiguous (timeline : Timeline V) :
    (validate timeline = .ok () ↔ timeline.Unambiguous) ∧
      (validate timeline = .ok () →
        (∀ t, timeline.countP (isActive t) ≤ 1) ∧
          ∀ other, other.Perm timeline →
            validate other = .ok () ∧ ∀ t, itemAt? other t = itemAt? timeline t) := by
  refine ⟨validate_eq_ok, fun accepted => ⟨fun t => ?_, fun other perm => ⟨?_, ?_⟩⟩⟩
  · rw [(validate_eq_ok.1 accepted).countP_isActive t]
    split <;> omega
  · exact validate_eq_ok.2 ((validate_eq_ok.1 accepted).of_perm perm)
  · exact (validate_eq_ok.1 accepted).itemAt?_of_perm perm

def inTurn : Timeline String :=
  [⟨[⟨11, 20⟩, ⟨1, 5⟩], "alice"⟩, ⟨[⟨40, 100⟩, ⟨6, 10⟩], "bob"⟩]

def nested : Timeline String :=
  [⟨[⟨1, 100⟩], "alice"⟩, ⟨[⟨200, 300⟩], "carol"⟩, ⟨[⟨50, 60⟩], "bob"⟩]

theorem inTurn_accepted :
    validate inTurn = .ok () ∧ inTurn.countP (isActive 10) ≤ 1 ∧
      itemAt? inTurn.reverse 10 = itemAt? inTurn 10 ∧ ¬nested.Unambiguous := by
  have accepted : validate inTurn = .ok () := rfl
  have refused : validate nested ≠ .ok () := nofun
  obtain ⟨once, reordered⟩ := (accepted_iff_unambiguous inTurn).2 accepted
  obtain ⟨_, same⟩ := reordered _ inTurn.reverse_perm
  exact ⟨accepted, once 10, same 10, mt (accepted_iff_unambiguous nested).1.2 refused⟩

end Accepted

section Filled

variable {empty : V} {last : Nat}

theorem Unambiguous.filled (unambiguous : timeline.Unambiguous) (empty : V)
    (bound : last ≤ maxValue) : (filled timeline empty last).Unambiguous := by
  rcases filled_cases timeline empty last with ⟨_, same⟩ | ⟨_, grown⟩
  · rwa [same]
  · rw [grown]
    have canonical := Spans.canonical_complement (declaredTimes timeline) 1 last
    have valid : Spans.Valid (gapItem timeline empty last).times := by
      refine canonical.ordered.valid fun t unset => ?_
      obtain ⟨⟨first, upTo⟩, _⟩ := (Spans.mem_complement t _ 1 last).1 unset
      exact ⟨first, Nat.le_trans upTo bound⟩
    have apart : ∀ item ∈ timeline, Apart item (gapItem timeline empty last) := by
      intro item hitem t active unset
      -- Where the gaps are, no item is active.
      exact itemAt?_eq_none_iff.1 (mem_gapItem.1 unset).2 (mem_declaredTimes.2 ⟨item, hitem, active⟩)
    constructor
    · exact List.forall_mem_append.2 ⟨unambiguous.valid, List.forall_mem_singleton.2 valid⟩
    · exact List.forall_mem_append.2 ⟨unambiguous.within, List.forall_mem_singleton.2 canonical.apart⟩
    · refine List.pairwise_append.2 ⟨unambiguous.across, List.pairwise_singleton _ _, ?_⟩
      intro item hitem
      exact List.forall_mem_singleton.2 (apart item hitem)

theorem lookups_filled_of_lt (beyond : last < t) :
    indexAt? (filled timeline empty last) t = indexAt? timeline t ∧
      itemAt? (filled timeline empty last) t = itemAt? timeline t := by
  have outside : ¬t ≤ last := by omega
  constructor
  · rcases filled_cases timeline empty last with ⟨_, same⟩ | ⟨_, grown⟩
    · rw [same]
    · have inactive : isActive t (gapItem timeline empty last) = false := by
        rw [Bool.eq_false_iff, ne_eq, isActive_eq_true, mem_gapItem]
        simp [outside]
      rw [grown]
      simp [indexAt?, List.findIdx?_append, inactive]
  · rw [itemAt?_filled]
    simp [mem_gapItem, outside]

theorem filled_of_covered (covered : ∀ t, 1 ≤ t → t ≤ last → (itemAt? timeline t).isSome) :
    filled timeline empty last = timeline := by
  have ordered : Spans.Ordered (gapItem timeline empty last).times :=
    Spans.complement_ordered (declaredTimes timeline) 1 last
  have nothing : (gapItem timeline empty last).times = [] := by
    refine ordered.eq_nil_iff.2 fun t unset => ?_
    obtain ⟨⟨first, upTo⟩, none⟩ := mem_gapItem.1 unset
    simpa [none] using covered t first upTo
  rcases filled_cases timeline empty last with ⟨_, same⟩ | ⟨gaps, _⟩
  · exact same
  · exact absurd nothing gaps

/-- The items of an accepted timeline stay as they are, and at most one is added, which gives the field
the empty value where it was unset. The result is accepted; up to the last instant one item is active
at every instant, past it the lookups are those of before; and there are no gaps left to fill. -/
theorem filled_fills_gaps (accepted : validate timeline = .ok ()) (empty : V)
    (maxTime : Option Nat) (inside : ∀ last ∈ maxTime, last ∈ Span.full) :
    let last := maxTime.getD maxValue
    let full := filled timeline empty last
    (∃ added, full = timeline ++ added ∧ added.length ≤ 1) ∧
      validate full = .ok () ∧
      (∀ t, 1 ≤ t → t ≤ last →
        full.countP (isActive t) = 1 ∧
          (itemAt? full t).map TimelineItem.value = some (valueAt timeline empty t)) ∧
      (∀ t, last < t →
        indexAt? full t = indexAt? timeline t ∧ itemAt? full t = itemAt? timeline t) ∧
      filled full empty last = full := by
  intro last full
  have bound : last ≤ maxValue := by
    cases maxTime with
    | none => exact Nat.le_refl _
    | some last => exact (inside last rfl).2
  have unambiguous : full.Unambiguous := (validate_eq_ok.1 accepted).filled empty bound
  have value (t : Nat) (first : 1 ≤ t) (upTo : t ≤ last) :
      (itemAt? full t).map TimelineItem.value = some (valueAt timeline empty t) :=
    value_filled_of_le timeline empty first upTo
  refine ⟨?_, validate_eq_ok.2 unambiguous, ?_, fun t => lookups_filled_of_lt, ?_⟩
  · rcases filled_cases timeline empty last with ⟨_, same⟩ | ⟨_, grown⟩
    · exact ⟨[], same.trans (List.append_nil timeline).symm, Nat.zero_le _⟩
    · exact ⟨[gapItem timeline empty last], grown, Nat.le_refl _⟩
  · intro t first upTo
    obtain ⟨item, found, _⟩ := Option.map_eq_some_iff.1 (value t first upTo)
    have active : ∃ item ∈ full, t ∈ item := ⟨item, unambiguous.itemAt?_eq_some_iff.1 found⟩
    exact ⟨by rw [unambiguous.countP_isActive, if_pos active], value t first upTo⟩
  · refine filled_of_covered fun t first upTo => ?_
    rw [← Option.isSome_map, value t first upTo]
    rfl

theorem inTurn_filled :
    let full := filled inTurn "nobody" 50
    (validate inTurn = .ok () ∧ 50 ∈ Span.full) ∧
      full = inTurn ++ [⟨[⟨21, 39⟩], "nobody"⟩] ∧ validate full = .ok () ∧
      full.countP (isActive 30) = 1 ∧
      (itemAt? full 30).map TimelineItem.value = some "nobody" ∧
      itemAt? full 60 = itemAt? inTurn 60 ∧ filled full "nobody" 50 = full := by
  intro full
  have accepted : validate inTurn = .ok () := rfl
  have inside : 50 ∈ Span.full := by decide
  have fills := filled_fills_gaps accepted "nobody" (some 50) (by simpa using inside)
  obtain ⟨_, valid, within, past, settled⟩ := fills
  obtain ⟨once, value⟩ := within 30 (by decide) (by decide)
  exact ⟨⟨accepted, inside⟩, rfl, valid, once, value, (past 60 (by decide)).2, settled⟩

end Filled

end BadgeRights.Timeline
