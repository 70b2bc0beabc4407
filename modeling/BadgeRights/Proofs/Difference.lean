import BadgeRights.Proofs.Tiling
import BadgeRights.Difference

set_option autoImplicit false

namespace BadgeRights

namespace Difference

variable {first second : List Detail}

theorem mem_overlaps {o : Overlap} :
    o ∈ (between first second).overlaps ↔
      o.first ∈ first ∧ o.second ∈ second ∧
        (o.second.region.cut o.first.region).shared = some o.region := by
  simp only [between, List.mem_flatMap, List.mem_filterMap, Detail.split, Option.map_eq_some_iff]
  constructor
  · intro h
    rcases h with ⟨a, ha, b, hb, shared, meet, rfl⟩
    exact ⟨ha, hb, meet⟩
  · intro h
    exact ⟨o.first, h.1, o.second, h.2.1, o.region, h.2.2, rfl⟩

theorem mem_overlap {o : Overlap} (h : o ∈ (between first second).overlaps) (p : Point) :
    p ∈ o.region ↔ p ∈ o.first ∧ p ∈ o.second := by
  obtain ⟨_, _, meet⟩ := mem_overlaps.1 h
  exact (Region.mem_shared meet p).trans and_comm

theorem exists_overlap {a b : Detail} (ha : a ∈ first) (hb : b ∈ second) {p : Point}
    (inFirst : p ∈ a) (inSecond : p ∈ b) :
    ∃ o ∈ (between first second).overlaps, o.first = a ∧ o.second = b ∧ p ∈ o.region := by
  cases meet : (b.region.cut a.region).shared with
  | none => exact absurd ⟨inSecond, inFirst⟩ (Region.not_shared meet p)
  | some shared =>
      refine ⟨⟨shared, a, b⟩, mem_overlaps.2 ⟨ha, hb, meet⟩, rfl, rfl, ?_⟩
      exact (Region.mem_shared meet p).2 ⟨inSecond, inFirst⟩

theorem mem_changedRegions {old new : List Detail} {r : Region} :
    r ∈ changedRegions old new ↔
      (∃ d ∈ (between old new).firstOnly, d.region = r) ∨
        (∃ d ∈ (between old new).secondOnly, d.region = r) ∨
        ∃ o ∈ (between old new).overlaps, o.first.payload ≠ o.second.payload ∧ o.region = r := by
  simp only [changedRegions, List.mem_append, List.mem_map, List.mem_filter, or_and_right, exists_or,
    or_assoc, Overlap.isUnchanged, Bool.not_eq_true', beq_eq_false_iff_ne, and_assoc, ne_eq]

theorem exists_mem_changedRegions {old new : List Detail} (apartOld : old.Pairwise Apart)
    (apartNew : new.Pairwise Apart) (p : Point) :
    (∃ r ∈ changedRegions old new, p ∈ r) ↔
      Detail.payloadAt? old p ≠ Detail.payloadAt? new p := by
  constructor
  · intro h
    rcases h with ⟨r, hr, hp⟩
    rcases mem_changedRegions.1 hr with ⟨d, hd, rfl⟩ | ⟨d, hd, rfl⟩ | ⟨o, ho, differ, rfl⟩
    · obtain ⟨⟨a, ha, inOld⟩, outside⟩ := (Detail.mem_carveAll new old p).1 ⟨d, hd, hp⟩
      rw [Detail.payloadAt?_of_mem apartOld ha inOld, (Detail.payloadAt?_eq_none new p).2 outside]
      simp
    · obtain ⟨⟨b, hb, inNew⟩, outside⟩ := (Detail.mem_carveAll old new p).1 ⟨d, hd, hp⟩
      rw [Detail.payloadAt?_of_mem apartNew hb inNew, (Detail.payloadAt?_eq_none old p).2 outside]
      simp
    · obtain ⟨ha, hb, _⟩ := mem_overlaps.1 ho
      obtain ⟨inOld, inNew⟩ := (mem_overlap ho p).1 hp
      rw [Detail.payloadAt?_of_mem apartOld ha inOld, Detail.payloadAt?_of_mem apartNew hb inNew]
      simpa using differ
  · intro differ
    by_cases inOld : ∃ a ∈ old, p ∈ a
    · rcases inOld with ⟨a, ha, hp⟩
      by_cases inNew : ∃ b ∈ new, p ∈ b
      · rcases inNew with ⟨b, hb, hq⟩
        rw [Detail.payloadAt?_of_mem apartOld ha hp, Detail.payloadAt?_of_mem apartNew hb hq,
          ne_eq, Option.some.injEq] at differ
        obtain ⟨o, ho, rfl, rfl, inBoth⟩ := exists_overlap ha hb hp hq
        exact ⟨o.region, mem_changedRegions.2 (.inr (.inr ⟨o, ho, differ, rfl⟩)), inBoth⟩
      · have outside : ∀ b ∈ new, ¬p ∈ b := fun b hb hq => inNew ⟨b, hb, hq⟩
        obtain ⟨d, hd, left⟩ := (Detail.mem_carveAll new old p).2 ⟨⟨a, ha, hp⟩, outside⟩
        exact ⟨d.region, mem_changedRegions.2 (.inl ⟨d, hd, rfl⟩), left⟩
    · have outside : ∀ a ∈ old, ¬p ∈ a := fun a ha hp => inOld ⟨a, ha, hp⟩
      by_cases inNew : ∃ b ∈ new, p ∈ b
      · obtain ⟨d, hd, left⟩ := (Detail.mem_carveAll old new p).2 ⟨inNew, outside⟩
        exact ⟨d.region, mem_changedRegions.2 (.inr (.inl ⟨d, hd, rfl⟩)), left⟩
      · -- No payload on either side is no difference.
        have outsideNew : ∀ b ∈ new, ¬p ∈ b := fun b hb hp => inNew ⟨b, hb, hp⟩
        rw [(Detail.payloadAt?_eq_none old p).2 outside,
          (Detail.payloadAt?_eq_none new p).2 outsideNew] at differ
        exact absurd rfl differ

theorem ordered_of_mem_changedRegions {old new : List Detail} (tilingOld : Detail.Tiling old)
    (tilingNew : Detail.Tiling new) : ∀ r ∈ changedRegions old new, r.Ordered := by
  intro r hr
  rcases mem_changedRegions.1 hr with ⟨d, hd, rfl⟩ | ⟨d, hd, rfl⟩ | ⟨o, ho, _, rfl⟩
  · exact (tilingOld.carveAll new tilingNew.ordered).ordered d hd
  · exact (tilingNew.carveAll old tilingOld.ordered).ordered d hd
  · obtain ⟨ha, hb, meet⟩ := mem_overlaps.1 ho
    have tidy := Region.cut_tidy _ _ (tilingNew.ordered _ hb) (tilingOld.ordered _ ha)
    exact tidy.shared_ordered _ meet

theorem inhabited_of_mem_overlaps {old new : List Detail} (tilingOld : Detail.Tiling old)
    (tilingNew : Detail.Tiling new) {o : Overlap} (ho : o ∈ (between old new).overlaps) :
    ∃ p : Point, p ∈ o.region := by
  obtain ⟨ha, hb, meet⟩ := mem_overlaps.1 ho
  have tidy := Region.cut_tidy _ _ (tilingNew.ordered _ hb) (tilingOld.ordered _ ha)
  exact tidy.shared_inhabited _ meet

end Difference

end BadgeRights
