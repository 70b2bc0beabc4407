import BadgeRights.Proofs.Inhabited

set_option autoImplicit false

namespace BadgeRights

namespace Region

theorem overlaps_iff {value handled : Region} (orderedValue : value.Ordered)
    (orderedHandled : handled.Ordered) :
    value.overlaps handled = true ↔ ∃ p : Point, p ∈ value ∧ p ∈ handled := by
  rw [overlaps, Option.isSome_iff_ne_none, ne_eq, shared_eq_none_iff orderedValue orderedHandled,
    not_not]

/-- The shared part of a cut holds the common points, and each of the other points of the value lies
in one piece. Regions without common points stay whole; what has a point is cut into pieces that have
points; and it does not matter for an overlap which of the two regions is cut. -/
theorem cut_partitions (value handled : Region) (orderedValue : value.Ordered)
    (orderedHandled : handled.Ordered) :
    (∀ p : Point, (∃ s ∈ (value.cut handled).shared, p ∈ s) ↔ p ∈ value ∧ p ∈ handled) ∧
      (∀ p : Point, (value.cut handled).outside.countP (p ∈ ·) =
        if p ∈ value ∧ ¬p ∈ handled then 1 else 0) ∧
      ((value.cut handled).shared = none ↔ ¬∃ p : Point, p ∈ value ∧ p ∈ handled) ∧
      ((value.cut handled).shared = none → (value.cut handled).outside = [value]) ∧
      ((∃ p : Point, p ∈ value) → ∀ piece ∈ (value.cut handled).outside, ∃ p : Point, p ∈ piece) ∧
      value.overlaps handled = handled.overlaps value := by
  have tidy := cut_tidy value handled orderedValue orderedHandled
  refine ⟨?_, ?_, shared_eq_none_iff orderedValue orderedHandled, outside_of_not_shared, ?_, ?_⟩
  · intro p
    exact (value.cut_exactAt handled p).2
  · intro p
    rw [countP_mem_of_apart tidy.apart p]
    exact if_congr (value.cut_exactAt handled p).1 rfl rfl
  · intro inhabited piece hpiece
    exact (tidy.outside_part piece hpiece).inhabited inhabited
  · rw [Bool.eq_iff_iff, overlaps_iff orderedValue orderedHandled,
      overlaps_iff orderedHandled orderedValue]
    simp only [and_comm]

section Crossing

def badgesTo (recipients : AddressList) (badgeIds transferTimes : Span) : Region :=
  { universal with badgeIds, transferTimes, toList := recipients }

theorem crossing_partitions :
    let value := badgesTo .everyone ⟨1, 20⟩ ⟨5, 9⟩
    let handled := badgesTo .everyoneButMint ⟨1, 10⟩ ⟨1, 9⟩
    (value.Ordered ∧ handled.Ordered) ∧
      (value.cut handled).outside.countP (⟨10, 1, 7, 1, "Mint", "", "", "", "", ""⟩ ∈ ·) = 1 ∧
      (value.cut handled).outside.countP (⟨10, 1, 7, 1, "Alice", "", "", "", "", ""⟩ ∈ ·) = 0 ∧
      (value.cut handled).shared ≠ none := by
  intro value handled
  have ordered : value.Ordered ∧ handled.Ordered := by decide
  have parts := cut_partitions value handled ordered.1 ordered.2
  refine ⟨ordered, ?_, ?_, ?_⟩
  · rw [parts.2.1, if_pos (by decide)]
  · rw [parts.2.1, if_neg (by decide)]
  · rw [ne_eq, parts.2.2.1, not_not]
    exact ⟨⟨10, 1, 7, 1, "Alice", "", "", "", "", ""⟩, by decide⟩

end Crossing

end Region

namespace Difference

open Detail

variable {first second : List Detail}

theorem mem_of_mem_split {a b : Detail} {o : Overlap} (h : o ∈ (a.split b).2) {p : Point}
    (hp : p ∈ o.region) : p ∈ a ∧ p ∈ b := by
  obtain ⟨shared, meet, rfl⟩ := Option.map_eq_some_iff.1 h
  exact ((Region.mem_shared meet p).1 hp).symm

theorem apart_overlaps (apartFirst : first.Pairwise Apart) (apartSecond : second.Pairwise Apart) :
    ((between first second).overlaps.map Overlap.region).Pairwise Apart := by
  rw [List.pairwise_map, between, List.pairwise_flatMap]
  constructor
  · -- Overlaps of one detail are apart because the details on the other side are.
    intro a _
    rw [List.pairwise_filterMap]
    refine apartSecond.imp ?_
    intro b c apart o ho other hother p inOne inOther
    exact apart p (mem_of_mem_split ho inOne).2 (mem_of_mem_split hother inOther).2
  · refine apartFirst.imp ?_
    intro a c apart o ho other hother p inOne inOther
    obtain ⟨b, _, ho⟩ := List.mem_filterMap.1 ho
    obtain ⟨d, _, hother⟩ := List.mem_filterMap.1 hother
    exact apart p (mem_of_mem_split ho inOne).1 (mem_of_mem_split hother inOther).1

theorem exists_mem_overlaps_iff (p : Point) :
    (∃ r ∈ (between first second).overlaps.map Overlap.region, p ∈ r) ↔
      (∃ a ∈ first, p ∈ a) ∧ ∃ b ∈ second, p ∈ b := by
  constructor
  · intro h
    rcases h with ⟨_, hr, hp⟩
    obtain ⟨o, ho, rfl⟩ := List.mem_map.1 hr
    obtain ⟨ha, hb, _⟩ := mem_overlaps.1 ho
    obtain ⟨inFirst, inSecond⟩ := (mem_overlap ho p).1 hp
    exact ⟨⟨o.first, ha, inFirst⟩, o.second, hb, inSecond⟩
  · intro h
    rcases h with ⟨⟨a, ha, inFirst⟩, b, hb, inSecond⟩
    obtain ⟨o, ho, _, _, hp⟩ := exists_overlap ha hb inFirst inSecond
    exact ⟨o.region, List.mem_map_of_mem ho, hp⟩

theorem countP_carveAll {handled details : List Detail} (tiling : Tiling details)
    (tilingHandled : Tiling handled) (p : Point) :
    (carveAll handled details).countP (p ∈ ·) =
      if (∃ d ∈ details, p ∈ d) ∧ ¬∃ h ∈ handled, p ∈ h then 1 else 0 := by
  have carved := (tiling.carveAll handled tilingHandled.ordered).apart
  rw [countP_mem_of_apart carved p]
  refine if_congr ?_ rfl rfl
  simp only [mem_carveAll, not_exists, not_and]

theorem said_of_mem_carveAll {handled details : List Detail} {d : Detail}
    (hd : d ∈ carveAll handled details) {p : Point} (hp : p ∈ d) :
    ∃ whole ∈ details, p ∈ whole ∧ d.windows = whole.windows ∧ d.payload = whole.payload := by
  obtain ⟨whole, hwhole, fragment⟩ := fragment_of_mem_carveAll hd
  exact ⟨whole, hwhole, fragment.inside p hp, fragment.windows, fragment.payload⟩

/-- The comparison of two lists of details tiles the points of both. A point of both lists lies in
one overlap, with the details that hold it attached; a point of one list lies in one of the details
that are left of it, which say of it what the list says. -/
theorem between_partitions (tilingFirst : Tiling first) (tilingSecond : Tiling second)
    (p : Point) :
    let inFirst := ∃ a ∈ first, p ∈ a
    let inSecond := ∃ b ∈ second, p ∈ b
    let difference := between first second
    (difference.overlaps.countP (p ∈ ·.region) = if inFirst ∧ inSecond then 1 else 0) ∧
      (difference.firstOnly.countP (p ∈ ·) = if inFirst ∧ ¬inSecond then 1 else 0) ∧
      (difference.secondOnly.countP (p ∈ ·) = if inSecond ∧ ¬inFirst then 1 else 0) ∧
      (∀ o ∈ difference.overlaps, p ∈ o.region →
        (o.first ∈ first ∧ p ∈ o.first) ∧ o.second ∈ second ∧ p ∈ o.second) ∧
      (∀ d ∈ difference.firstOnly, p ∈ d →
        ∃ a ∈ first, p ∈ a ∧ d.windows = a.windows ∧ d.payload = a.payload) ∧
      ∀ d ∈ difference.secondOnly, p ∈ d →
        ∃ b ∈ second, p ∈ b ∧ d.windows = b.windows ∧ d.payload = b.payload := by
  intro inFirst inSecond difference
  refine ⟨?_, countP_carveAll tilingFirst tilingSecond p,
    countP_carveAll tilingSecond tilingFirst p, ?_, ?_, ?_⟩
  · have counted := countP_mem_of_apart (apart_overlaps tilingFirst.apart tilingSecond.apart) p
    rw [List.countP_map] at counted
    exact counted.trans (if_congr (exists_mem_overlaps_iff p) rfl rfl)
  · intro o ho hp
    obtain ⟨ha, hb, _⟩ := mem_overlaps.1 ho
    obtain ⟨hfirst, hsecond⟩ := (mem_overlap ho p).1 hp
    exact ⟨⟨ha, hfirst⟩, hb, hsecond⟩
  · intro d hd hp
    exact said_of_mem_carveAll hd hp
  · intro d hd hp
    exact said_of_mem_carveAll hd hp

theorem stacked_partitions :
    let stacked := flatten stackingDeclarations
    let later := flatten [criteriaOn [⟨8, 30⟩]]
    (Tiling stacked ∧ Tiling later) ∧
      (between stacked later).overlaps.countP (mintPoint 9 ∈ ·.region) = 1 ∧
      (between stacked later).firstOnly.countP (mintPoint 9 ∈ ·) = 0 ∧
      (between stacked later).firstOnly.countP (mintPoint 7 ∈ ·) = 1 := by
  intro stacked later
  have tiling : Tiling stacked ∧ Tiling later :=
    ⟨tiling_flatten _ (by decide), tiling_flatten _ (by decide)⟩
  have inBoth := between_partitions tiling.1 tiling.2 (mintPoint 9)
  have inFirst := between_partitions tiling.1 tiling.2 (mintPoint 7)
  refine ⟨tiling, ?_, ?_, ?_⟩
  · rw [inBoth.1, if_pos (by decide)]
  · rw [inBoth.2.1, if_neg (by decide)]
  · rw [inFirst.2.1, if_pos (by decide)]

theorem apart_changedRegions {old new : List Detail} (tilingOld : Tiling old)
    (tilingNew : Tiling new) : (changedRegions old new).Pairwise Apart := by
  have onlyOld {p : Point} {d : Detail} (hd : d ∈ (between old new).firstOnly)
      (hp : p ∈ d.region) : (∃ a ∈ old, p ∈ a) ∧ ∀ b ∈ new, ¬p ∈ b :=
    (mem_carveAll new old p).1 ⟨d, hd, hp⟩
  have onlyNew {p : Point} {d : Detail} (hd : d ∈ (between old new).secondOnly)
      (hp : p ∈ d.region) : (∃ b ∈ new, p ∈ b) ∧ ∀ a ∈ old, ¬p ∈ a :=
    (mem_carveAll old new p).1 ⟨d, hd, hp⟩
  rw [changedRegions, List.map_append, List.pairwise_append, List.pairwise_append]
  refine ⟨⟨?_, ?_, ?_⟩, ?_, ?_⟩
  · exact List.pairwise_map.2 (tilingOld.carveAll new tilingNew.ordered).apart
  · exact List.pairwise_map.2 (tilingNew.carveAll old tilingOld.ordered).apart
  · simp only [List.forall_mem_map]
    intro d hd e he p inOld inNew
    obtain ⟨⟨a, ha, hp⟩, _⟩ := onlyOld hd inOld
    exact (onlyNew he inNew).2 a ha hp
  · exact (apart_overlaps tilingOld.apart tilingNew.apart).sublist
      (List.filter_sublist.map Overlap.region)
  · -- A point of an overlap is in both lists, a point of the other parts in one of them only.
    intro r hr region hregion p here inOverlap
    obtain ⟨o, ho, rfl⟩ := List.mem_map.1 hregion
    have common := List.mem_of_mem_filter ho
    obtain ⟨ha, hb, _⟩ := mem_overlaps.1 common
    obtain ⟨inOld, inNew⟩ := (mem_overlap common p).1 inOverlap
    rcases List.mem_append.1 hr with hr | hr
    · obtain ⟨d, hd, rfl⟩ := List.mem_map.1 hr
      exact (onlyOld hd here).2 o.second hb inNew
    · obtain ⟨d, hd, rfl⟩ := List.mem_map.1 hr
      exact (onlyNew hd here).2 o.first ha inOld

/-- A point where the payload is another one, or is there on one side only, lies in one changed
region, and every other point in none. So it does not matter into how many details a side is cut and
which windows these have. -/
theorem changed_where_payloads_differ {old new : List Detail} (tilingOld : Tiling old)
    (tilingNew : Tiling new) :
    (∀ p : Point,
      ((∃ r ∈ changedRegions old new, p ∈ r) ↔ payloadAt? old p ≠ payloadAt? new p) ∧
        (changedRegions old new).countP (p ∈ ·) =
          if payloadAt? old p ≠ payloadAt? new p then 1 else 0) ∧
      ∀ old' new' : List Detail, Tiling old' → Tiling new' →
        (∀ p, payloadAt? old' p = payloadAt? old p) →
        (∀ p, payloadAt? new' p = payloadAt? new p) →
          ∀ p : Point,
            (∃ r ∈ changedRegions old' new', p ∈ r) ↔ ∃ r ∈ changedRegions old new, p ∈ r := by
  have differ := exists_mem_changedRegions tilingOld.apart tilingNew.apart
  constructor
  · intro p
    refine ⟨differ p, ?_⟩
    rw [countP_mem_of_apart (apart_changedRegions tilingOld tilingNew) p]
    exact if_congr (differ p) rfl rfl
  · intro old' new' tilingOld' tilingNew' sameOld sameNew p
    rw [exists_mem_changedRegions tilingOld'.apart tilingNew'.apart, differ, sameOld, sameNew]

def textOn (badgeIds : List Span) (windows : Windows) (text : String) : Declaration :=
  { Declaration.everywhere (.value (.text text)) with badgeIds, windows }

theorem fragments_change_together :
    let new := flatten [textOn [⟨1, 10⟩] .none "a", textOn [⟨11, 20⟩] .none "c"]
    let old := flatten [textOn [⟨1, 10⟩] .none "a", textOn [⟨11, 20⟩] .none "b"]
    let old' := flatten [textOn [⟨1, 4⟩, ⟨5, 10⟩] ⟨[.full], []⟩ "a", textOn [⟨11, 20⟩] .none "b"]
    ((Tiling old ∧ Tiling new ∧ Tiling old') ∧ ∀ p, payloadAt? old' p = payloadAt? old p) ∧
      (changedRegions old new).countP (mintPoint 7 ∈ ·) = 0 ∧
      (changedRegions old new).countP (mintPoint 15 ∈ ·) = 1 ∧
      ∃ r ∈ changedRegions old' new, mintPoint 15 ∈ r := by
  intro new old old'
  have tiling : Tiling old ∧ Tiling new ∧ Tiling old' :=
    ⟨tiling_flatten _ (by decide), tiling_flatten _ (by decide), tiling_flatten _ (by decide)⟩
  have cut (p : Point) : p ∈ textOn [⟨1, 4⟩, ⟨5, 10⟩] ⟨[.full], []⟩ "a" ↔
      p ∈ textOn [⟨1, 10⟩] .none "a" := by
    refine and_congr_left fun _ => ?_
    simp only [textOn, Spans.mem_cons, Spans.mem_nil, or_false, Span.mem_def]
    omega
  have same (p : Point) : payloadAt? old' p = payloadAt? old p := by
    rw [payloadAt?_flatten _ (by decide), payloadAt?_flatten _ (by decide)]
    simp only [List.find?_cons, cut]
    split <;> rfl
  obtain ⟨marked, fragmented⟩ := changed_where_payloads_differ tiling.1 tiling.2.1
  refine ⟨⟨tiling, same⟩, ?_, ?_, ?_⟩
  · rw [(marked _).2, if_neg (by decide)]
  · rw [(marked _).2, if_pos (by decide)]
  · refine (fragmented old' new tiling.2.2 tiling.2.1 same (fun _ => rfl) _).2 ?_
    exact (marked _).1.2 (by decide)

end Difference

end BadgeRights
