import Mathlib.Data.Fintype.EquivFin
import BadgeRights.Proofs.Cut

set_option autoImplicit false

namespace BadgeRights

namespace Span

theorem Ordered.inhabited {s : Span} (ordered : s.Ordered) : ∃ x, x ∈ s :=
  ⟨s.start, Nat.le_refl _, ordered⟩

theorem inter?_ordered (s t cut : Span) (hs : s.Ordered) (ht : t.Ordered)
    (h : s.inter? t = some cut) : cut.Ordered := by
  unfold inter? at h
  split at h
  · rename_i meet
    cases h
    simp only [overlaps, Bool.and_eq_true, decide_eq_true_eq] at meet
    simp only [Ordered] at *
    omega
  · cases h

theorem outside_apart (s cut : Span) (ordered : cut.Ordered) :
    (s.outside cut).Pairwise Apart := by
  unfold outside
  rw [List.pairwise_append]
  refine ⟨?_, ?_, ?_⟩
  · split <;> simp
  · split <;> simp
  · intro front hfront back hback x inFront inBack
    simp only [List.mem_ite_nil_right, List.mem_singleton] at hfront hback
    rcases hfront with ⟨_, rfl⟩
    rcases hback with ⟨_, rfl⟩
    simp only [mem_def, Ordered] at *
    omega

theorem outside_ordered (s cut : Span) : ∀ piece ∈ s.outside cut, piece.Ordered := by
  intro piece hpiece
  simp only [outside, List.mem_append, List.mem_ite_nil_right, List.mem_singleton] at hpiece
  rcases hpiece with ⟨front, rfl⟩ | ⟨back, rfl⟩
  · simp only [Ordered]
    omega
  · exact back

theorem shrunk_of_ordered (a b : Span) (ordered : a.Ordered) (inside : ∀ x, x ∈ a → x ∈ b) :
    Shrunk a b :=
  ⟨inside, fun _ => ordered.inhabited⟩

instance : TidyAxis Span where
  Ordered := Span.Ordered
  Part := Shrunk
  part_refl := Shrunk.refl
  part_trans _ _ _ := Shrunk.trans
  shrunk_of_part _ _ := id
  tidy value handled orderedValue orderedHandled := by
    have exact := LawfulAxis.exact value handled
    simp only [Axis.cut, remove] at exact ⊢
    cases h : value.inter? handled with
    | none => exact Cut.apart_tidy _ _ value orderedValue (Shrunk.refl value)
    | some cut =>
        have orderedCut := inter?_ordered value handled cut orderedValue orderedHandled h
        simp only [h, Cut.ExactAt] at exact
        -- That the pieces are parts of the value comes from the exactness of the cut; only their
        -- bounds are looked at here.
        refine ⟨outside_apart value cut orderedCut, outside_ordered value cut, ?_, ?_, ?_, ?_⟩
        · intro piece hpiece
          refine shrunk_of_ordered _ _ (outside_ordered value cut piece hpiece) ?_
          intro x hx
          exact ((exact x).1.1 ⟨piece, hpiece, hx⟩).1
        · intro s hs
          cases hs
          exact orderedCut
        · intro s hs
          cases hs
          refine shrunk_of_ordered _ _ orderedCut ?_
          intro x hx
          exact ((exact x).2.1 ⟨cut, rfl, hx⟩).1
        · intro s hs
          cases hs
          exact orderedCut.inhabited

end Span

namespace AddressList

-- There are more texts than a list can name.
theorem exists_notMem (names : List String) : ∃ a, a ∉ names := by
  simpa using Infinite.exists_notMem_finset names.toFinset

theorem exists_mem_iff (l : AddressList) : (∃ a, a ∈ l) ↔ l.isEmpty = false := by
  cases h : l.whitelist with
  | false =>
      obtain ⟨a, missing⟩ := exists_notMem l.addresses
      simp only [isEmpty, h, Bool.false_and, iff_true]
      exact ⟨a, by simp [mem_def, h, missing]⟩
  | true =>
      cases named : l.addresses with
      | nil => simp [isEmpty, mem_def, h, named]
      | cons a rest =>
          simp only [isEmpty, h, named, List.isEmpty_cons, Bool.and_false, iff_true]
          exact ⟨a, by simp [mem_def, h, named]⟩

theorem mem_cut_outside {value handled piece : AddressList} :
    piece ∈ (value.cut handled).outside ↔
      (value.subtract handled).1.isEmpty = false ∧ piece = (value.subtract handled).1 := by
  simp only [cut, List.mem_ite_nil_left, List.mem_singleton, Bool.not_eq_true]

theorem mem_cut_shared {value handled s : AddressList} :
    s ∈ (value.cut handled).shared ↔ s.isEmpty = false ∧
      s = if (value.subtract handled).2.sameMembers value then value
        else (value.subtract handled).2 := by
  simp only [cut, Option.mem_def, Option.ite_none_left_eq_some, Option.some.injEq, Bool.not_eq_true]
  constructor <;>
    (rintro ⟨filled, rfl⟩
     exact ⟨filled, rfl⟩)

theorem inhabited_of_mem_outside (value handled : AddressList) :
    ∀ piece ∈ (value.cut handled).outside, ∃ a, a ∈ piece := by
  intro piece hpiece
  obtain ⟨filled, rfl⟩ := mem_cut_outside.1 hpiece
  exact (exists_mem_iff _).2 filled

theorem inhabited_of_mem_shared (value handled : AddressList) :
    ∀ s ∈ (value.cut handled).shared, ∃ a, a ∈ s := by
  intro s hs
  exact (exists_mem_iff s).2 (mem_cut_shared.1 hs).1

instance : TidyAxis AddressList where
  Ordered _ := True
  Part := Shrunk
  part_refl := Shrunk.refl
  part_trans _ _ _ := Shrunk.trans
  shrunk_of_part _ _ := id
  tidy value handled _ _ := by
    have exact := cut_exactAt value handled
    have inhabitedOutside := inhabited_of_mem_outside value handled
    have inhabitedShared := inhabited_of_mem_shared value handled
    refine ⟨?_, fun _ _ => trivial, ?_, fun _ _ => trivial, ?_, inhabitedShared⟩
    · change (value.cut handled).outside.Pairwise Apart
      simp only [cut]
      split <;> simp
    · intro piece hpiece
      refine ⟨?_, fun _ => inhabitedOutside piece hpiece⟩
      intro a ha
      exact ((exact a).1.1 ⟨piece, hpiece, ha⟩).1
    · intro s hs
      refine ⟨?_, fun _ => inhabitedShared s hs⟩
      intro a ha
      exact ((exact a).2.1 ⟨s, hs, ha⟩).1

end AddressList

namespace Region

structure Inside (inner outer : Region) : Prop where
  badgeIds : ∀ n ∈ inner.badgeIds, n ∈ outer.badgeIds
  timelineTimes : ∀ n ∈ inner.timelineTimes, n ∈ outer.timelineTimes
  transferTimes : ∀ n ∈ inner.transferTimes, n ∈ outer.transferTimes
  ownershipTimes : ∀ n ∈ inner.ownershipTimes, n ∈ outer.ownershipTimes
  toList : ∀ a ∈ inner.toList, a ∈ outer.toList
  fromList : ∀ a ∈ inner.fromList, a ∈ outer.fromList
  initiatedByList : ∀ a ∈ inner.initiatedByList, a ∈ outer.initiatedByList
  approvalIdList : ∀ a ∈ inner.approvalIdList, a ∈ outer.approvalIdList
  amountTrackerIdList : ∀ a ∈ inner.amountTrackerIdList, a ∈ outer.amountTrackerIdList
  challengeTrackerIdList : ∀ a ∈ inner.challengeTrackerIdList, a ∈ outer.challengeTrackerIdList

def Part (piece value : Region) : Prop := TidyAxis.Part piece.axes value.axes

theorem Part.refl (r : Region) : Part r r := TidyAxis.part_refl r.axes

theorem Part.trans {a b c : Region} (ab : Part a b) (bc : Part b c) : Part a c :=
  TidyAxis.part_trans _ _ _ ab bc

theorem Part.mem {piece value : Region} (part : Part piece value) (p : Point) (hp : p ∈ piece) :
    p ∈ value :=
  (TidyAxis.shrunk_of_part _ _ part).1 _ hp

def pointAt : Point.Coordinates → Point
  | (badgeId, timelineTime, transferTime, ownershipTime, recipient, sender, initiator,
      approvalId, amountTrackerId, challengeTrackerId) =>
      ⟨badgeId, timelineTime, transferTime, ownershipTime, recipient, sender, initiator,
        approvalId, amountTrackerId, challengeTrackerId⟩

theorem exists_mem_iff_axes (r : Region) : (∃ p, p ∈ r) ↔ ∃ c : Point.Coordinates, c ∈ r.axes :=
  ⟨fun ⟨p, hp⟩ => ⟨p.coordinates, hp⟩, fun ⟨c, hc⟩ => ⟨pointAt c, hc⟩⟩

theorem Part.inhabited {piece value : Region} (part : Part piece value) (h : ∃ p, p ∈ value) :
    ∃ p, p ∈ piece := by
  rw [exists_mem_iff_axes] at *
  exact (TidyAxis.shrunk_of_part _ _ part).2 h

theorem Part.inside {piece value : Region} (part : Part piece value) : piece.Inside value := by
  rcases part with ⟨badge, timeline, transfer, ownership, recipient, sender, initiator, approval,
    amount, challenge⟩
  exact ⟨badge.1, timeline.1, transfer.1, ownership.1, recipient.1, sender.1, initiator.1,
    approval.1, amount.1, challenge.1⟩

theorem ordered_iff_axes (r : Region) : r.Ordered ↔ TidyAxis.Ordered r.axes := by
  constructor
  · intro h
    rcases h with ⟨badge, timeline, transfer, ownership⟩
    exact ⟨badge, timeline, transfer, ownership, trivial, trivial, trivial, trivial, trivial,
      trivial⟩
  · intro h
    rcases h with ⟨badge, timeline, transfer, ownership, _⟩
    exact ⟨badge, timeline, transfer, ownership⟩

structure ListsInhabited (r : Region) : Prop where
  toList : ∃ a, a ∈ r.toList
  fromList : ∃ a, a ∈ r.fromList
  initiatedByList : ∃ a, a ∈ r.initiatedByList
  approvalIdList : ∃ a, a ∈ r.approvalIdList
  amountTrackerIdList : ∃ a, a ∈ r.amountTrackerIdList
  challengeTrackerIdList : ∃ a, a ∈ r.challengeTrackerIdList

theorem ListsInhabited.exists_mem {r : Region} (lists : r.ListsInhabited) (ordered : r.Ordered) :
    ∃ p, p ∈ r := by
  rcases ordered with ⟨badge, timeline, transfer, ownership⟩
  rcases lists.toList with ⟨recipient, hto⟩
  rcases lists.fromList with ⟨sender, hfrom⟩
  rcases lists.initiatedByList with ⟨initiator, hby⟩
  rcases lists.approvalIdList with ⟨approvalId, happroval⟩
  rcases lists.amountTrackerIdList with ⟨amountId, hamount⟩
  rcases lists.challengeTrackerIdList with ⟨challengeId, hchallenge⟩
  obtain ⟨badgeId, hbadge⟩ := Span.Ordered.inhabited badge
  obtain ⟨timelineTime, htimeline⟩ := Span.Ordered.inhabited timeline
  obtain ⟨transferTime, htransfer⟩ := Span.Ordered.inhabited transfer
  obtain ⟨ownershipTime, hownership⟩ := Span.Ordered.inhabited ownership
  exact ⟨⟨badgeId, timelineTime, transferTime, ownershipTime, recipient, sender, initiator,
    approvalId, amountId, challengeId⟩, hbadge, htimeline, htransfer, hownership, hto, hfrom, hby,
    happroval, hamount, hchallenge⟩

theorem cut_tidy (value handled : Region) (orderedValue : value.Ordered)
    (orderedHandled : handled.Ordered) : (value.cut handled).Tidy Ordered Part value := by
  rw [ordered_iff_axes] at orderedValue orderedHandled
  have tidy := TidyAxis.tidy value.axes handled.axes orderedValue orderedHandled
  have ordered : (value.cut handled).All Ordered := by
    refine Cut.All.map ⟨?_, ?_⟩
    · exact fun a ha => (ordered_iff_axes _).2 (tidy.outside_ordered a ha)
    · exact fun a ha => (ordered_iff_axes _).2 (tidy.shared_ordered a ha)
  have part : (value.cut handled).All fun r => Part r value :=
    Cut.All.map ⟨tidy.outside_part, tidy.shared_part⟩
  refine ⟨?_, ordered.outside, part.outside, ordered.shared, part.shared, ?_⟩
  · exact List.pairwise_map.2 (tidy.apart.imp fun apart (p : Point) => apart p.coordinates)
  · intro s hs
    obtain ⟨a, ha, rfl⟩ := Option.map_eq_some_iff.1 hs
    exact (exists_mem_iff_axes _).2 (tidy.shared_inhabited a ha)

theorem mem_of_mem_outside {value handled piece : Region} {p : Point}
    (hpiece : piece ∈ (value.cut handled).outside) (hp : p ∈ piece) : p ∈ value ∧ ¬p ∈ handled :=
  (value.cut_exactAt handled p).1.1 ⟨piece, hpiece, hp⟩

theorem mem_shared {value handled shared : Region} (h : (value.cut handled).shared = some shared)
    (p : Point) : p ∈ shared ↔ p ∈ value ∧ p ∈ handled := by
  rw [← (value.cut_exactAt handled p).2, h]
  simp

theorem not_shared {value handled : Region} (h : (value.cut handled).shared = none) (p : Point) :
    ¬(p ∈ value ∧ p ∈ handled) := by
  rw [← (value.cut_exactAt handled p).2, h]
  simp

theorem outside_of_not_shared {value handled : Region}
    (h : (value.cut handled).shared = none) : (value.cut handled).outside = [value] := by
  simp only [cut, Cut.map, Option.map_eq_none_iff] at h ⊢
  change (Cut.pair _ _ _ _).outside.map ofAxes = [value]
  rw [Cut.pair_of_not_shared h]
  rfl

theorem shared_eq_none_iff {value handled : Region} (orderedValue : value.Ordered)
    (orderedHandled : handled.Ordered) :
    (value.cut handled).shared = none ↔ ¬∃ p : Point, p ∈ value ∧ p ∈ handled := by
  constructor
  · intro none meet
    rcases meet with ⟨p, hp⟩
    exact not_shared none p hp
  · intro separate
    rw [Option.eq_none_iff_forall_ne_some]
    intro s meet
    obtain ⟨p, hp⟩ := (cut_tidy value handled orderedValue orderedHandled).shared_inhabited s meet
    exact separate ⟨p, (mem_shared meet p).1 hp⟩

theorem shared_of_apart {value handled : Region} (ordered : value.Ordered)
    (orderedHandled : handled.Ordered) (apart : Apart value handled) :
    (value.cut handled).shared = none :=
  (shared_eq_none_iff ordered orderedHandled).2 fun ⟨p, inValue, inHandled⟩ =>
    apart p inValue inHandled

theorem outside_of_apart {value handled : Region} (ordered : value.Ordered)
    (orderedHandled : handled.Ordered) (apart : Apart value handled) :
    (value.cut handled).outside = [value] :=
  outside_of_not_shared (shared_of_apart ordered orderedHandled apart)

theorem part_of_mem_uncovered (r : Region) (handled : List Region) (ordered : r.Ordered)
    (orderedHandled : ∀ h ∈ handled, h.Ordered) : ∀ piece ∈ r.uncovered handled, Part piece r := by
  -- What is left at any time is made of ordered parts of `r`.
  have general (pieces : List Region) (parts : ∀ piece ∈ pieces, piece.Ordered ∧ Part piece r) :
      ∀ piece ∈ handled.foldl (fun pieces h => carve h pieces) pieces, Part piece r := by
    induction handled generalizing pieces with
    | nil => exact fun piece hpiece => (parts piece hpiece).2
    | cons h rest ih =>
        refine ih (fun h hh => orderedHandled h (List.mem_cons_of_mem _ hh)) (carve h pieces) ?_
        intro piece hpiece
        obtain ⟨whole, hwhole, hpiece⟩ := List.mem_flatMap.1 hpiece
        have tidy := cut_tidy whole h (parts whole hwhole).1 (orderedHandled h List.mem_cons_self)
        exact ⟨tidy.outside_ordered piece hpiece,
          (tidy.outside_part piece hpiece).trans (parts whole hwhole).2⟩
  refine general [r] ?_
  intro piece hpiece
  rw [List.mem_singleton.1 hpiece]
  exact ⟨ordered, Part.refl r⟩

end Region

end BadgeRights
