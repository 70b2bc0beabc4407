import Mathlib.Tactic.ByContra
import BadgeRights.Proofs.Coverage
import BadgeRights.Proofs.Difference
import BadgeRights.Proofs.Terms

set_option autoImplicit false

namespace BadgeRights

namespace Region

theorem exists_mem_iff_listsInhabited {r : Region} (ordered : r.Ordered) :
    (∃ p : Point, p ∈ r) ↔ r.ListsInhabited := by
  constructor
  · intro h
    rcases h with ⟨p, _, _, _, _, recipient, sender, initiator, approval, amount, challenge⟩
    exact ⟨⟨_, recipient⟩, ⟨_, sender⟩, ⟨_, initiator⟩, ⟨_, approval⟩, ⟨_, amount⟩,
      ⟨_, challenge⟩⟩
  · intro lists
    exact lists.exists_mem ordered

theorem outside_of_blank {value handled : Region} (ordered : value.Ordered)
    (orderedHandled : handled.Ordered) (blank : ¬∃ p : Point, p ∈ value) :
    (value.cut handled).outside = [value] :=
  outside_of_apart ordered orderedHandled fun p hp => absurd ⟨p, hp⟩ blank

theorem uncovered_of_blank {r : Region} (handled : List Region) (ordered : r.Ordered)
    (orderedHandled : ∀ h ∈ handled, h.Ordered) (blank : ¬∃ p : Point, p ∈ r) :
    r.uncovered handled = [r] := by
  unfold uncovered
  induction handled with
  | nil => rfl
  | cons h rest ih =>
      have whole : carve h [r] = [r] := by
        simp [carve, outside_of_blank ordered (orderedHandled h List.mem_cons_self) blank]
      rw [List.foldl_cons, whole]
      exact ih fun other member => orderedHandled other (List.mem_cons_of_mem _ member)

theorem mem_outside_iff_of_blank {value handled r : Region} (ordered : value.Ordered)
    (orderedHandled : handled.Ordered) (blank : ¬∃ p : Point, p ∈ r) :
    r ∈ (value.cut handled).outside ↔ r = value := by
  by_cases inhabited : ∃ p : Point, p ∈ value
  · -- Every piece of a value with a point has a point, and so has the value itself.
    constructor
    · intro hr
      have part := (cut_tidy value handled ordered orderedHandled).outside_part r hr
      exact absurd (part.inhabited inhabited) blank
    · rintro rfl
      exact absurd inhabited blank
  · rw [outside_of_blank ordered orderedHandled inhabited, List.mem_singleton]

end Region

namespace Detail

variable {details handled : List Detail} {d : Detail}

theorem mem_carve_iff_of_blank {h : Region} (ordered : ∀ e ∈ details, e.region.Ordered)
    (orderedHandled : h.Ordered) (blank : ¬∃ p : Point, p ∈ d) :
    d ∈ carve h details ↔ d ∈ details := by
  simp only [carve, List.mem_flatMap, List.mem_map]
  constructor
  · rintro ⟨e, he, r, hr, rfl⟩
    obtain rfl := (Region.mem_outside_iff_of_blank (ordered e he) orderedHandled blank).1 hr
    exact he
  · intro hd
    have whole := (Region.mem_outside_iff_of_blank (ordered d hd) orderedHandled blank).2 rfl
    exact ⟨d, hd, d.region, whole, rfl⟩

theorem mem_carveAll_iff_of_blank (tiling : Tiling details)
    (orderedHandled : ∀ h ∈ handled, h.region.Ordered) (blank : ¬∃ p : Point, p ∈ d) :
    d ∈ carveAll handled details ↔ d ∈ details := by
  unfold carveAll
  induction handled generalizing details with
  | nil => exact Iff.rfl
  | cons h rest ih =>
      obtain ⟨first, later⟩ := List.forall_mem_cons.1 orderedHandled
      rw [List.foldl_cons, ih (tiling.carve h.region first) later,
        mem_carve_iff_of_blank tiling.ordered first blank]

end Detail

namespace Flattening

open Detail

variable {existing candidate d : Detail} {claimed : List Detail}

theorem mem_stackOn_iff_of_blank (ordered : existing.region.Ordered)
    (orderedCandidate : candidate.region.Ordered) (blank : ¬∃ p : Point, p ∈ d) :
    d ∈ stackOn existing candidate ↔ d = existing := by
  unfold stackOn
  split
  · exact List.mem_singleton
  · rename_i merged _
    dsimp only
    split
    · exact List.mem_singleton
    · rename_i shared meet
      have tidy := Region.cut_tidy existing.region candidate.region ordered orderedCandidate
      have outside {r : Region} (hr : ¬∃ p : Point, p ∈ r) :=
        Region.mem_outside_iff_of_blank ordered orderedCandidate hr
      rw [List.mem_append, List.mem_singleton, List.mem_map]
      constructor
      · rintro (⟨r, hr, rfl⟩ | rfl)
        · obtain rfl := (outside blank).1 hr
          rfl
        · -- The part that stacks is shared, and what is shared has a point.
          exact absurd (tidy.shared_inhabited shared meet) blank
      · rintro rfl
        exact .inl ⟨d.region, (outside blank).2 rfl, rfl⟩

theorem mem_claim_iff_of_blank (tiling : Tiling claimed) (ordered : candidate.region.Ordered)
    (blank : ¬∃ p : Point, p ∈ d) :
    d ∈ claim claimed candidate ↔ d ∈ claimed ∨ d = candidate := by
  rw [claim, List.mem_append, List.mem_flatMap,
    mem_carveAll_iff_of_blank (Tiling.single candidate ordered) tiling.ordered blank,
    List.mem_singleton]
  apply or_congr_left
  constructor
  · rintro ⟨existing, he, hd⟩
    rwa [(mem_stackOn_iff_of_blank (tiling.ordered existing he) ordered blank).1 hd]
  · intro hd
    exact ⟨d, hd, (mem_stackOn_iff_of_blank (tiling.ordered d hd) ordered blank).2 rfl⟩

theorem mem_claimAll_iff_of_blank {candidates : List Detail}
    (ordered : ∀ d ∈ candidates, d.region.Ordered) (blank : ¬∃ p : Point, p ∈ d) :
    d ∈ claimAll candidates ↔ d ∈ candidates := by
  -- What has no point and is claimed at any time was claimed before or is one of the candidates.
  have general (claimed : List Detail) (tiling : Tiling claimed) :
      d ∈ candidates.foldl claim claimed ↔ d ∈ claimed ∨ d ∈ candidates := by
    induction candidates generalizing claimed with
    | nil => simp
    | cons candidate rest ih =>
        obtain ⟨first, later⟩ := List.forall_mem_cons.1 ordered
        rw [List.foldl_cons, ih later _ (tiling_claim tiling candidate first),
          mem_claim_iff_of_blank tiling first blank, List.mem_cons, or_assoc]
  simpa [claimAll] using general [] ⟨by simp, List.Pairwise.nil⟩

end Flattening

namespace Declaration

def ListsInhabited (d : Declaration) : Prop := (d.region .full .full .full .full).ListsInhabited

theorem listsInhabited_of_mem_regions {d : Declaration} {r : Region} (hr : r ∈ d.regions) :
    r.ListsInhabited ↔ d.ListsInhabited := by
  simp only [regions, List.mem_flatMap, List.mem_map] at hr
  rcases hr with ⟨_, _, _, _, _, _, _, _, rfl⟩
  constructor
  · intro lists
    exact ⟨lists.1, lists.2, lists.3, lists.4, lists.5, lists.6⟩
  · intro lists
    exact ⟨lists.1, lists.2, lists.3, lists.4, lists.5, lists.6⟩

theorem everywhere_listsInhabited (payload : Payload) : (everywhere payload).ListsInhabited := by
  have everyone : ∃ a, a ∈ AddressList.everyone := ⟨"", by decide⟩
  exact ⟨everyone, everyone, everyone, everyone, everyone, everyone⟩

/-- Ids stand for themselves at least, so that only the lists of the parties can be empty. -/
theorem listsInhabited_iff_parties {d : Declaration} {resolve : Resolver}
    {fromId toId byId : String} (hfrom : resolve fromId = .ok d.fromList)
    (hto : resolve toId = .ok d.toList) (hby : resolve byId = .ok d.initiatedByList)
    (approvalId : ∃ a, a ∈ d.approvalIdList) (amountTrackerId : ∃ a, a ∈ d.amountTrackerIdList)
    (challengeTrackerId : ∃ a, a ∈ d.challengeTrackerIdList) :
    d.ListsInhabited ↔ ∀ id ∈ [fromId, toId, byId], ¬resolve.Empty id := by
  simp only [List.forall_mem_cons, List.not_mem_nil, false_implies, implies_true, and_true,
    Resolver.not_empty_iff hfrom, Resolver.not_empty_iff hto, Resolver.not_empty_iff hby]
  constructor
  · intro lists
    exact ⟨lists.fromList, lists.toList, lists.initiatedByList⟩
  · intro parties
    rcases parties with ⟨sender, recipient, initiator⟩
    exact ⟨recipient, sender, initiator, approvalId, amountTrackerId, challengeTrackerId⟩

theorem regions_ne_nil_iff (d : Declaration) :
    d.regions ≠ [] ↔ d.badgeIds ≠ [] ∧ d.timelineTimes ≠ [] ∧ d.transferTimes ≠ [] ∧
      d.ownershipTimes ≠ [] := by
  rcases d with ⟨badges, timeline, transfers, ownership⟩
  cases badges <;> cases timeline <;> cases transfers <;> cases ownership <;>
    simp [regions]

theorem ordered_of_mem_regions {d : Declaration} (ordered : d.Ordered) {r : Region}
    (hr : r ∈ d.regions) : r.Ordered :=
  ordered_of_mem_details ordered ⟨r, d.windows, d.payload⟩ (List.mem_map_of_mem hr)

theorem exists_mem_region_iff {d : Declaration} (ordered : d.Ordered) {r : Region}
    (hr : r ∈ d.regions) : (∃ p : Point, p ∈ r) ↔ d.ListsInhabited := by
  rw [Region.exists_mem_iff_listsInhabited (ordered_of_mem_regions ordered hr),
    listsInhabited_of_mem_regions hr]

theorem regions_inhabited_iff {d : Declaration} (ordered : d.Ordered) :
    (∀ r ∈ d.regions, ∃ p : Point, p ∈ r) ↔ d.regions ≠ [] → d.ListsInhabited := by
  constructor
  · intro inhabited some
    obtain ⟨r, hr⟩ := List.exists_mem_of_ne_nil _ some
    exact (exists_mem_region_iff ordered hr).1 (inhabited r hr)
  · intro lists r hr
    exact (exists_mem_region_iff ordered hr).2 (lists (List.ne_nil_of_mem hr))

end Declaration

theorem ordered_of_mem_flatMap_details {declarations : List Declaration}
    (ordered : ∀ d ∈ declarations, d.Ordered) :
    ∀ d ∈ declarations.flatMap Declaration.details, d.region.Ordered := by
  intro d hd
  obtain ⟨declaration, hdeclaration, hd⟩ := List.mem_flatMap.1 hd
  exact Declaration.ordered_of_mem_details (ordered declaration hdeclaration) d hd

theorem mem_flatten_iff_of_blank {declarations : List Declaration}
    (ordered : ∀ d ∈ declarations, d.Ordered) {d : Detail} (blank : ¬∃ p : Point, p ∈ d) :
    d ∈ flatten declarations ↔ d ∈ declarations.flatMap Declaration.details := by
  rw [(flatten_perm declarations).mem_iff]
  exact Flattening.mem_claimAll_iff_of_blank (ordered_of_mem_flatMap_details ordered) blank

theorem flatten_inhabited_iff {declarations : List Declaration}
    (ordered : ∀ d ∈ declarations, d.Ordered) :
    (∀ d ∈ flatten declarations, ∃ p : Point, p ∈ d) ↔
      ∀ declaration ∈ declarations, ∀ r ∈ declaration.regions, ∃ p : Point, p ∈ r := by
  have stated : (∀ d ∈ flatten declarations, ∃ p : Point, p ∈ d) ↔
      ∀ d ∈ declarations.flatMap Declaration.details, ∃ p : Point, p ∈ d := by
    constructor <;> intro inhabited d hd <;> by_contra blank
    · exact blank (inhabited d ((mem_flatten_iff_of_blank ordered blank).2 hd))
    · exact blank (inhabited d ((mem_flatten_iff_of_blank ordered blank).1 hd))
  rw [stated]
  simp only [List.forall_mem_flatMap, Declaration.details, List.forall_mem_map]
  rfl

namespace Difference

open Detail

variable {old new : List Detail}

theorem inhabited_changedRegions_iff (tilingOld : Tiling old) (tilingNew : Tiling new) :
    (∀ r ∈ changedRegions old new, ∃ p : Point, p ∈ r) ↔
      ∀ d ∈ old ++ new, ∃ p : Point, p ∈ d := by
  have inFirst {d : Detail} (blank : ¬∃ p : Point, p ∈ d) :
      d ∈ (between old new).firstOnly ↔ d ∈ old :=
    mem_carveAll_iff_of_blank tilingOld tilingNew.ordered blank
  have inSecond {d : Detail} (blank : ¬∃ p : Point, p ∈ d) :
      d ∈ (between old new).secondOnly ↔ d ∈ new :=
    mem_carveAll_iff_of_blank tilingNew tilingOld.ordered blank
  constructor
  · intro inhabited d hd
    by_contra blank
    rcases List.mem_append.1 hd with hd | hd
    · exact blank (inhabited _ (mem_changedRegions.2 (.inl ⟨d, (inFirst blank).2 hd, rfl⟩)))
    · exact blank (inhabited _ (mem_changedRegions.2 (.inr (.inl ⟨d, (inSecond blank).2 hd, rfl⟩))))
  · intro inhabited r hr
    by_contra blank
    rcases mem_changedRegions.1 hr with ⟨d, hd, rfl⟩ | ⟨d, hd, rfl⟩ | ⟨o, ho, _, rfl⟩
    · exact blank (inhabited d (List.mem_append_left _ ((inFirst blank).1 hd)))
    · exact blank (inhabited d (List.mem_append_right _ ((inSecond blank).1 hd)))
    · exact blank (inhabited_of_mem_overlaps tilingOld tilingNew ho)

/-- Nothing differs from itself, but a detail without points does not even meet itself. -/
theorem changedRegions_self_iff {details : List Detail} (tiling : Tiling details) :
    changedRegions details details = [] ↔ ∀ d ∈ details, ∃ p : Point, p ∈ d := by
  have regions := inhabited_changedRegions_iff tiling tiling
  rw [List.forall_mem_append, and_self_iff] at regions
  rw [← regions]
  constructor
  · intro none
    simp [none]
  · intro inhabited
    rw [List.eq_nil_iff_forall_not_mem]
    intro r hr
    -- At a point of a changed region the payload would differ from itself.
    obtain ⟨p, hp⟩ := inhabited r hr
    exact (exists_mem_changedRegions tiling.apart tiling.apart p).1 ⟨r, hr, hp⟩ rfl

end Difference

def GrantedAt (declarations : List Declaration) (now : Nat) (p : Point) : Prop :=
  PermittedAt declarations now p ∧ ¬ForbiddenAt declarations now p

namespace Update

section Verdict

variable {field : UpdateField} {changed : List Region} {declarations : List Declaration}
  (changedOrdered : ∀ r ∈ changed, r.Ordered) (declaredOrdered : ∀ d ∈ declarations, d.Ordered)

include changedOrdered declaredOrdered

theorem inhabited_of_permitted {stance : Stance} (policy : stance.unhandled = .requirePermitted)
    (h : checkRegions field changed declarations stance = .permitted) :
    ∀ r ∈ changed, ∃ p : Point, p ∈ r := by
  unfold checkRegions judge at h
  simp only [policy] at h
  split at h
  · cases h
  · split at h
    · cases h
    · rename_i covered
      intro r hr
      by_contra blank
      have whole := Region.uncovered_of_blank (permittedRegions stance.now (flatten declarations))
        (changedOrdered r hr) (ordered_of_mem_filter declarations declaredOrdered _) blank
      rw [firstUncovered?_eq_none covered r hr] at whole
      cases whole

theorem checkRegions_forbidden_iff {stance : Stance} :
    (∃ s, checkRegions field changed declarations stance = .denied ⟨field, .forbidden, s⟩) ↔
      TouchesForbidden declarations stance.now changed := by
  have judged := checkRegions_judged field changed declarations stance changedOrdered
    declaredOrdered
  generalize checkRegions field changed declarations stance = verdict at judged ⊢
  cases judged with
  | forbidden r s member part inhabited all =>
      simp [touches_of_part member part inhabited all]
  | neutral untouched _ => simp [untouched]
  | notPermitted _ _ untouched _ _ _ _ => simp [untouched]
  | permitted untouched _ _ => simp [untouched]

theorem checkRegions_permitted_iff {now : Nat} :
    checkRegions field changed declarations ⟨now, .requirePermitted⟩ = .permitted ↔
      ∀ r ∈ changed, (∃ p : Point, p ∈ r) ∧ ∀ p ∈ r, GrantedAt declarations now p := by
  have judged := checkRegions_judged field changed declarations ⟨now, .requirePermitted⟩
    changedOrdered declaredOrdered
  constructor
  · intro accepted r hr
    refine ⟨inhabited_of_permitted changedOrdered declaredOrdered rfl accepted r hr, ?_⟩
    rw [accepted] at judged
    cases judged with
    | neutral _ policy => cases policy
    | permitted untouched _ all =>
        intro p hp
        exact ⟨all r hr p hp, fun forbids => untouched ⟨r, hr, p, hp, forbids⟩⟩
  · intro granted
    generalize checkRegions field changed declarations _ = verdict at judged ⊢
    cases judged with
    | forbidden r s member part inhabited all =>
        obtain ⟨p, hp⟩ := inhabited
        exact absurd (all p hp) ((granted r member).2 p (part.mem p hp)).2
    | neutral _ _ => rfl
    | notPermitted r s _ _ member part none =>
        obtain ⟨p, hp⟩ := part.inhabited (granted r member).1
        exact absurd ((granted r member).2 p (part.mem p hp)).1 (none p hp)
    | permitted _ _ _ => rfl

/-- Regions without points are let through where nothing has to be permitted, and else only if there
are none of them. -/
theorem checkRegions_pointless_iff {stance : Stance}
    (pointless : ∀ r ∈ changed, ∀ p : Point, ¬p ∈ r) :
    checkRegions field changed declarations stance = .permitted ↔
      stance.unhandled = .neutral ∨ changed = [] := by
  rcases stance with ⟨now, policy⟩
  cases policy with
  | neutral =>
      have judged := checkRegions_judged field changed declarations ⟨now, .neutral⟩ changedOrdered
        declaredOrdered
      have untouched : ¬∃ p : Point, (∃ r ∈ changed, p ∈ r) ∧ ForbiddenAt declarations now p := by
        intro touched
        rcases touched with ⟨p, ⟨r, hr, hp⟩, _⟩
        exact pointless r hr p hp
      simp [(judged.decides fun _ => Iff.rfl).2.1 untouched rfl]
  | requirePermitted =>
      rw [checkRegions_permitted_iff changedOrdered declaredOrdered]
      constructor
      · intro granted
        right
        rw [List.eq_nil_iff_forall_not_mem]
        intro r hr
        obtain ⟨p, hp⟩ := (granted r hr).1
        exact pointless r hr p hp
      · intro free
        rcases free with neutral | none
        · cases neutral
        · simp [none]

end Verdict

theorem Judged.denied_of_pointless {field : UpdateField} {changed : List Region}
    {declarations : List Declaration} {stance : Stance} {verdict : Verdict}
    (judged : Judged field changed declarations stance verdict)
    (pointless : ∀ r ∈ changed, ∀ p : Point, ¬p ∈ r) (refused : verdict ≠ .permitted) :
    ∃ s, verdict = .denied ⟨field, .notPermitted, s⟩ ∧ ∀ p : Point, ¬p ∈ s := by
  cases judged with
  | forbidden r s member part inhabited _ =>
      obtain ⟨p, hp⟩ := inhabited
      exact absurd (part.mem p hp) (pointless r member p)
  | neutral _ _ => exact absurd rfl refused
  | notPermitted r s _ _ member part _ =>
      exact ⟨s, rfl, fun p hp => pointless r member p (part.mem p hp)⟩
  | permitted _ _ _ => exact absurd rfl refused

end Update

end BadgeRights
