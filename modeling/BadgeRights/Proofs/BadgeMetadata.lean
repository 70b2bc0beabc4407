import Mathlib.Tactic.Tauto
import BadgeRights.Proofs.Timeline
import BadgeRights.Update.BadgeMetadata

set_option autoImplicit false

namespace BadgeRights

namespace BadgeMetadata

def describe? (entries : List BadgeMetadata) (badgeId : Nat) : Option Metadata :=
  (entries.find? fun e => Spans.Mem badgeId e.badgeIds).map metadata

def valueAt (timeline : Timeline (List BadgeMetadata)) (badgeId t : Nat) : Metadata :=
  (describe? (timeline.valueAt [] t) badgeId).getD ⟨"", ""⟩

def ChangesAt (old new : Timeline (List BadgeMetadata)) (badgeId t : Nat) : Prop :=
  (badgeId ∈ Span.full ∧ t ∈ Span.full) ∧ valueAt old badgeId t ≠ valueAt new badgeId t

theorem describe?_eq_none_iff {entries : List BadgeMetadata} {badgeId : Nat} :
    describe? entries badgeId = none ↔
      ¬Spans.Mem badgeId (entries.flatMap BadgeMetadata.badgeIds) := by
  rw [Spans.mem_flatMap]
  simp only [describe?, Option.map_eq_none_iff, List.find?_eq_none, decide_eq_true_eq, not_exists,
    not_and]

end BadgeMetadata

namespace Update

open BadgeMetadata (describe? describe?_eq_none_iff)

section Item

variable {item : TimelineItem (List BadgeMetadata)} {p : Point}

theorem mem_metadataDeclaration {times badgeIds : List Span} {metadata : Metadata} :
    p ∈ metadataDeclaration times badgeIds metadata ↔
      Spans.Mem p.badgeId badgeIds ∧ Spans.Mem p.timelineTime times ∧
        p.transferTime ∈ Span.full ∧ p.ownershipTime ∈ Span.full := by
  simp [Declaration.mem_iff, metadataDeclaration, Declaration.everywhere]

def itemEntries (item : TimelineItem (List BadgeMetadata)) : List Declaration :=
  item.value.map fun e => metadataDeclaration item.times e.badgeIds e.metadata

def itemRest (item : TimelineItem (List BadgeMetadata)) : Declaration :=
  metadataDeclaration item.times (undescribed item.value) ⟨"", ""⟩

theorem exists_of_mem_itemDeclarations {d : Declaration} (hd : d ∈ itemDeclarations item) :
    ∃ badgeIds m, d = metadataDeclaration item.times badgeIds m ∧
      (badgeIds = undescribed item.value ∨ ∃ e ∈ item.value, badgeIds = e.badgeIds) := by
  have stated : d ∈ itemEntries item ∨ d = itemRest item := by
    unfold itemDeclarations at hd
    dsimp only at hd
    split at hd
    · exact .inl hd
    · exact (List.mem_append.1 hd).imp_right List.mem_singleton.1
  rcases stated with entry | rfl
  · obtain ⟨e, he, rfl⟩ := List.mem_map.1 entry
    exact ⟨_, _, rfl, .inr ⟨e, he, rfl⟩⟩
  · exact ⟨_, _, rfl, .inl rfl⟩

theorem ordered_itemDeclarations (ordered : Spans.Ordered item.times)
    (valid : ∀ e ∈ item.value, Spans.Valid e.badgeIds) : ∀ d ∈ itemDeclarations item, d.Ordered := by
  intro d hd
  obtain ⟨_, _, rfl, named⟩ := exists_of_mem_itemDeclarations hd
  refine ⟨?_, ordered, Spans.full_ordered, Spans.full_ordered⟩
  rcases named with rfl | ⟨e, he, rfl⟩
  · exact Spans.complement_ordered _ 1 maxValue
  · exact (valid e he).ordered

theorem offTimeline_of_mem_itemDeclarations (valid : ∀ e ∈ item.value, Spans.Valid e.badgeIds)
    {d : Declaration} (hd : d ∈ itemDeclarations item) (hp : p ∈ d) : p.OffTimeline := by
  obtain ⟨_, _, rfl, named⟩ := exists_of_mem_itemDeclarations hd
  obtain ⟨badge, _, off⟩ := mem_metadataDeclaration.1 hp
  refine ⟨?_, off⟩
  rcases named with rfl | ⟨e, he, rfl⟩
  · exact ((Spans.mem_complement _ _ _ _).1 badge).1
  · exact (valid e he).mem_full badge

theorem find?_itemDeclarations (item : TimelineItem (List BadgeMetadata)) (p : Point) :
    (itemDeclarations item).find? (p ∈ ·) =
      ((itemEntries item).find? (p ∈ ·)).or
        (if p ∈ itemRest item then some (itemRest item) else none) := by
  unfold itemDeclarations
  dsimp only
  split
  · rename_i nothing
    have outside : ¬p ∈ itemRest item := by
      rw [itemRest, mem_metadataDeclaration, nothing]
      exact fun h => Spans.mem_nil _ h.1
    simp [outside, itemEntries]
  · rw [List.find?_append]
    change Option.or _ ([itemRest item].find? (p ∈ ·)) = _
    by_cases here : p ∈ itemRest item <;> simp [here, itemEntries]

theorem payload_itemEntries (active : Spans.Mem p.timelineTime item.times) (off : p.OffTimeline) :
    ((itemEntries item).find? (p ∈ ·)).map Declaration.payload =
      (describe? item.value p.badgeId).map fun m => .value (.metadata m) := by
  rw [itemEntries, List.find?_map, Option.map_map, describe?, Option.map_map]
  simp only [Function.comp_def, mem_metadataDeclaration, active, off.2.1, off.2.2, and_true]
  rfl

theorem mem_itemRest (active : Spans.Mem p.timelineTime item.times) (off : p.OffTimeline) :
    p ∈ itemRest item ↔ describe? item.value p.badgeId = none := by
  have domain : 1 ≤ p.badgeId ∧ p.badgeId ≤ maxValue := off.1
  rw [itemRest, mem_metadataDeclaration, and_iff_left ⟨active, off.2⟩, undescribed, Spans.gaps,
    Spans.mem_complement, and_iff_right domain, describe?_eq_none_iff]

theorem payload_itemDeclarations (off : p.OffTimeline) :
    ((itemDeclarations item).find? (p ∈ ·)).map Declaration.payload =
      if Spans.Mem p.timelineTime item.times then
        some (.value (.metadata ((describe? item.value p.badgeId).getD ⟨"", ""⟩)))
      else none := by
  by_cases active : Spans.Mem p.timelineTime item.times
  · rw [find?_itemDeclarations, Option.map_or, payload_itemEntries active off]
    simp only [mem_itemRest active off, active, if_true]
    cases describe? item.value p.badgeId <;> rfl
  · have inactive : ∀ d ∈ itemDeclarations item, ¬p ∈ d := by
      intro d hd hp
      obtain ⟨_, _, rfl, _⟩ := exists_of_mem_itemDeclarations hd
      exact active (mem_metadataDeclaration.1 hp).2.1
    simpa [active] using inactive

theorem payload_flatMap_itemDeclarations (items : Timeline (List BadgeMetadata))
    (off : p.OffTimeline) :
    ((items.flatMap itemDeclarations).find? (p ∈ ·)).map Declaration.payload =
      (Timeline.itemAt? items p.timelineTime).map fun item =>
        .value (.metadata ((describe? item.value p.badgeId).getD ⟨"", ""⟩)) := by
  unfold Timeline.itemAt?
  induction items with
  | nil => rfl
  | cons item rest ih =>
      rw [List.flatMap_cons, List.find?_append, Option.map_or, payload_itemDeclarations off, ih,
        List.find?_cons]
      by_cases active : Spans.Mem p.timelineTime item.times
      · simp [active, Timeline.isActive_eq_true.2 active]
      · simp [active, Bool.eq_false_iff.2 (mt Timeline.isActive_eq_true.1 active)]

end Item

section Flattened

variable {timeline old new : Timeline (List BadgeMetadata)} {details before after : List Detail}

theorem flattenBadgeMetadata_eq_ok :
    flattenBadgeMetadata timeline = .ok details ↔
      Timeline.validate timeline = .ok () ∧ validateEntries timeline = .ok () ∧
        flatten ((Timeline.filled timeline [] maxValue).flatMap itemDeclarations) = details := by
  unfold flattenBadgeMetadata
  simp only [Checked.bind_eq_ok, Checked.pure_eq_ok]
  constructor
  · intro h
    rcases h with ⟨_, valid, _, validEntries, h⟩
    exact ⟨valid, validEntries, h⟩
  · intro h
    rcases h with ⟨valid, validEntries, h⟩
    exact ⟨(), valid, (), validEntries, h⟩

theorem valid_of_mem_filled (h : validateEntries timeline = .ok ()) {last : Nat} :
    ∀ item ∈ Timeline.filled timeline [] last, ∀ e ∈ item.value, Spans.Valid e.badgeIds := by
  intro item hitem e he
  -- Items that fill gaps hold no entries.
  rcases Timeline.mem_filled hitem with stated | rfl
  · exact (Spans.validate_eq_ok _).1 (Checked.forM_eq_ok.1 (Checked.forM_eq_ok.1 h item stated) e he)
  · cases he

theorem ordered_metadataDeclarations (h : flattenBadgeMetadata timeline = .ok details) :
    ∀ d ∈ (Timeline.filled timeline [] maxValue).flatMap itemDeclarations, d.Ordered := by
  obtain ⟨valid, validEntries, _⟩ := flattenBadgeMetadata_eq_ok.1 h
  intro d hd
  obtain ⟨item, hitem, hd⟩ := List.mem_flatMap.1 hd
  have ordered := Timeline.filled_ordered (Timeline.valid_of_validate valid) [] maxValue item hitem
  exact ordered_itemDeclarations ordered (valid_of_mem_filled validEntries item hitem) d hd

theorem tiling_flattenBadgeMetadata (h : flattenBadgeMetadata timeline = .ok details) :
    Detail.Tiling details := by
  have ordered := ordered_metadataDeclarations h
  obtain ⟨_, _, rfl⟩ := flattenBadgeMetadata_eq_ok.1 h
  exact tiling_flatten _ ordered

theorem payloadAt?_flattenBadgeMetadata (h : flattenBadgeMetadata timeline = .ok details)
    (p : Point) :
    Detail.payloadAt? details p =
      if p.OffTimeline ∧ p.timelineTime ∈ Span.full then
        some (.value (.metadata (BadgeMetadata.valueAt timeline p.badgeId p.timelineTime)))
      else none := by
  obtain ⟨valid, validEntries, rfl⟩ := flattenBadgeMetadata_eq_ok.1 h
  rw [payloadAt?_flatten]
  · by_cases off : p.OffTimeline
    · have lookup := congrArg
        (Option.map fun entries : List BadgeMetadata =>
          Payload.value (.metadata ((describe? entries p.badgeId).getD ⟨"", ""⟩)))
        (Timeline.value_filled_of_valid (Timeline.valid_of_validate valid) [] p.timelineTime)
      rw [Option.map_map] at lookup
      rw [payload_flatMap_itemDeclarations _ off]
      refine lookup.trans ?_
      split <;> simp [*, BadgeMetadata.valueAt]
    · have uncovered : ∀ item ∈ Timeline.filled timeline [] maxValue,
          ∀ d ∈ itemDeclarations item, ¬p ∈ d := by
        intro item hitem d hd hp
        exact off (offTimeline_of_mem_itemDeclarations
          (valid_of_mem_filled validEntries item hitem) hd hp)
      simpa [off] using uncovered
  · intro d hd
    obtain ⟨item, _, hd⟩ := List.mem_flatMap.1 hd
    obtain ⟨_, _, rfl, _⟩ := exists_of_mem_itemDeclarations hd
    rfl

theorem inhabited_flattenBadgeMetadata (h : flattenBadgeMetadata timeline = .ok details) :
    ∀ d ∈ details, ∃ p : Point, p ∈ d := by
  have ordered := ordered_metadataDeclarations h
  obtain ⟨_, _, rfl⟩ := flattenBadgeMetadata_eq_ok.1 h
  refine (flatten_inhabited_iff ordered).2 ?_
  intro d hd
  refine (Declaration.regions_inhabited_iff (ordered d hd)).2 fun _ => ?_
  obtain ⟨item, _, hd⟩ := List.mem_flatMap.1 hd
  obtain ⟨_, m, rfl, _⟩ := exists_of_mem_itemDeclarations hd
  exact Declaration.everywhere_listsInhabited (.value (.metadata m))

theorem exists_mem_changedBadgeMetadata (hbefore : flattenBadgeMetadata old = .ok before)
    (hafter : flattenBadgeMetadata new = .ok after) (p : Point) :
    (∃ r ∈ Difference.changedRegions before after, p ∈ r) ↔
      p.OffTimeline ∧ BadgeMetadata.ChangesAt old new p.badgeId p.timelineTime := by
  rw [Difference.exists_mem_changedRegions (tiling_flattenBadgeMetadata hbefore).apart
      (tiling_flattenBadgeMetadata hafter).apart,
    payloadAt?_flattenBadgeMetadata hbefore, payloadAt?_flattenBadgeMetadata hafter]
  by_cases inside : p.OffTimeline ∧ p.timelineTime ∈ Span.full
  · simp [BadgeMetadata.ChangesAt, inside, inside.1.1]
  · simp only [inside, BadgeMetadata.ChangesAt]
    tauto

end Flattened

end Update

namespace BadgeTimedPermission

def first? (permissions : List BadgeTimedPermission) (badgeId t : Nat) :
    Option BadgeTimedPermission :=
  permissions.find? fun q => Spans.Mem badgeId q.badgeIds ∧ Spans.Mem t q.timelineTimes

def ForbiddenAt (permissions : List BadgeTimedPermission) (now badgeId t : Nat) : Prop :=
  ∃ q, first? permissions badgeId t = some q ∧ Spans.Mem now q.windows.forbidden

def PermittedAt (permissions : List BadgeTimedPermission) (now badgeId t : Nat) : Prop :=
  ∃ q, first? permissions badgeId t = some q ∧ Spans.Mem now q.windows.permitted

variable {permissions : List BadgeTimedPermission} {resolve : Resolver}
  {declarations : List Declaration} {now : Nat} {p : Point}

theorem exists_first?_iff (h : Permission.toDeclarations resolve permissions = .ok declarations)
    (off : p.OffTimeline) (holds : Windows → Prop) :
    (∃ d, declarations.find? (p ∈ ·) = some d ∧ holds d.windows) ↔
      ∃ q, first? permissions p.badgeId p.timelineTime = some q ∧ holds q.windows := by
  have covers (q : BadgeTimedPermission) : LawfulPermission.Covers q resolve p ↔
      Spans.Mem p.badgeId q.badgeIds ∧ Spans.Mem p.timelineTime q.timelineTimes := by
    simp [LawfulPermission.Covers, Covers, off.2.1, off.2.2]
  rw [Permission.exists_find?_iff h p holds]
  simp only [covers]
  rfl

theorem forbiddenAt_iff (h : Permission.toDeclarations resolve permissions = .ok declarations)
    (off : p.OffTimeline) :
    BadgeRights.ForbiddenAt declarations now p ↔
      ForbiddenAt permissions now p.badgeId p.timelineTime :=
  exists_first?_iff h off (Spans.Mem now ·.forbidden)

theorem permittedAt_iff (h : Permission.toDeclarations resolve permissions = .ok declarations)
    (off : p.OffTimeline) :
    BadgeRights.PermittedAt declarations now p ↔
      PermittedAt permissions now p.badgeId p.timelineTime :=
  exists_first?_iff h off (Spans.Mem now ·.permitted)

end BadgeTimedPermission

namespace Update

variable {old new : Timeline (List BadgeMetadata)} {permissions : List BadgeTimedPermission}
  {stance : Stance}

theorem badgeMetadata_judged {verdict : Verdict}
    (h : badgeMetadata old new permissions stance = .ok verdict) :
    ∃ changed declarations,
      Permission.toDeclarations Resolver.reserved permissions = .ok declarations ∧
      Judged .badgeMetadata changed declarations stance verdict ∧
      (∀ r ∈ changed, ∃ p : Point, p ∈ r) ∧
      ∀ p : Point, (∃ r ∈ changed, p ∈ r) ↔
        p.OffTimeline ∧ BadgeMetadata.ChangesAt old new p.badgeId p.timelineTime := by
  obtain ⟨before, after, declarations, hbefore, hafter, declared, rfl⟩ := compared_eq_ok.1 h
  obtain ⟨declared, _⟩ := Permission.declare_eq_ok.1 declared
  have tilingOld := tiling_flattenBadgeMetadata hbefore
  have tilingNew := tiling_flattenBadgeMetadata hafter
  refine ⟨_, declarations, declared, checkRegions_judged _ _ declarations stance ?_ ?_, ?_, ?_⟩
  · exact Difference.ordered_of_mem_changedRegions tilingOld tilingNew
  · exact Permission.ordered_of_toDeclarations declared
  · rw [Difference.inhabited_changedRegions_iff tilingOld tilingNew, List.forall_mem_append]
    exact ⟨inhabited_flattenBadgeMetadata hbefore, inhabited_flattenBadgeMetadata hafter⟩
  · exact exists_mem_changedBadgeMetadata hbefore hafter

theorem exists_badgeMetadata
    (validOld : Timeline.validate old = .ok () ∧ validateEntries old = .ok ())
    (validNew : Timeline.validate new = .ok () ∧ validateEntries new = .ok ())
    (wellFormed : ∀ q ∈ permissions, q.WellFormed) :
    ∃ verdict, badgeMetadata old new permissions stance = .ok verdict := by
  have declares : ∃ declarations,
      Permission.declare .updateBadgeMetadata Resolver.reserved permissions = .ok declarations :=
    Permission.exists_declare _ wellFormed
  rcases declares with ⟨declarations, declared⟩
  have before := flattenBadgeMetadata_eq_ok.2 ⟨validOld.1, validOld.2, rfl⟩
  have after := flattenBadgeMetadata_eq_ok.2 ⟨validNew.1, validNew.2, rfl⟩
  exact ⟨_, compared_eq_ok.2 ⟨_, _, declarations, before, after, declared, rfl⟩⟩

/-- Every update of valid metadata gets the verdict that the changed badges and instants call for,
each judged by the first permission for it. -/
theorem badgeMetadata_decides
    (validOld : Timeline.validate old = .ok () ∧ validateEntries old = .ok ())
    (validNew : Timeline.validate new = .ok () ∧ validateEntries new = .ok ())
    (wellFormed : ∀ q ∈ permissions, q.WellFormed) :
    let touched := ∃ b t, BadgeMetadata.ChangesAt old new b t ∧
      BadgeTimedPermission.ForbiddenAt permissions stance.now b t
    let allPermitted := ∀ b t, BadgeMetadata.ChangesAt old new b t →
      BadgeTimedPermission.PermittedAt permissions stance.now b t
    ∃ verdict, badgeMetadata old new permissions stance = .ok verdict ∧
      ((∃ s, verdict = .denied ⟨.badgeMetadata, .forbidden, s⟩) ↔ touched) ∧
      (¬touched → stance.unhandled = .neutral → verdict = .permitted) ∧
      (¬touched → stance.unhandled = .requirePermitted →
        (verdict = .permitted ↔ allPermitted) ∧
          (¬allPermitted → ∃ s, verdict = .denied ⟨.badgeMetadata, .notPermitted, s⟩)) := by
  intro touched allPermitted
  obtain ⟨verdict, answered⟩ : ∃ verdict, badgeMetadata old new permissions stance = .ok verdict :=
    exists_badgeMetadata validOld validNew wellFormed
  obtain ⟨changed, declarations, declared, judged, inhabited, holds⟩ := badgeMetadata_judged answered
  -- A change at a badge and an instant is one at every point with both.
  have reached (i : Nat × Nat) (change : BadgeMetadata.ChangesAt old new i.1 i.2) :
      ∃ p : Point, p.OffTimeline ∧ (p.badgeId, p.timelineTime) = i :=
    ⟨{ Point.atInstant i.2 with badgeId := i.1 },
      ⟨change.1.1, (Point.offTimeline_atInstant i.2).2⟩, rfl⟩
  have decides := judged.decides_read inhabited (fun p => (p.badgeId, p.timelineTime))
    (fun i => BadgeMetadata.ChangesAt old new i.1 i.2)
    (fun i => BadgeTimedPermission.ForbiddenAt permissions stance.now i.1 i.2)
    (fun i => BadgeTimedPermission.PermittedAt permissions stance.now i.1 i.2) reached holds
    (fun p off => BadgeTimedPermission.forbiddenAt_iff declared off)
    (fun p off => BadgeTimedPermission.permittedAt_iff declared off)
  simp only [Prod.exists, Prod.forall] at decides
  exact ⟨verdict, answered, decides⟩

section Relabelling

def described (uri : String) (first last : Nat) : BadgeMetadata := ⟨uri, "", [⟨first, last⟩]⟩

def catalogue : Timeline (List BadgeMetadata) :=
  [⟨[⟨1, 100⟩], [described "front" 1 10, described "back" 5 15]⟩]

def reordered : Timeline (List BadgeMetadata) :=
  [⟨[⟨1, 50⟩], [described "back" 5 15, described "front" 1 10]⟩]

def catalogueLock : List BadgeTimedPermission :=
  [⟨[.full], [⟨1, 4⟩], ⟨[⟨1, 2000⟩], []⟩⟩, ⟨[⟨1, 20⟩], [⟨1, 10⟩], ⟨[], [.full]⟩⟩]

theorem reordered_catalogue_denied :
    (Timeline.validate catalogue = .ok () ∧ validateEntries catalogue = .ok ()) ∧
      (Timeline.validate reordered = .ok () ∧ validateEntries reordered = .ok ()) ∧
      (∀ q ∈ catalogueLock, q.WellFormed) ∧
      ∃ s, badgeMetadata catalogue reordered catalogueLock ⟨1000, .neutral⟩ =
        .ok (.denied ⟨.badgeMetadata, .forbidden, s⟩) := by
  have validOld : Timeline.validate catalogue = .ok () ∧ validateEntries catalogue = .ok () :=
    ⟨rfl, rfl⟩
  have validNew : Timeline.validate reordered = .ok () ∧ validateEntries reordered = .ok () :=
    ⟨rfl, rfl⟩
  have wellFormed : ∀ q ∈ catalogueLock, q.WellFormed := by decide
  have decides : ∃ verdict, badgeMetadata catalogue reordered catalogueLock ⟨1000, .neutral⟩ =
      .ok verdict ∧ _ := badgeMetadata_decides validOld validNew wellFormed
  obtain ⟨verdict, answered, forbidden, _⟩ := decides
  have touched : ∃ b t, BadgeMetadata.ChangesAt catalogue reordered b t ∧
      BadgeTimedPermission.ForbiddenAt catalogueLock 1000 b t :=
    ⟨7, 20, ⟨by decide, by decide⟩, ⟨[⟨1, 20⟩], [⟨1, 10⟩], ⟨[], [.full]⟩⟩, by decide, by decide⟩
  obtain ⟨s, rfl⟩ := forbidden.2 touched
  exact ⟨validOld, validNew, wellFormed, s, answered⟩

end Relabelling

end Update

end BadgeRights
