import BadgeRights.Proofs.Approval

set_option autoImplicit false

namespace BadgeRights

theorem Region.pairwise_slices {spans : List Span} {slice : Span → List Region}
    (dimension : Point → Nat) (apart : spans.Pairwise Apart)
    (each : ∀ s ∈ spans, (slice s).Pairwise Apart)
    (bounded : ∀ s ∈ spans, ∀ r ∈ slice s, ∀ p ∈ r, dimension p ∈ s) :
    (spans.flatMap slice).Pairwise Apart := by
  refine List.pairwise_flatMap.2 ⟨each, apart.imp_of_mem ?_⟩
  intro s t hs ht apart r hr q hq p inFirst inSecond
  exact apart (dimension p) (bounded s hs r hr p inFirst) (bounded t ht q hq p inSecond)

namespace Declaration

theorem pairwise_regions {d : Declaration} (badges : d.badgeIds.Pairwise Apart)
    (timeline : d.timelineTimes.Pairwise Apart) (transfers : d.transferTimes.Pairwise Apart)
    (ownership : d.ownershipTimes.Pairwise Apart) : d.regions.Pairwise Apart := by
  refine Region.pairwise_slices Point.badgeId badges (fun badge _ => ?_) ?_
  · refine Region.pairwise_slices Point.timelineTime timeline (fun time _ => ?_) ?_
    · refine Region.pairwise_slices Point.transferTime transfers (fun transfer _ => ?_) ?_
      · refine List.pairwise_map.2 (ownership.imp ?_)
        intro a b apart p hp hq
        exact apart p.ownershipTime hp.2.2.2.1 hq.2.2.2.1
      · simp only [List.mem_map]
        rintro transfer _ _ ⟨_, _, rfl⟩ p hp
        exact hp.2.2.1
    · simp only [List.mem_flatMap, List.mem_map]
      rintro time _ _ ⟨_, _, _, _, rfl⟩ p hp
      exact hp.2.1
  · simp only [List.mem_flatMap, List.mem_map]
    rintro badge _ _ ⟨_, _, _, _, _, _, rfl⟩ p hp
    exact hp.1

theorem payloads_details {d : Declaration} (apart : d.regions.Pairwise Apart) (p : Point) :
    (d.details.filter (p ∈ ·)).map Detail.payload = if p ∈ d then [d.payload] else [] := by
  have apartDetails : d.details.Pairwise Apart := List.pairwise_map.2 apart
  split
  · rename_i covered
    have once := Detail.countP_mem_eq_one apartDetails p ((d.exists_mem_details p).2 covered)
    rw [List.countP_eq_length_filter, List.length_eq_one_iff] at once
    obtain ⟨e, only⟩ := once
    have member : e ∈ d.details.filter (p ∈ ·) := by simp [only]
    rw [only, List.map_singleton, (said_of_mem_details (List.mem_filter.1 member).1).2]
  · rename_i uncovered
    rw [List.map_eq_nil_iff, List.filter_eq_nil_iff]
    intro e he
    simpa using fun hp => uncovered ((d.exists_mem_details p).1 ⟨e, he, hp⟩)

end Declaration

theorem payloads_flatMap_details {declarations : List Declaration}
    (apart : ∀ d ∈ declarations, d.regions.Pairwise Apart) (p : Point) :
    ((declarations.flatMap Declaration.details).filter (p ∈ ·)).map Detail.payload =
      (declarations.filter (p ∈ ·)).map Declaration.payload := by
  induction declarations with
  | nil => rfl
  | cons d rest ih =>
      obtain ⟨first, later⟩ := List.forall_mem_cons.1 apart
      rw [List.flatMap_cons, List.filter_append, List.map_append, Declaration.payloads_details first,
        ih later, List.filter_cons]
      by_cases here : p ∈ d <;> simp [here]

theorem Flattening.ResolvedAt.payload_of_criteria {p : Point} {stated claimed : List Detail}
    {parts : List CriteriaStack} (h : ResolvedAt p stated claimed)
    (criteria : (stated.filter (p ∈ ·)).map Detail.payload = parts.map Payload.criteria) :
    ∀ d ∈ claimed, p ∈ d → d.payload = .criteria (CriteriaStack.ofAll parts) := by
  intro d hd hp
  unfold ResolvedAt at h
  cases covering : stated.filter (p ∈ ·) with
  | nil =>
      simp only [covering] at h
      exact absurd hp (h d hd)
  | cons first later =>
      simp only [covering] at h
      rw [covering, List.map_cons] at criteria
      obtain ⟨stack, others, rfl, firstIs, laterAre⟩ := List.map_eq_cons_iff.1 criteria.symm
      rw [(h.2 d hd hp).2, ← firstIs, ← laterAre]
      simp [Payload.stackedWith, List.filterMap_map, Function.comp_def, Payload.criteria?]

theorem CriteriaStack.ofAll_single (criteria : List Criteria) :
    ofAll (criteria.map single) = ⟨criteria, criteria.all Criteria.isSatisfiable⟩ := by
  simp [ofAll, single, List.flatMap_map, List.all_map, Function.comp_def]

namespace ExpandedApproval

def Covers (e : ExpandedApproval) (p : Point) : Prop :=
  Spans.Mem p.badgeId e.badgeIds ∧ Spans.Mem p.transferTime e.transferTimes ∧
    Spans.Mem p.ownershipTime e.ownershipTimes ∧ p.recipient ∈ e.toList ∧ p.sender ∈ e.fromList ∧
    p.initiator ∈ e.initiatedByList

instance (e : ExpandedApproval) (p : Point) : Decidable (e.Covers p) :=
  inferInstanceAs (Decidable (_ ∧ _ ∧ _ ∧ _ ∧ _ ∧ _))

theorem mem_toCriteriaDeclaration (e : ExpandedApproval) {p : Point}
    (inside : p.timelineTime ∈ Span.full) : p ∈ e.toCriteriaDeclaration ↔ e.Covers p := by
  simp [Declaration.mem_iff, toCriteriaDeclaration, declaration, Declaration.everywhere, inside, Covers]

end ExpandedApproval

namespace CollectionApproval

variable {resolve : Resolver} {approvals : List CollectionApproval}
  {expanded : List ExpandedApproval}

theorem ordered_criteriaDeclarations (h : expand resolve approvals = .ok expanded) :
    ∀ d ∈ expanded.map ExpandedApproval.toCriteriaDeclaration, d.Ordered := by
  -- The spans are those of the declaration with the ids.
  have ordered := List.forall_mem_map.1 (ordered_of_expand h)
  exact List.forall_mem_map.2 ordered

theorem apart_criteriaDeclarations (h : expand resolve approvals = .ok expanded) :
    ∀ d ∈ expanded.map ExpandedApproval.toCriteriaDeclaration, d.regions.Pairwise Apart := by
  intro d hd
  obtain ⟨e, he, rfl⟩ := List.mem_map.1 hd
  obtain ⟨a, _, hexpand, _⟩ := exists_left_of_forall₂ (expandAfter_forall₂ h) he
  obtain ⟨_, _, _, _, _, _, _, _, _, rfl⟩ := expandOne_eq_ok.1 hexpand
  exact Declaration.pairwise_regions (Spans.apart_merge _) (List.pairwise_singleton _ _)
    (Spans.apart_merge _) (Spans.apart_merge _)

/-- No approval that covers the transfer is missing from its stack, none is in it twice, and the stack
approves if all of its criteria can be satisfied. -/
theorem criteriaStacks_lists_applying (h : expand resolve approvals = .ok expanded) {p : Point}
    (inside : p.timelineTime ∈ Span.full) :
    let listed := ExpandedApproval.criteriaStacks expanded
    let applying :=
      (expanded.filter fun e => e.Covers p).map fun e => e.value.approvalCriteria
    listed.countP (p ∈ ·) = (if applying = [] then 0 else 1) ∧
      ∀ d ∈ listed, p ∈ d →
        d.payload = .criteria ⟨applying, applying.all Criteria.isSatisfiable⟩ := by
  intro listed applying
  have covering : (expanded.map ExpandedApproval.toCriteriaDeclaration).filter (p ∈ ·) =
      (expanded.filter fun e => e.Covers p).map ExpandedApproval.toCriteriaDeclaration := by
    rw [List.filter_map]
    simp only [Function.comp_def, ExpandedApproval.mem_toCriteriaDeclaration _ inside]
  have payloads := payloads_flatMap_details (apart_criteriaDeclarations h) p
  have tiling := tiling_flatten _ (ordered_criteriaDeclarations h)
  have held : (∃ d ∈ listed, p ∈ d) ↔ applying ≠ [] := by
    refine (exists_mem_flatten _ p).trans ?_
    simp [applying, ExpandedApproval.mem_toCriteriaDeclaration _ inside]
  constructor
  · split
    · rename_i silent
      exact Detail.countP_mem_eq_zero p fun covered => held.1 covered silent
    · rename_i applies
      exact Detail.countP_mem_eq_one tiling.apart p (held.2 applies)
  · rw [← CriteriaStack.ofAll_single]
    refine (flatten_resolvedAt _ p).payload_of_criteria ?_
    rw [payloads, covering, List.map_map, List.map_map, List.map_map]
    rfl

section Taint

def anyone : Resolver := fun _ => .ok .everyone

def approvalOn (badgeIds : List Span) (approvalId : String) (criteria : Criteria) :
    CollectionApproval where
  fromListId := "All"
  toListId := "All"
  terms := ⟨"All", [.full], badgeIds, [.full], approvalId, "", ""⟩
  body := ⟨"", "", some criteria⟩

def contradictory : Criteria :=
  { (default : Criteria) with
    requireFromEqualsInitiatedBy := true
    requireFromDoesNotEqualInitiatedBy := true }

def expandedOn (badgeIds : List Span) (approvalId : String) (criteria : Criteria) :
    ExpandedApproval :=
  ⟨.everyone, .everyone, .everyone, [.full], badgeIds, [.full], "", "", ⟨approvalId, "", "", criteria⟩⟩

theorem contradiction_taints_overlap :
    let expanded := [expandedOn [⟨1, 10⟩] "open" default, expandedOn [⟨5, 15⟩] "shut" contradictory]
    expand anyone [approvalOn [⟨5, 10⟩, ⟨1, 6⟩] "open" default,
        approvalOn [⟨5, 15⟩] "shut" contradictory] = .ok expanded ∧
      (mintPoint 6).timelineTime ∈ Span.full ∧
      ∃ d ∈ ExpandedApproval.criteriaStacks expanded, mintPoint 6 ∈ d ∧
        d.payload = .criteria ⟨[default, contradictory], false⟩ := by
  intro expanded
  have hexpand : expand anyone [approvalOn [⟨5, 10⟩, ⟨1, 6⟩] "open" default,
      approvalOn [⟨5, 15⟩] "shut" contradictory] = .ok expanded := rfl
  have inside : (mintPoint 6).timelineTime ∈ Span.full := by decide
  obtain ⟨once, lists⟩ := criteriaStacks_lists_applying hexpand inside
  have covered : 0 < (ExpandedApproval.criteriaStacks expanded).countP (mintPoint 6 ∈ ·) := by
    rw [once]
    decide
  obtain ⟨d, hd, hp⟩ := List.countP_pos_iff.1 covered
  have hp : mintPoint 6 ∈ d := of_decide_eq_true hp
  exact ⟨hexpand, inside, d, hd, hp, lists d hd hp⟩

end Taint

end CollectionApproval

end BadgeRights
