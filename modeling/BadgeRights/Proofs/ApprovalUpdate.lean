import BadgeRights.Proofs.Lock

set_option autoImplicit false

namespace BadgeRights

def ApprovalPermission.PermittedAt (permissions : List ApprovalPermission) (resolve : Resolver)
    (now : Nat) (p : Point) : Prop :=
  ∃ q, permissions.find? (fun q => q.Covers resolve p) = some q ∧ Spans.Mem now q.windows.permitted

namespace Update

open CollectionApproval

variable {resolve : Resolver} {permissions : List ApprovalPermission} {stance : Stance}

theorem permittedAt_declared {kind : PermissionKind} {declarations : List Declaration} {now : Nat}
    {p : Point} (h : Permission.declare kind resolve permissions = .ok declarations) :
    BadgeRights.PermittedAt declarations now p ↔
      ApprovalPermission.PermittedAt permissions resolve now p :=
  Permission.exists_find?_iff (Permission.declare_eq_ok.1 h).1 p (Spans.Mem now ·.permitted)

/-- No approval hides another one, and an update of approvals gets the verdict that the changed
points call for, each judged by the first permission for it. -/
theorem collectionApprovals_decides {old new : List CollectionApproval}
    {before after : List ExpandedApproval} (hbefore : expand resolve old = .ok before)
    (hafter : expand resolve new = .ok after)
    (wellFormed : ∀ q ∈ permissions, q.WellFormed resolve) :
    let changed := fun p : Point => valueAt? resolve old p ≠ valueAt? resolve new p
    let touched :=
      ∃ p, changed p ∧ ApprovalPermission.ForbiddenAt permissions resolve stance.now p
    let allPermitted :=
      ∀ p, changed p → ApprovalPermission.PermittedAt permissions resolve stance.now p
    (∀ p : Point, ∀ a ∈ old, a.Covers resolve p → valueAt? resolve old p = some a.value) ∧
      (∀ p : Point, ∀ a ∈ new, a.Covers resolve p → valueAt? resolve new p = some a.value) ∧
      ∃ verdict, collectionApprovals old new permissions resolve stance = .ok verdict ∧
        ((∃ s, verdict = .denied ⟨.collectionApprovals, .forbidden, s⟩) ↔ touched) ∧
        (¬touched → stance.unhandled = .neutral → verdict = .permitted) ∧
        (¬touched → stance.unhandled = .requirePermitted →
          (verdict = .permitted → allPermitted) ∧
            ((∀ a ∈ old ++ new, ∀ id ∈ a.listIds, ¬resolve.Empty id) →
              allPermitted → verdict = .permitted) ∧
            (verdict ≠ .permitted →
              ∃ s, verdict = .denied ⟨.collectionApprovals, .notPermitted, s⟩)) := by
  intro changed touched allPermitted
  refine ⟨fun p a ha => valueAt?_of_covers hbefore ha, fun p a ha => valueAt?_of_covers hafter ha,
    ?_⟩
  obtain ⟨verdict, answered⟩ : ∃ verdict,
      collectionApprovals old new permissions resolve stance = .ok verdict :=
    exists_approvals hbefore hafter wellFormed
  obtain ⟨_, declarations, declared, judged, holds, inhabited⟩ := approvals_judged answered
  have decides := judged.decides holds
  simp only [forbiddenAt_declared declared, permittedAt_declared declared] at decides
  obtain ⟨forbidden, neutral, required⟩ := decides
  refine ⟨verdict, answered, forbidden, neutral, ?_⟩
  intro untouched policy
  obtain ⟨sound, complete, otherwise⟩ := required untouched policy
  refine ⟨sound, ?_, otherwise⟩
  intro parties
  apply complete
  apply inhabited
  intro a ha void
  obtain ⟨_, id, hid, empty⟩ := void
  exact parties a ha id hid empty

section Rebadge

open Governed

def tenLocked : List ApprovalPermission := [
  mintPermission [⟨1, 10⟩] ⟨[], [.full]⟩,
  mintPermission [⟨1, 20⟩] ⟨[⟨1, 2000⟩], []⟩]

theorem mintPermission_wellFormed {badgeIds : List Span} {windows : Windows}
    (badges : Spans.Valid badgeIds) (consistent : windows.Consistent) :
    (mintPermission badgeIds windows).WellFormed mintResolver := by
  have full : Spans.Valid [.full] := by decide
  exact ⟨badges, full, full, ⟨_, rfl⟩, ⟨_, rfl⟩, ⟨_, rfl⟩, consistent⟩

theorem tenLocked_wellFormed : ∀ q ∈ tenLocked, q.WellFormed mintResolver := by
  refine List.forall_mem_cons.2 ⟨?_, List.forall_mem_singleton.2 ?_⟩
  · exact mintPermission_wellFormed (by decide) (by decide)
  · exact mintPermission_wellFormed (by decide) (by decide)

theorem rebadge_decides :
    ∃ before after, expand mintResolver [mintApproval [⟨1, 20⟩]] = .ok before ∧
      expand mintResolver [mintApproval [⟨6, 20⟩]] = .ok after ∧
      (∀ q ∈ tenLocked, q.WellFormed mintResolver) ∧
      ∃ s, collectionApprovals [mintApproval [⟨1, 20⟩]] [mintApproval [⟨6, 20⟩]] tenLocked
        mintResolver ⟨1000, .requirePermitted⟩ =
          .ok (.denied ⟨.collectionApprovals, .forbidden, s⟩) := by
  obtain ⟨before, hbefore⟩ : ∃ before,
      expand mintResolver [mintApproval [⟨1, 20⟩]] = .ok before := ⟨_, rfl⟩
  obtain ⟨after, hafter⟩ : ∃ after,
      expand mintResolver [mintApproval [⟨6, 20⟩]] = .ok after := ⟨_, rfl⟩
  refine ⟨before, after, hbefore, hafter, tenLocked_wellFormed, ?_⟩
  have decides := @collectionApprovals_decides mintResolver tenLocked ⟨1000, .requirePermitted⟩
    _ _ before after hbefore hafter tenLocked_wellFormed
  obtain ⟨_, _, verdict, answered, forbidden, _⟩ := decides
  -- The locked badges from 1 to 5 lose their approval.
  have touched : ApprovalPermission.ForbiddenAt tenLocked mintResolver 1000 (mintPoint 3) :=
    ⟨mintPermission [⟨1, 10⟩] ⟨[], [.full]⟩, by decide, by decide⟩
  obtain ⟨s, rfl⟩ := forbidden.2 ⟨mintPoint 3, by decide, touched⟩
  exact ⟨s, answered⟩

end Rebadge

theorem changedApprovals_self_iff {approvals : List CollectionApproval}
    {expanded : List ExpandedApproval} (h : expand resolve approvals = .ok expanded) :
    Difference.changedRegions (flattenApprovals expanded) (flattenApprovals expanded) = [] ↔
      ∀ a ∈ approvals, ¬a.IsVoid resolve := by
  rw [← inhabited_flattenApprovals_iff h]
  exact Difference.changedRegions_self_iff (tiling_flattenApprovals h)

/-- An update that changes nothing is never forbidden. Where permission is required it is let through
exactly if no approval is void; the denial names a region without points. -/
theorem noop_permitted_iff {approvals : List CollectionApproval}
    {expanded : List ExpandedApproval} (h : expand resolve approvals = .ok expanded)
    (wellFormed : ∀ q ∈ permissions, q.WellFormed resolve) :
    let changed :=
      Difference.changedRegions (flattenApprovals expanded) (flattenApprovals expanded)
    let noneVoid := ∀ a ∈ approvals, ¬a.IsVoid resolve
    (changed = [] ↔ noneVoid) ∧
      ∃ verdict, collectionApprovals approvals approvals permissions resolve stance = .ok verdict ∧
        (verdict = .permitted ↔ stance.unhandled = .neutral ∨ noneVoid) ∧
        (verdict ≠ .permitted →
          ∃ s, verdict = .denied ⟨.collectionApprovals, .notPermitted, s⟩ ∧ ∀ p : Point, ¬p ∈ s) := by
  intro changed noneVoid
  have unchanged : changed = [] ↔ noneVoid := changedApprovals_self_iff h
  have pointless : ∀ r ∈ changed, ∀ p : Point, ¬p ∈ r := by
    intro r hr p hp
    exact (exists_mem_changedApprovals h h p).1 ⟨r, hr, hp⟩ rfl
  have changedOrdered : ∀ r ∈ changed, r.Ordered := ordered_changedApprovals h h
  obtain ⟨declarations, declared⟩ : ∃ declarations,
      Permission.declare .updateCollectionApprovals resolve permissions = .ok declarations :=
    Permission.exists_declare _ wellFormed
  have declaredOrdered := Permission.ordered_of_declare declared
  refine ⟨unchanged, checkRegions .collectionApprovals changed declarations stance, ?_, ?_, ?_⟩
  · exact approvals_eq_ok.2 ⟨_, _, declarations, h, h, declared, rfl⟩
  · rw [checkRegions_pointless_iff changedOrdered declaredOrdered pointless, unchanged]
  · have judged := checkRegions_judged .collectionApprovals changed declarations stance
      changedOrdered declaredOrdered
    exact judged.denied_of_pointless pointless

theorem mint_noop_permitted :
    ∃ expanded, expand Governed.mintResolver [Governed.mintApproval [⟨1, 20⟩]] = .ok expanded ∧
      (∀ q ∈ tenLocked, q.WellFormed Governed.mintResolver) ∧
      collectionApprovals [Governed.mintApproval [⟨1, 20⟩]] [Governed.mintApproval [⟨1, 20⟩]]
        tenLocked Governed.mintResolver ⟨1000, .requirePermitted⟩ = .ok .permitted := by
  obtain ⟨expanded, hexpand⟩ : ∃ expanded,
      expand Governed.mintResolver [Governed.mintApproval [⟨1, 20⟩]] = .ok expanded := ⟨_, rfl⟩
  refine ⟨expanded, hexpand, tenLocked_wellFormed, ?_⟩
  have noop := @noop_permitted_iff Governed.mintResolver tenLocked ⟨1000, .requirePermitted⟩ _
    expanded hexpand tenLocked_wellFormed
  obtain ⟨_, verdict, answered, permitted, _⟩ := noop
  have noneVoid : ∀ a ∈ [Governed.mintApproval [⟨1, 20⟩]], ¬a.IsVoid Governed.mintResolver := by
    decide
  rw [answered, permitted.2 (.inr noneVoid)]

section Unsent

def unsent : CollectionApproval :=
  let terms : TransferTerms := ⟨"AllWithMint", [⟨1, 10⟩], [⟨1, 10⟩], [⟨1, 10⟩], "a", "", ""⟩
  ⟨"None", "AllWithMint", terms, default⟩

def unsentRegion : Region :=
  ⟨⟨1, 10⟩, .full, ⟨1, 10⟩, ⟨1, 10⟩, .everyone, .nobody, .everyone, .only ["a"], .everyone,
    .everyone⟩

theorem unsent_noop_denied :
    collectionApprovals [unsent] [unsent] [] Resolver.reserved ⟨1000, .requirePermitted⟩ =
      .ok (.denied ⟨.collectionApprovals, .notPermitted, unsentRegion⟩) := by
  decide +kernel

end Unsent

end Update

end BadgeRights
