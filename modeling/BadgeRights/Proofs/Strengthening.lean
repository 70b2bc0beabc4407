import Mathlib.Logic.Relation
import BadgeRights.Proofs.Declared
import BadgeRights.Proofs.Inhabited
import BadgeRights.Proofs.Permanence

set_option autoImplicit false

namespace BadgeRights

structure Strengthens (before after : List Declaration) : Prop where
  forbidden : ∀ now p, ForbiddenAt before now p → ForbiddenAt after now p
  granted : ∀ now p, GrantedAt before now p → GrantedAt after now p

namespace Strengthens

variable {before between after : List Declaration}

theorem refl (declarations : List Declaration) : Strengthens declarations declarations :=
  ⟨fun _ _ h => h, fun _ _ h => h⟩

theorem trans (first : Strengthens before between) (second : Strengthens between after) :
    Strengthens before after := by
  constructor
  · intro now p h
    exact second.forbidden now p (first.forbidden now p h)
  · intro now p h
    exact second.granted now p (first.granted now p h)

end Strengthens

namespace Update

section Step

variable {P : Type} [Permission P] [LawfulPermission P] {kind : PermissionKind}
  {resolve : Resolver} {old new : List P} {before : List Declaration}

theorem strengthens_of_firstLoss? {after : List Declaration} (ordered : ∀ d ∈ before, d.Ordered)
    (consistent : ∀ d ∈ after, Permission.checkWindows kind d.windows = .ok ())
    (h : firstLoss? (Difference.between (flatten before) (flatten after)) = none) :
    Strengthens before after := by
  constructor
  · intro now p forbidden
    exact forbiddenAt_mono ordered h forbidden
  · intro now p granted
    rcases granted with ⟨⟨d, hd, permits⟩, _⟩
    obtain ⟨e, he, within⟩ := within_at_point ordered h hd (Windows.not_isNone (.inl permits))
    have permitted := within.permitted now permits
    refine ⟨⟨e, he, permitted⟩, ?_⟩
    intro forbidden
    -- The checked windows of `e` are apart, so that a forbidden window added there spares `now`.
    rcases forbidden with ⟨other, found, forbids⟩
    obtain rfl : e = other := Option.some.inj (he.symm.trans found)
    have checked := consistent e (List.mem_of_find?_eq_some he)
    exact Spans.apart_of_intersection (Permission.checkWindows_eq_ok.1 checked) permitted forbids

theorem strengthens_of_permission (h : permission kind old new resolve = .ok .permitted)
    (hbefore : Permission.toDeclarations resolve old = .ok before) :
    ∃ after, Permission.toDeclarations resolve new = .ok after ∧ Strengthens before after := by
  obtain ⟨first, after, declaredOld, declaredNew, _⟩ := permission_eq_ok.1 h
  have kept := firstLoss?_of_permission h declaredOld declaredNew
  obtain ⟨hfirst, _⟩ := Permission.declare_eq_ok.1 declaredOld
  obtain ⟨hafter, consistent⟩ := Permission.declare_eq_ok.1 declaredNew
  obtain rfl := Except.ok.inj (hfirst.symm.trans hbefore)
  have ordered := Permission.ordered_of_toDeclarations hfirst
  exact ⟨after, hafter, strengthens_of_firstLoss? ordered consistent kept⟩

end Step

theorem untilDenied_eq_permitted {checks : List (Unit → Checked Verdict)} :
    untilDenied checks = .ok .permitted ↔ ∀ check ∈ checks, check () = .ok .permitted := by
  induction checks with
  | nil => simp [untilDenied]
  | cons check rest ih =>
      rw [untilDenied, List.forall_mem_cons, ← ih]
      cases check () with
      | error fault => exact ⟨nofun, nofun⟩
      | ok verdict => cases verdict <;> simp [bind, Except.bind, pure, Except.pure]

end Update

namespace CollectionPermissions

open Permission

def declarations (c : CollectionPermissions) (resolve : Resolver) :
    PermissionKind → Checked (List Declaration)
  | .deleteCollection => toDeclarations resolve c.deleteCollection
  | .archiveCollection => toDeclarations resolve c.archiveCollection
  | .updateOffChainBalancesMetadata => toDeclarations resolve c.updateOffChainBalancesMetadata
  | .updateStandards => toDeclarations resolve c.updateStandards
  | .updateCustomData => toDeclarations resolve c.updateCustomData
  | .updateManager => toDeclarations resolve c.updateManager
  | .updateCollectionMetadata => toDeclarations resolve c.updateCollectionMetadata
  | .updateBadgeMetadata => toDeclarations resolve c.updateBadgeMetadata
  | .updateCollectionApprovals => toDeclarations resolve c.updateCollectionApprovals
  | .updateIncomingApprovals | .updateOutgoingApprovals => .ok []

def Accepts (resolve : Resolver) (c d : CollectionPermissions) : Prop :=
  Update.collectionPermissions c d resolve = .ok .permitted

variable {c d : CollectionPermissions} {resolve : Resolver} {kind : PermissionKind}
  {before : List Declaration}

theorem ordered_of_declarations (h : c.declarations resolve kind = .ok before) :
    ∀ declaration ∈ before, declaration.Ordered := by
  cases kind with
  | updateIncomingApprovals | updateOutgoingApprovals =>
      cases h
      simp
  | _ => exact ordered_of_toDeclarations h

theorem strengthens_of_update (accepted : Accepts resolve c d)
    (hbefore : c.declarations resolve kind = .ok before) :
    ∃ after, d.declarations resolve kind = .ok after ∧ Strengthens before after := by
  -- A denial or a fault of one check would have been the answer, so that all nine have permitted.
  have all := Update.untilDenied_eq_permitted.1 accepted
  simp only [List.forall_mem_cons, List.not_mem_nil, false_implies, implies_true, and_true] at all
  obtain ⟨delete, archive, balances, standards, data, manager, metadata, badges, approvals⟩ := all
  cases kind with
  | deleteCollection => exact Update.strengthens_of_permission delete hbefore
  | archiveCollection => exact Update.strengthens_of_permission archive hbefore
  | updateOffChainBalancesMetadata => exact Update.strengthens_of_permission balances hbefore
  | updateStandards => exact Update.strengthens_of_permission standards hbefore
  | updateCustomData => exact Update.strengthens_of_permission data hbefore
  | updateManager => exact Update.strengthens_of_permission manager hbefore
  | updateCollectionMetadata => exact Update.strengthens_of_permission metadata hbefore
  | updateBadgeMetadata => exact Update.strengthens_of_permission badges hbefore
  | updateCollectionApprovals => exact Update.strengthens_of_permission approvals hbefore
  | updateIncomingApprovals | updateOutgoingApprovals =>
      exact ⟨[], rfl, by cases hbefore; exact .refl []⟩

theorem strengthens_of_run (run : Relation.ReflTransGen (Accepts resolve) c d)
    (hbefore : c.declarations resolve kind = .ok before) :
    ∃ after, d.declarations resolve kind = .ok after ∧ Strengthens before after := by
  induction run with
  | refl => exact ⟨before, hbefore, .refl before⟩
  | tail _ accepted ih =>
      obtain ⟨between, hbetween, first⟩ := ih
      obtain ⟨after, hafter, second⟩ := strengthens_of_update accepted hbetween
      exact ⟨after, hafter, first.trans second⟩

/-- Over a run of accepted updates, each list of permissions keeps letting through the changes that
it has let through where permission is required, and keeps forbidding those that it has forbidden. -/
theorem accepted_updates_strengthen (run : Relation.ReflTransGen (Accepts resolve) c d)
    (hbefore : c.declarations resolve kind = .ok before) :
    ∃ after, d.declarations resolve kind = .ok after ∧
      ∀ (field : UpdateField) (changed : List Region) (now : Nat), (∀ r ∈ changed, r.Ordered) →
        (Update.checkRegions field changed before ⟨now, .requirePermitted⟩ = .permitted →
          Update.checkRegions field changed after ⟨now, .requirePermitted⟩ = .permitted) ∧
        ∀ policy later : UnhandledPolicy,
          (∃ s, Update.checkRegions field changed before ⟨now, policy⟩ =
            .denied ⟨field, .forbidden, s⟩) →
          ∃ s, Update.checkRegions field changed after ⟨now, later⟩ =
            .denied ⟨field, .forbidden, s⟩ := by
  obtain ⟨after, hafter, strengthens⟩ := strengthens_of_run run hbefore
  refine ⟨after, hafter, ?_⟩
  intro field changed now changedOrdered
  have orderedBefore := ordered_of_declarations hbefore
  have orderedAfter := ordered_of_declarations hafter
  constructor
  · rw [Update.checkRegions_permitted_iff changedOrdered orderedBefore,
      Update.checkRegions_permitted_iff changedOrdered orderedAfter]
    intro granted r hr
    exact ⟨(granted r hr).1, fun p hp => strengthens.granted now p ((granted r hr).2 p hp)⟩
  · intro policy later
    rw [Update.checkRegions_forbidden_iff changedOrdered orderedBefore,
      Update.checkRegions_forbidden_iff changedOrdered orderedAfter]
    intro touches
    rcases touches with ⟨r, hr, p, hp, forbidden⟩
    exact ⟨r, hr, p, hp, strengthens.forbidden now p forbidden⟩

section Manager

def managedBy (permissions : List TimedPermission) : CollectionPermissions :=
  ⟨[⟨⟨[], [.full]⟩⟩], [], [], [], [], permissions, [], [], []⟩

def openManager : CollectionPermissions :=
  managedBy [⟨[⟨1, 100⟩], ⟨[⟨1, 2000⟩], [⟨5000, 5500⟩]⟩⟩]

def splitManager : CollectionPermissions :=
  managedBy [⟨[⟨1, 40⟩], ⟨[⟨1, 3000⟩], [⟨5000, 6000⟩]⟩⟩,
    ⟨[⟨41, 100⟩], ⟨[⟨1, 2000⟩], [⟨4500, 5500⟩]⟩⟩]

def widenedManager : CollectionPermissions :=
  managedBy (⟨[⟨30, 50⟩], ⟨[⟨1, 4000⟩], [⟨4500, 7000⟩]⟩⟩ :: splitManager.updateManager)

def firstHundred : Region := { Region.universal with timelineTimes := ⟨1, 100⟩ }

theorem openManager_strengthened :
    Relation.ReflTransGen (Accepts Resolver.reserved) openManager widenedManager ∧
      (∃ before, openManager.declarations Resolver.reserved .updateManager = .ok before ∧
        ∃ s, Update.checkRegions .manager [firstHundred] before ⟨5200, .neutral⟩ =
          .denied ⟨.manager, .forbidden, s⟩) ∧
      ∃ after, widenedManager.declarations Resolver.reserved .updateManager = .ok after ∧
        Update.checkRegions .manager [firstHundred] after ⟨1000, .requirePermitted⟩ =
          .permitted ∧
        ∃ s, Update.checkRegions .manager [firstHundred] after ⟨5200, .requirePermitted⟩ =
          .denied ⟨.manager, .forbidden, s⟩ := by
  have split : Accepts Resolver.reserved openManager splitManager := rfl
  have widened : Accepts Resolver.reserved splitManager widenedManager := rfl
  have run : Relation.ReflTransGen (Accepts Resolver.reserved) openManager widenedManager :=
    .tail (.single split) widened
  obtain ⟨before, hbefore, permitted, forbidden⟩ : ∃ before,
      openManager.declarations Resolver.reserved .updateManager = .ok before ∧
        Update.checkRegions .manager [firstHundred] before ⟨1000, .requirePermitted⟩ =
          .permitted ∧
        ∃ s, Update.checkRegions .manager [firstHundred] before ⟨5200, .neutral⟩ =
          .denied ⟨.manager, .forbidden, s⟩ := ⟨_, rfl, rfl, _, rfl⟩
  obtain ⟨after, hafter, strengthened⟩ := accepted_updates_strengthen run hbefore
  have kept := (strengthened .manager [firstHundred] 1000 (by decide)).1 permitted
  have stillForbidden :=
    (strengthened .manager [firstHundred] 5200 (by decide)).2 .neutral .requirePermitted forbidden
  exact ⟨run, ⟨before, hbefore, forbidden⟩, after, hafter, kept, stillForbidden⟩

end Manager

end CollectionPermissions

end BadgeRights
