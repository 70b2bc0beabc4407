import Mathlib.Logic.Relation
import BadgeRights.Proofs.Approval
import BadgeRights.Proofs.Outcome
import BadgeRights.Proofs.BadgeMetadata

set_option autoImplicit false

namespace BadgeRights.Update

structure Coherent {V : Type} (update : V → V → Checked Verdict) (WellFormed : V → Prop)
    (permissionsWellFormed : Prop) : Prop where
  composes : ∀ v w, Relation.TransGen (fun v w => update v w = .ok .permitted) v w →
    update v w = .ok .permitted
  reverses : ∀ v w, WellFormed v → WellFormed w → outcome (update v w) = outcome (update w v)
  answers : permissionsWellFormed → ∀ v w, WellFormed v → WellFormed w →
    ∃ verdict, update v w = .ok verdict

section Details

variable {field : UpdateField} {declarations : List Declaration} {stance : Stance}
  {first second third : List Detail} (declaredOrdered : ∀ d ∈ declarations, d.Ordered)
  (tilingFirst : Detail.Tiling first) (tilingSecond : Detail.Tiling second)

open Difference

include declaredOrdered tilingFirst tilingSecond

theorem checkRegions_trans (tilingThird : Detail.Tiling third)
    (accepted : checkRegions field (changedRegions first second) declarations stance = .permitted)
    (next : checkRegions field (changedRegions second third) declarations stance = .permitted) :
    checkRegions field (changedRegions first third) declarations stance = .permitted := by
  rw [checkRegions_accepts_iff (ordered_of_mem_changedRegions tilingFirst tilingSecond)
      declaredOrdered, touchesForbidden_iff tilingFirst tilingSecond,
    grantsAll_iff tilingFirst tilingSecond] at accepted
  rw [checkRegions_accepts_iff (ordered_of_mem_changedRegions tilingSecond tilingThird)
      declaredOrdered, touchesForbidden_iff tilingSecond tilingThird,
    grantsAll_iff tilingSecond tilingThird] at next
  rw [checkRegions_accepts_iff (ordered_of_mem_changedRegions tilingFirst tilingThird)
      declaredOrdered, touchesForbidden_iff tilingFirst tilingThird,
    grantsAll_iff tilingFirst tilingThird]
  -- A point that changes from the first to the third value changes in one of the steps.
  have changes (p : Point) (differ : Detail.payloadAt? first p ≠ Detail.payloadAt? third p) :
      Detail.payloadAt? first p ≠ Detail.payloadAt? second p ∨
        Detail.payloadAt? second p ≠ Detail.payloadAt? third p := by
    by_contra same
    simp only [not_or, ne_eq, not_not] at same
    exact differ (same.1.trans same.2)
  constructor
  · intro touches
    rcases touches with ⟨p, differ, forbidden⟩
    rcases changes p differ with differ | differ
    · exact accepted.1 ⟨p, differ, forbidden⟩
    · exact next.1 ⟨p, differ, forbidden⟩
  · rcases accepted.2 with neutral | ⟨inhabited, granted⟩
    · exact .inl neutral
    · rcases next.2 with neutral | ⟨inhabitedNext, grantedNext⟩
      · exact .inl neutral
      · rw [List.forall_mem_append] at inhabited inhabitedNext
        refine .inr ⟨List.forall_mem_append.2 ⟨inhabited.1, inhabitedNext.2⟩, ?_⟩
        intro p differ
        exact (changes p differ).elim (granted p) (grantedNext p)

theorem kind?_checkRegions_comm :
    (checkRegions field (changedRegions first second) declarations stance).kind? =
      (checkRegions field (changedRegions second first) declarations stance).kind? := by
  apply kind?_changedRegions_congr tilingFirst tilingSecond tilingSecond tilingFirst declaredOrdered
    declaredOrdered
  · exact fun p => ne_comm
  · rw [List.forall_mem_append, List.forall_mem_append, and_comm]
  · exact fun p => Iff.rfl
  · exact fun p => Iff.rfl

end Details

section Compared

variable {V : Type} {flat : V → Checked (List Detail)} {field : UpdateField}
  {declared : Checked (List Declaration)} {stance : Stance}

theorem coherent_compared (tiling : ∀ v details, flat v = .ok details → Detail.Tiling details)
    (ordered : ∀ declarations, declared = .ok declarations → ∀ d ∈ declarations, d.Ordered) :
    Coherent (compared flat field declared stance) (fun v => ∃ details, flat v = .ok details)
      (∃ declarations, declared = .ok declarations) where
  composes v w chain := by
    induction chain with
    | single accepted => exact accepted
    | tail _ next ih =>
        -- The middle value is flattened in both steps, with the same details.
        obtain ⟨first, second, declarations, hfirst, hsecond, hdeclared, accepted⟩ :=
          compared_eq_ok.1 ih
        obtain ⟨middle, third, others, hmiddle, hthird, hothers, next⟩ := compared_eq_ok.1 next
        obtain rfl := Except.ok.inj (hsecond.symm.trans hmiddle)
        obtain rfl := Except.ok.inj (hdeclared.symm.trans hothers)
        have accepted := checkRegions_trans (ordered _ hdeclared) (tiling _ _ hfirst)
          (tiling _ _ hsecond) (tiling _ _ hthird) accepted next
        exact compared_eq_ok.2 ⟨_, _, _, hfirst, hthird, hdeclared, accepted⟩
  reverses v w hv hw := by
    rcases hv with ⟨first, hfirst⟩
    rcases hw with ⟨second, hsecond⟩
    simp only [compared, hfirst, hsecond]
    cases hdeclared : declared with
    | error fault => rfl
    | ok declarations =>
        exact congrArg Except.ok (kind?_checkRegions_comm (ordered _ hdeclared) (tiling _ _ hfirst)
          (tiling _ _ hsecond))
  answers declares v w hv hw := by
    rcases declares with ⟨declarations, hdeclared⟩
    rcases hv with ⟨first, hfirst⟩
    rcases hw with ⟨second, hsecond⟩
    exact ⟨_, compared_eq_ok.2 ⟨first, second, declarations, hfirst, hsecond, hdeclared, rfl⟩⟩

theorem Coherent.of_compared {update : V → V → Checked Verdict} {WellFormed : V → Prop}
    {permissionsWellFormed : Prop}
    (same : ∀ v w, update v w = compared flat field declared stance v w)
    (tiling : ∀ v details, flat v = .ok details → Detail.Tiling details)
    (ordered : ∀ declarations, declared = .ok declarations → ∀ d ∈ declarations, d.Ordered)
    (flattens : ∀ v, WellFormed v → ∃ details, flat v = .ok details)
    (declares : permissionsWellFormed → ∃ declarations, declared = .ok declarations) :
    Coherent update WellFormed permissionsWellFormed := by
  obtain rfl : update = compared flat field declared stance := funext fun v => funext fun w => same v w
  have coherent := @coherent_compared V flat field declared stance tiling ordered
  constructor
  · exact coherent.composes
  · intro v w hv hw
    exact coherent.reverses v w (flattens v hv) (flattens w hw)
  · intro wellFormed v w hv hw
    exact coherent.answers (declares wellFormed) v w (flattens v hv) (flattens w hw)

end Compared

section Fields

variable {stance : Stance}

theorem approvals_eq_compared (field : UpdateField) (kind : PermissionKind)
    (old new : List CollectionApproval) (permissions : List ApprovalPermission)
    (resolve : Resolver) :
    approvals field kind old new permissions resolve stance =
      compared (fun approvals => (CollectionApproval.expand resolve approvals).map flattenApprovals)
        field (Permission.declare kind resolve permissions) stance old new := by
  simp only [approvals, compared]
  cases CollectionApproval.expand resolve old <;> cases CollectionApproval.expand resolve new <;> rfl

theorem coherent_collectionApprovals (permissions : List ApprovalPermission)
    (resolve : Resolver) :
    Coherent (fun old new => collectionApprovals old new permissions resolve stance)
      (fun approvals => ∃ expanded, CollectionApproval.expand resolve approvals = .ok expanded)
      (∀ q ∈ permissions, q.WellFormed resolve) := by
  refine .of_compared
    (fun old new => approvals_eq_compared _ _ old new permissions resolve) ?_ ?_ ?_ ?_
  · intro approvals details h
    obtain ⟨_, hexpand, rfl⟩ := Checked.map_eq_ok.1 h
    exact CollectionApproval.tiling_flattenApprovals hexpand
  · intro declarations h
    exact Permission.ordered_of_declare h
  · intro approvals h
    rcases h with ⟨expanded, h⟩
    exact ⟨_, Checked.map_eq_ok.2 ⟨expanded, h, rfl⟩⟩
  · exact Permission.exists_declare _

theorem timeline_eq_compared {V : Type} (field : UpdateField) (kind : PermissionKind)
    (old new : Timeline V) (permissions : List TimedPermission) (empty : V)
    (toValue : V → FieldValue) :
    timeline field kind old new permissions empty toValue stance =
      compared (fun v => (Timeline.validate v).map fun _ => flattenTimeline v empty toValue) field
        (Permission.declare kind Resolver.reserved permissions) stance old new := by
  simp only [timeline, compared]
  cases Timeline.validate old <;> cases Timeline.validate new <;> rfl

theorem coherent_timeline {V : Type} (field : UpdateField) (kind : PermissionKind)
    (permissions : List TimedPermission) (empty : V) (toValue : V → FieldValue) :
    Coherent (fun old new => timeline field kind old new permissions empty toValue stance)
      (fun v => Timeline.validate v = .ok ()) (∀ q ∈ permissions, q.WellFormed) := by
  refine .of_compared
    (fun old new => timeline_eq_compared field kind old new permissions empty toValue) ?_ ?_ ?_ ?_
  · intro v details h
    obtain ⟨_, valid, rfl⟩ := Checked.map_eq_ok.1 h
    exact tiling_flattenTimeline valid
  · intro declarations h
    exact Permission.ordered_of_declare h
  · intro v valid
    exact ⟨_, Checked.map_eq_ok.2 ⟨(), valid, rfl⟩⟩
  · exact Permission.exists_declare kind

theorem coherent_badgeMetadata (permissions : List BadgeTimedPermission) :
    Coherent (fun old new => badgeMetadata old new permissions stance)
      (fun v => Timeline.validate v = .ok () ∧ validateEntries v = .ok ())
      (∀ q ∈ permissions, q.WellFormed) := by
  refine .of_compared (fun old new => rfl) ?_ ?_ ?_ ?_
  · intro v details h
    exact tiling_flattenBadgeMetadata h
  · intro declarations h
    exact Permission.ordered_of_declare h
  · intro v valid
    exact ⟨_, flattenBadgeMetadata_eq_ok.2 ⟨valid.1, valid.2, rfl⟩⟩
  · exact Permission.exists_declare .updateBadgeMetadata

end Fields

/-- Intermediate values gain nothing: for the approvals of a collection, for every field with a
timeline and for the metadata of badges, a chain of accepted updates can be taken at once, and an
update has the outcome of its reversal. -/
theorem updates_coherent (stance : Stance) :
    (∀ (permissions : List ApprovalPermission) (resolve : Resolver),
        Coherent (fun old new => collectionApprovals old new permissions resolve stance)
          (fun v => ∃ expanded, CollectionApproval.expand resolve v = .ok expanded)
          (∀ q ∈ permissions, q.WellFormed resolve)) ∧
      (∀ (V : Type) (field : UpdateField) (kind : PermissionKind)
          (permissions : List TimedPermission) (empty : V) (toValue : V → FieldValue),
        Coherent (fun old new => timeline field kind old new permissions empty toValue stance)
          (fun v => Timeline.validate v = .ok ()) (∀ q ∈ permissions, q.WellFormed)) ∧
      ∀ permissions : List BadgeTimedPermission,
        Coherent (fun old new => badgeMetadata old new permissions stance)
          (fun v => Timeline.validate v = .ok () ∧ validateEntries v = .ok ())
          (∀ q ∈ permissions, q.WellFormed) := by
  refine ⟨?_, ?_, ?_⟩
  · intro permissions resolve
    exact coherent_collectionApprovals permissions resolve
  · intro V field kind permissions empty toValue
    exact coherent_timeline field kind permissions empty toValue
  · intro permissions
    exact coherent_badgeMetadata permissions

section Succession

def bobOnly : Timeline String := [⟨[⟨1, 100⟩], "bob"⟩]

def openSuccession : List TimedPermission := [⟨[.full], ⟨[⟨1, 2000⟩], [⟨3000, 4000⟩]⟩⟩]

def Succeeds (old new : Timeline String) : Prop :=
  manager old new openSuccession ⟨1000, .requirePermitted⟩ = .ok .permitted

theorem succession_at_once :
    Relation.TransGen Succeeds aliceOnly bobOnly ∧ Succeeds aliceOnly bobOnly ∧
      Timeline.validate aliceOnly = .ok () ∧ Timeline.validate bobOnly = .ok () ∧
      outcome (manager bobOnly aliceOnly openSuccession ⟨1000, .requirePermitted⟩) = .ok none ∧
      outcome (manager aliceOnly bobOnly openSuccession ⟨3500, .neutral⟩) = .ok (some .forbidden) ∧
      outcome (manager bobOnly aliceOnly openSuccession ⟨3500, .neutral⟩) =
        .ok (some .forbidden) := by
  have coherent := (updates_coherent ⟨1000, .requirePermitted⟩).2.1 String .manager .updateManager
    openSuccession "" .text
  have coherentLater := (updates_coherent ⟨3500, .neutral⟩).2.1 String .manager .updateManager
    openSuccession "" .text
  have half : Succeeds aliceOnly aliceThenBob := rfl
  have rest : Succeeds aliceThenBob bobOnly := rfl
  have chain : Relation.TransGen Succeeds aliceOnly bobOnly := .tail (.single half) rest
  have direct : Succeeds aliceOnly bobOnly := coherent.composes aliceOnly bobOnly chain
  have validAlice : Timeline.validate aliceOnly = .ok () := rfl
  have validBob : Timeline.validate bobOnly = .ok () := rfl
  have denied : outcome (manager aliceOnly bobOnly openSuccession ⟨3500, .neutral⟩) =
      .ok (some .forbidden) := rfl
  refine ⟨chain, direct, validAlice, validBob, ?_, denied, ?_⟩
  · exact (coherent.reverses bobOnly aliceOnly validBob validAlice).trans (congrArg outcome direct)
  · exact (coherentLater.reverses bobOnly aliceOnly validBob validAlice).trans denied

end Succession

end BadgeRights.Update
