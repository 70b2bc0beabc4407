import BadgeRights.Proofs.Composition
import BadgeRights.Proofs.Itemised
import BadgeRights.Proofs.TimelineWindows
import BadgeRights.Update.Permissions

set_option autoImplicit false

namespace BadgeRights

open Checked

section Admissible

structure CollectionApproval.Admissible (approvals : List CollectionApproval)
    (resolve : Resolver) : Prop where
  named : ∀ a ∈ approvals, ¬(a.terms.approvalId = "" ∨ a.terms.approvalId = anyId)
  distinct : (approvals.map fun a => a.terms.approvalId).Nodup
  wellFormed : ∀ a ∈ approvals, a.WellFormed resolve

theorem CollectionApproval.admissible_nil (resolve : Resolver) : Admissible [] resolve :=
  ⟨List.forall_mem_nil _, .nil, List.forall_mem_nil _⟩

theorem CollectionApproval.exists_expand_iff {approvals : List CollectionApproval}
    {resolve : Resolver} :
    (∃ expanded, expand resolve approvals = .ok expanded) ↔ Admissible approvals resolve := by
  rw [expand, exists_expandAfter_iff]
  constructor
  · intro h
    exact ⟨fun a ha => (h.2 a ha).1.1, h.1, fun a ha => (h.2 a ha).2⟩
  · intro h
    exact ⟨h.distinct, fun a ha => ⟨⟨h.named a ha, List.not_mem_nil⟩, h.wellFormed a ha⟩⟩

structure BadgeMetadata.Admissible (timeline : Timeline (List BadgeMetadata)) : Prop where
  windows : timeline.Unambiguous
  badgeIds : ∀ item ∈ timeline, ∀ e ∈ item.value, Spans.Valid e.badgeIds

theorem Timeline.failsAs_validate {V : Type} (timeline : Timeline V) :
    timeline.validate.FailsAs .invalid := by
  unfold validate
  refine (failsAs_forM (fun item => Spans.failsAs_validate item.times) timeline).bind fun _ => ?_
  split
  · exact failsAs_ok ()
  · exact failsAs_refuse _

namespace Update

variable {timeline : Timeline (List BadgeMetadata)}

theorem exists_flattenBadgeMetadata_iff :
    (∃ details, flattenBadgeMetadata timeline = .ok details) ↔
      BadgeMetadata.Admissible timeline := by
  have entries : validateEntries timeline = .ok () ↔
      ∀ item ∈ timeline, ∀ e ∈ item.value, Spans.Valid e.badgeIds := by
    simp only [validateEntries, forM_eq_ok, Spans.validate_eq_ok]
  simp only [flattenBadgeMetadata_eq_ok, entries, Timeline.validate_eq_ok, exists_and_left,
    exists_eq', and_true]
  exact ⟨fun h => ⟨h.1, h.2⟩, fun h => ⟨h.windows, h.badgeIds⟩⟩

theorem failsAs_flattenBadgeMetadata (timeline : Timeline (List BadgeMetadata)) :
    (flattenBadgeMetadata timeline).FailsAs .invalid := by
  refine (Timeline.failsAs_validate timeline).bind fun _ => ?_
  refine FailsAs.bind ?_ fun _ => failsAs_ok _
  unfold validateEntries
  refine failsAs_forM (fun item => ?_) timeline
  exact failsAs_forM (fun e => Spans.failsAs_validate e.badgeIds) item.value

end Update

end Admissible

namespace Update

/-- An answer to an update of which the old value, the new value and the permissions may or may not
be well formed: the first of the three that is not is the one to blame. -/
structure Blames (answer : Checked Verdict) (old new permissions : Prop) : Prop where
  blamesOld : answer.faultClass? = some .invalidOldValue ↔ ¬old
  blamesNew : answer.faultClass? = some .invalidNewValue ↔ old ∧ ¬new
  blamesPermissions : (∃ f, answer = .error f ∧ f.IsInput) ↔ old ∧ new ∧ ¬permissions
  answers : (∃ verdict, answer = .ok verdict) ↔ old ∧ new ∧ permissions

section Stages

variable {α β : Type} {x : Checked α} {y : Checked β} {rest : α → β → Checked Verdict}
  {permissions : Prop}

theorem blames_of_stages (hx : x.InputFaults) (hy : y.InputFaults)
    (faults : ∀ a b, (rest a b).InputFaults)
    (answers : ∀ a b, (∃ verdict, rest a b = .ok verdict) ↔ permissions) :
    Blames (do
        let a ← x.mapError Fault.inOld
        let b ← y.mapError Fault.inNew
        rest a b)
      (∃ a, x = .ok a) (∃ b, y = .ok b) permissions := by
  cases x with
  | error f =>
      have cls := Fault.cls_inOld (hx f rfl)
      change Blames (.error f.inOld) _ _ _
      constructor <;> simp [faultClass?, cls, Fault.IsInput]
  | ok a =>
      cases y with
      | error f =>
          have cls := Fault.cls_inNew (hy f rfl)
          change Blames (.error f.inNew) _ _ _
          constructor <;> simp [faultClass?, cls, Fault.IsInput]
      | ok b =>
          change Blames (rest a b) _ _ _
          cases answered : rest a b with
          | error f =>
              have refused : ¬permissions := by
                intro granted
                obtain ⟨verdict, h⟩ := (answers a b).2 granted
                cases answered.symm.trans h
              rcases faults a b f answered with cls | cls <;>
                constructor <;> simp [faultClass?, cls, refused, Fault.IsInput]
          | ok verdict =>
              have granted : permissions := (answers a b).1 ⟨verdict, answered⟩
              constructor <;> simp [faultClass?, granted]

end Stages

section Compared

variable {V : Type} {flat : V → Checked (List Detail)} {field : UpdateField}
  {declared : Checked (List Declaration)} {stance : Stance}

theorem blames_compared {WellFormed : V → Prop} {permissions : Prop}
    (faults : ∀ v, (flat v).InputFaults) (undeclared : declared.InputFaults)
    (flattens : ∀ v, (∃ details, flat v = .ok details) ↔ WellFormed v)
    (declares : (∃ declarations, declared = .ok declarations) ↔ permissions) (old new : V) :
    Blames (compared flat field declared stance old new) (WellFormed old) (WellFormed new)
      permissions := by
  rw [← flattens old, ← flattens new, ← declares]
  refine blames_of_stages (faults old) (faults new) (fun before after => ?_) fun before after => ?_
  · exact undeclared.bind fun _ => inputFaults_ok _
  · rw [← faultClass?_eq_none, faultClass?_bind_pure, faultClass?_eq_none]

end Compared

variable {resolve : Resolver}

/-- Every part of an update is checked before there is a verdict, and the first that is not well formed
is blamed: the old value, then the new one, and then the permissions, whose faults have no label. -/
theorem validators_blame (standard : resolve.IsStandard) (stance : Stance) :
    (∀ (old new : List CollectionApproval) (permissions : List ApprovalPermission),
        Blames (collectionApprovals old new permissions resolve stance)
          (CollectionApproval.Admissible old resolve) (CollectionApproval.Admissible new resolve)
          (∀ q ∈ permissions, q.WellFormed resolve)) ∧
      (∀ (V : Type) (field : UpdateField) (kind : PermissionKind) (old new : Timeline V)
          (permissions : List TimedPermission) (empty : V) (toValue : V → FieldValue),
        Blames (timeline field kind old new permissions empty toValue stance)
          old.Unambiguous new.Unambiguous (∀ q ∈ permissions, q.WellFormed)) ∧
      (∀ (old new : Timeline (List BadgeMetadata)) (permissions : List BadgeTimedPermission),
        Blames (badgeMetadata old new permissions stance)
          (BadgeMetadata.Admissible old) (BadgeMetadata.Admissible new)
          (∀ q ∈ permissions, q.WellFormed)) ∧
      ∀ (P : Type) [Permission P] [ItemisedPermission P] (kind : PermissionKind) (old new : List P),
        Blames (permission kind old new resolve)
          (∀ q ∈ old, LawfulPermission.WellFormed q resolve)
          (∀ q ∈ new, LawfulPermission.WellFormed q resolve) True := by
  refine ⟨?_, ?_, ?_, ?_⟩
  · intro old new permissions
    have faults (approvals : List CollectionApproval) :=
      CollectionApproval.inputFaults_expandAfter standard.inputFaults [] approvals
    rw [collectionApprovals, approvals_eq_compared]
    exact blames_compared (fun v => (faults v).map flattenApprovals) (inputFaults_declare standard)
      (fun _ => exists_map_eq_ok.trans CollectionApproval.exists_expand_iff) exists_declare_iff
      old new
  · intro V field kind old new permissions empty toValue
    rw [timeline_eq_compared]
    exact blames_compared (fun v => (Timeline.failsAs_validate v).inputFaults.map _)
      (inputFaults_declare .reserved)
      (fun _ => exists_map_eq_ok.trans (Unique.exists_iff.trans Timeline.validate_eq_ok))
      exists_declare_iff old new
  · intro old new permissions
    exact blames_compared (fun v => (failsAs_flattenBadgeMetadata v).inputFaults)
      (inputFaults_declare .reserved) (fun _ => exists_flattenBadgeMetadata_iff) exists_declare_iff
      old new
  · intro P _ _ kind old new
    have flattens (permissions : List P) :
        (∃ details, flattenPermissions kind resolve permissions = .ok details) ↔
          ∀ q ∈ permissions, LawfulPermission.WellFormed q resolve := by
      rw [← faultClass?_eq_none, flattenPermissions, faultClass?_bind_pure, faultClass?_eq_none,
        exists_declare_iff]
    have faults (permissions : List P) :
        (flattenPermissions kind resolve permissions).InputFaults :=
      (inputFaults_declare standard).bind fun _ => inputFaults_ok _
    rw [← flattens old, ← flattens new]
    -- Both sides flattened, there is a verdict whatever has been lost.
    refine blames_of_stages (faults old) (faults new) (fun before after => ?_) fun before after => ?_
    · split <;> exact inputFaults_ok _
    · split <;> exact ⟨fun _ => trivial, fun _ => ⟨_, rfl⟩⟩

def airdrop : CollectionApproval where
  fromListId := "Mint"
  toListId := "All"
  terms := ⟨"All", [.full], [⟨1, 10⟩], [.full], "airdrop", "", ""⟩
  body := default

theorem repeated_id_blamed :
    Resolver.reserved.IsStandard ∧
      (collectionApprovals [] [airdrop, airdrop] [] Resolver.reserved ⟨1000, .neutral⟩).faultClass? =
        some .invalidNewValue ∧
      (collectionApprovals [airdrop, airdrop] [] [] Resolver.reserved ⟨1000, .neutral⟩).faultClass? =
        some .invalidOldValue ∧
      (manager [] Timeline.nested [] ⟨1000, .neutral⟩).faultClass? = some .invalidNewValue ∧
      (permission .deleteCollection [⟨⟨[⟨1, 10⟩], [⟨10, 20⟩]⟩⟩] ([] : List ActionPermission)
        Resolver.reserved).faultClass? = some .invalidOldValue := by
  obtain ⟨approvals, timelines, _, permissions⟩ :=
    validators_blame Resolver.IsStandard.reserved ⟨1000, .neutral⟩
  have none := CollectionApproval.admissible_nil Resolver.reserved
  have twice : ¬CollectionApproval.Admissible [airdrop, airdrop] Resolver.reserved :=
    fun h => absurd h.distinct (by simp [airdrop])
  have unset : Timeline.Unambiguous ([] : Timeline String) :=
    ⟨List.forall_mem_nil _, List.forall_mem_nil _, .nil⟩
  have refused : Timeline.nested.validate ≠ .ok () := nofun
  have ambiguous : ¬Timeline.nested.Unambiguous := mt Timeline.validate_eq_ok.2 refused
  have both : ¬∀ q ∈ [ActionPermission.mk ⟨[⟨1, 10⟩], [⟨10, 20⟩]⟩],
      LawfulPermission.WellFormed q Resolver.reserved := by
    rw [List.forall_mem_singleton]
    exact fun h => h.apart 10 (by decide) (by decide)
  exact ⟨.reserved, (approvals [] [airdrop, airdrop] []).blamesNew.2 ⟨none, twice⟩,
    (approvals [airdrop, airdrop] [] []).blamesOld.2 twice,
    (timelines String .manager .updateManager [] Timeline.nested [] "" .text).blamesNew.2 ⟨unset, ambiguous⟩,
    (permissions _ _ _ _).blamesOld.2 both⟩

end Update

end BadgeRights
