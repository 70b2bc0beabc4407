import BadgeRights.Proofs.Blame

set_option autoImplicit false

namespace BadgeRights.Update

open Checked Permission

/-- An answer without a verdict, whose fault is that of a list that is not there or that of malformed
input. -/
structure Refused (answer : Checked Verdict) (missing : Prop) : Prop where
  notFound : missing → answer.faultClass? = some .notFound
  invalid : ¬missing → answer.faultClass? = some .invalid

section Refused

variable {answer : Checked Verdict} {missing : Prop} {α : Type} {declared : Checked α}

theorem refused_of_declared (same : answer.faultClass? = declared.faultClass?)
    (faults : declared.InputFaults) (undeclared : ¬∃ a, declared = .ok a)
    (missed : declared.faultClass? = some .notFound ↔ missing) : Refused answer missing := by
  refine ⟨fun h => same.trans (missed.2 h), fun h => same.trans ?_⟩
  cases declared with
  | ok a => exact absurd ⟨a, rfl⟩ undeclared
  | error f =>
      rcases faults f rfl with cls | cls
      · exact congrArg some cls
      · exact absurd (missed.1 (congrArg some cls)) h

end Refused

section Compared

variable {V : Type} {flat : V → Checked (List Detail)} {field : UpdateField}
  {declared : Checked (List Declaration)} {stance : Stance} {old new : V}

theorem faultClass?_compared (before : ∃ details, flat old = .ok details)
    (after : ∃ details, flat new = .ok details) :
    (compared flat field declared stance old new).faultClass? = declared.faultClass? := by
  rcases before with ⟨before, hbefore⟩
  rcases after with ⟨after, hafter⟩
  simp only [compared, hbefore, hafter]
  exact faultClass?_bind_pure declared _

end Compared

section Items

variable {P : Type} [Permission P] [ItemisedPermission P] {resolve : Resolver} {permissions : List P}

theorem not_missesListFirst (unnamed : ∀ q : P, ItemisedPermission.lookups q = []) :
    ¬MissesListFirst permissions resolve := by
  rintro ⟨_, q, _, _, _, misses⟩
  obtain ⟨id, hid, _⟩ := misses.unknown
  rw [unnamed q] at hid
  exact absurd hid List.not_mem_nil

theorem refused_compared {V : Type} {flat : V → Checked (List Detail)} {field : UpdateField}
    {kind : PermissionKind} {stance : Stance} {old new : V} (standard : resolve.IsStandard)
    (before : ∃ details, flat old = .ok details) (after : ∃ details, flat new = .ok details)
    (malformed : ∃ q ∈ permissions, ¬LawfulPermission.WellFormed q resolve) :
    Refused (compared flat field (declare kind resolve permissions) stance old new)
      (MissesListFirst permissions resolve) := by
  refine refused_of_declared (faultClass?_compared before after) (inputFaults_declare standard) ?_
    (declare_notFound_iff standard)
  rw [exists_declare_iff]
  simpa using malformed

end Items

theorem refused_approvals {resolve : Resolver} {field : UpdateField} {kind : PermissionKind}
    {old new : List CollectionApproval} {permissions : List ApprovalPermission} {stance : Stance}
    (standard : resolve.IsStandard) (before : CollectionApproval.Admissible old resolve)
    (after : CollectionApproval.Admissible new resolve)
    (malformed : ∃ q ∈ permissions, ¬q.WellFormed resolve) :
    Refused (approvals field kind old new permissions resolve stance)
      (MissesListFirst permissions resolve) := by
  rw [approvals_eq_compared]
  exact refused_compared standard
    (exists_map_eq_ok.2 (CollectionApproval.exists_expand_iff.2 before))
    (exists_map_eq_ok.2 (CollectionApproval.exists_expand_iff.2 after)) malformed

theorem refused_checkAction {field : UpdateField} {permissions : List ActionPermission}
    {stance : Stance} (malformed : ∃ q ∈ permissions, ¬q.windows.Valid) :
    (checkAction field permissions stance).faultClass? = some .invalid := by
  have undeclared : ¬∃ declarations,
      toDeclarations Resolver.reserved permissions = .ok declarations := by
    rw [exists_toDeclarations_iff]
    obtain ⟨q, hq, malformed⟩ := malformed
    exact fun declarable => malformed (declarable q hq).windows
  have refused : Refused (checkAction field permissions stance)
      (MissesListFirst permissions Resolver.reserved) :=
    refused_of_declared (faultClass?_bind_pure _ _) (inputFaults_toDeclarations .reserved) undeclared
      (toDeclarations_notFound_iff .reserved)
  exact refused.invalid (not_missesListFirst fun _ => rfl)

/-- Where old and new value are well formed and some permission is not, there is no verdict. For
approvals the fault is that of a list that is not there if the first permission that cannot be
declared is in order apart from lists and windows, and that of malformed input otherwise; for the
fields whose permissions name no lists it is always the latter. An action is refused as malformed for
windows that are not valid. -/
theorem malformed_permissions_refused {resolve : Resolver} (standard : resolve.IsStandard)
    (stance : Stance) :
    (∀ (old new : List CollectionApproval) (permissions : List ApprovalPermission),
        CollectionApproval.Admissible old resolve → CollectionApproval.Admissible new resolve →
          (∃ q ∈ permissions, ¬q.WellFormed resolve) →
            Refused (collectionApprovals old new permissions resolve stance)
              (MissesListFirst permissions resolve)) ∧
      (∀ (direction : Direction) (user : String) (old new : List (UserApproval direction))
          (permissions : List (UserApprovalPermission direction)),
        CollectionApproval.Admissible (old.map (UserApproval.pin user)) resolve →
          CollectionApproval.Admissible (new.map (UserApproval.pin user)) resolve →
            (∃ q ∈ permissions, ¬(q.pin user).WellFormed resolve) →
              Refused (userApprovals user old new permissions resolve stance)
                (MissesListFirst (permissions.map (UserApprovalPermission.pin user)) resolve)) ∧
      (∀ (V : Type) (field : UpdateField) (kind : PermissionKind) (old new : Timeline V)
          (permissions : List TimedPermission) (empty : V) (toValue : V → FieldValue),
        old.Unambiguous → new.Unambiguous → (∃ q ∈ permissions, ¬q.WellFormed) →
          (timeline field kind old new permissions empty toValue stance).faultClass? =
            some .invalid) ∧
      (∀ (old new : Timeline (List BadgeMetadata)) (permissions : List BadgeTimedPermission),
        BadgeMetadata.Admissible old → BadgeMetadata.Admissible new →
          (∃ q ∈ permissions, ¬q.WellFormed) →
            (badgeMetadata old new permissions stance).faultClass? = some .invalid) ∧
      ∀ (field : UpdateField) (permissions : List ActionPermission),
        (∃ q ∈ permissions, ¬q.windows.Valid) →
          (checkAction field permissions stance).faultClass? = some .invalid := by
  refine ⟨?_, ?_, ?_, ?_, ?_⟩
  · intro old new permissions before after malformed
    exact refused_approvals standard before after malformed
  · intro direction user old new permissions before after malformed
    obtain ⟨q, hq, malformed⟩ := malformed
    exact refused_approvals standard before after ⟨q.pin user, List.mem_map_of_mem hq, malformed⟩
  · intro V field kind old new permissions empty toValue before after malformed
    have flattens (v : Timeline V) (h : v.Unambiguous) : ∃ details,
        (v.validate.map fun _ => flattenTimeline v empty toValue) = .ok details :=
      exists_map_eq_ok.2 ⟨(), Timeline.validate_eq_ok.2 h⟩
    rw [timeline_eq_compared]
    refine Refused.invalid (refused_compared .reserved ?_ ?_ malformed)
      (not_missesListFirst fun _ => rfl)
    · exact flattens old before
    · exact flattens new after
  · intro old new permissions before after malformed
    refine Refused.invalid (refused_compared .reserved ?_ ?_ malformed)
      (not_missesListFirst fun _ => rfl)
    · exact exists_flattenBadgeMetadata_iff.2 before
    · exact exists_flattenBadgeMetadata_iff.2 after
  · exact fun field permissions => refused_checkAction

def friendsPermission : ApprovalPermission where
  fromListId := "friends"
  toListId := "AllWithMint"
  terms := ⟨"AllWithMint", [⟨1, 10⟩], [⟨1, 10⟩], [⟨1, 10⟩], "All", "", ""⟩
  windows := ⟨[.full], []⟩

def tornAction : ActionPermission := ⟨⟨[⟨1, 10⟩], [⟨10, 20⟩]⟩⟩

theorem friends_unknown : ¬Resolver.reserved.Knows "friends" := by
  have refused : Resolver.reserved "friends" = refuse (.unknownList "friends") := by decide +kernel
  rintro ⟨l, h⟩
  cases refused.symm.trans h

theorem friends_and_reversal_refused :
    Resolver.reserved.IsStandard ∧
      (collectionApprovals [] [] [friendsPermission] Resolver.reserved
        ⟨1000, .neutral⟩).faultClass? = some .notFound ∧
      (manager [] [] [⟨[⟨10, 1⟩], .none⟩] ⟨1000, .neutral⟩).faultClass? = some .invalid ∧
      (checkAction .deleteCollection [⟨⟨[⟨0, 1⟩], []⟩⟩] ⟨1000, .neutral⟩).faultClass? =
        some .invalid := by
  obtain ⟨approvals, _, timelines, _, actions⟩ :=
    malformed_permissions_refused Resolver.IsStandard.reserved ⟨1000, .neutral⟩
  have none := CollectionApproval.admissible_nil Resolver.reserved
  have unset : Timeline.Unambiguous ([] : Timeline String) :=
    ⟨List.forall_mem_nil _, List.forall_mem_nil _, .nil⟩
  have malformed : ¬friendsPermission.WellFormed Resolver.reserved :=
    fun h => friends_unknown h.fromList
  have missing : MissesListFirst [friendsPermission] Resolver.reserved :=
    ⟨[], friendsPermission, [], rfl, List.forall_mem_nil _, by decide, "friends", by decide,
      friends_unknown⟩
  have refused := approvals [] [] [friendsPermission] none none
    ⟨_, List.mem_singleton_self _, malformed⟩
  refine ⟨.reserved, refused.notFound missing, ?_, ?_⟩
  · exact timelines String .manager .updateManager [] [] _ "" .text unset unset
      ⟨_, List.mem_singleton_self _, by decide⟩
  · exact actions .deleteCollection _
      ⟨_, List.mem_singleton_self _, fun valid => absurd valid.1 (by decide)⟩

theorem friends_not_invalid :
    CollectionApproval.Admissible [] Resolver.reserved ∧
      ¬friendsPermission.WellFormed Resolver.reserved ∧
      (collectionApprovals [] [] [friendsPermission] Resolver.reserved
        ⟨5, .requirePermitted⟩).faultClass? = some .notFound ∧
      ¬tornAction.windows.Consistent ∧
      checkAction .deleteCollection [tornAction] ⟨5, .requirePermitted⟩ = .ok .permitted := by
  refine ⟨CollectionApproval.admissible_nil _, fun h => friends_unknown h.fromList, ?_, ?_, ?_⟩
  · decide +kernel
  · decide
  · decide +kernel

end BadgeRights.Update
