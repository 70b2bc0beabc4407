import Mathlib.Data.List.Nodup
import BadgeRights.Proofs.Declared
import BadgeRights.Proofs.Inhabited
import BadgeRights.Update.Approvals

set_option autoImplicit false

namespace BadgeRights

namespace CollectionApproval

def Covers (a : CollectionApproval) (resolve : Resolver) (p : Point) : Prop :=
  a.terms.Cover resolve a.fromListId a.toListId p

instance (a : CollectionApproval) (resolve : Resolver) (p : Point) :
    Decidable (a.Covers resolve p) :=
  inferInstanceAs (Decidable (a.terms.Cover _ _ _ _))

def value (a : CollectionApproval) : ApprovalValue :=
  ⟨a.terms.approvalId, a.body.uri, a.body.customData, a.body.approvalCriteria.getD default⟩

def listIds (a : CollectionApproval) : List String :=
  [a.fromListId, a.toListId, a.terms.initiatedByListId]

/-- There are badges and times, but one of the lists is empty. -/
def IsVoid (a : CollectionApproval) (resolve : Resolver) : Prop :=
  (a.terms.badgeIds ≠ [] ∧ a.terms.transferTimes ≠ [] ∧ a.terms.ownershipTimes ≠ []) ∧
    ∃ id ∈ a.listIds, resolve.Empty id

instance (a : CollectionApproval) (resolve : Resolver) : Decidable (a.IsVoid resolve) :=
  inferInstanceAs (Decidable ((_ ∧ _ ∧ _) ∧ ∃ id ∈ a.listIds, resolve.Empty id))

def valueAt? (resolve : Resolver) (approvals : List CollectionApproval) (p : Point) :
    Option ApprovalValue :=
  (approvals.find? fun a => a.Covers resolve p).map value

theorem mergedSpans_eq_ok {spans merged : List Span} :
    mergedSpans spans = .ok merged ↔ Spans.Valid spans ∧ Spans.merge spans = merged :=
  Spans.validate_then_eq_ok

theorem checkId_eq_ok {seen : List String} {id : String} :
    checkId seen id = .ok () ↔ ¬(id = "" ∨ id = anyId) ∧ ¬id ∈ seen := by
  unfold checkId
  split
  · rename_i refused
    exact ⟨fun h => absurd h Checked.refuse_ne_ok, fun h => absurd refused h.1⟩
  · rename_i named
    split
    · rename_i repeated
      exact ⟨fun h => absurd h Checked.refuse_ne_ok, fun h => absurd repeated h.2⟩
    · rename_i fresh
      exact ⟨fun _ => ⟨named, fresh⟩, fun _ => rfl⟩

theorem expandOne_eq_ok {resolve : Resolver} {a : CollectionApproval} {e : ExpandedApproval} :
    expandOne resolve a = .ok e ↔
      ∃ fromList toList byList, resolve a.fromListId = .ok fromList ∧
        resolve a.toListId = .ok toList ∧ resolve a.terms.initiatedByListId = .ok byList ∧
        Spans.Valid a.terms.transferTimes ∧ Spans.Valid a.terms.badgeIds ∧
        Spans.Valid a.terms.ownershipTimes ∧
        ⟨fromList, toList, byList, Spans.merge a.terms.transferTimes,
          Spans.merge a.terms.badgeIds, Spans.merge a.terms.ownershipTimes,
          a.terms.amountTrackerId, a.terms.challengeTrackerId, a.value⟩ = e := by
  constructor
  · intro h
    obtain ⟨fromList, hfrom, h⟩ := Checked.bind_eq_ok.1 h
    obtain ⟨toList, hto, h⟩ := Checked.bind_eq_ok.1 h
    obtain ⟨byList, hby, h⟩ := Checked.bind_eq_ok.1 h
    obtain ⟨_, htransfer, h⟩ := Checked.bind_eq_ok.1 h
    obtain ⟨_, hbadge, h⟩ := Checked.bind_eq_ok.1 h
    obtain ⟨_, hownership, h⟩ := Checked.bind_eq_ok.1 h
    obtain ⟨transfer, rfl⟩ := mergedSpans_eq_ok.1 htransfer
    obtain ⟨badge, rfl⟩ := mergedSpans_eq_ok.1 hbadge
    obtain ⟨ownership, rfl⟩ := mergedSpans_eq_ok.1 hownership
    exact ⟨fromList, toList, byList, hfrom, hto, hby, transfer, badge, ownership,
      Checked.pure_eq_ok.1 h⟩
  · intro h
    rcases h with ⟨fromList, toList, byList, hfrom, hto, hby, transfer, badge, ownership, rfl⟩
    have merged {spans : List Span} (valid : Spans.Valid spans) :
        mergedSpans spans = .ok (Spans.merge spans) := mergedSpans_eq_ok.2 ⟨valid, rfl⟩
    simp only [expandOne, hfrom, hto, hby, merged transfer, merged badge, merged ownership]
    rfl

structure WellFormed (a : CollectionApproval) (resolve : Resolver) : Prop where
  lists : ∀ id ∈ a.listIds, ∃ l, resolve id = .ok l
  transferTimes : Spans.Valid a.terms.transferTimes
  badgeIds : Spans.Valid a.terms.badgeIds
  ownershipTimes : Spans.Valid a.terms.ownershipTimes

theorem exists_expandOne_iff {resolve : Resolver} {a : CollectionApproval} :
    (∃ e, expandOne resolve a = .ok e) ↔ a.WellFormed resolve := by
  simp only [expandOne_eq_ok]
  constructor
  · intro h
    rcases h with ⟨_, _, _, _, hfrom, hto, hby, transfer, badge, ownership, _⟩
    refine ⟨?_, transfer, badge, ownership⟩
    simp only [listIds, List.forall_mem_cons]
    exact ⟨⟨_, hfrom⟩, ⟨_, hto⟩, ⟨_, hby⟩, nofun⟩
  · intro wellFormed
    have lists := wellFormed.lists
    simp only [listIds, List.forall_mem_cons] at lists
    obtain ⟨⟨fromList, hfrom⟩, ⟨toList, hto⟩, ⟨byList, hby⟩, _⟩ := lists
    exact ⟨_, fromList, toList, byList, hfrom, hto, hby, wellFormed.transferTimes,
      wellFormed.badgeIds, wellFormed.ownershipTimes, rfl⟩

theorem expandOne_declared {resolve : Resolver} {a : CollectionApproval} {e : ExpandedApproval}
    (h : expandOne resolve a = .ok e)
    (named : ¬(a.terms.approvalId = "" ∨ a.terms.approvalId = anyId)) :
    e.toDeclaration.Ordered ∧ (∀ p : Point, p ∈ e.toDeclaration ↔ a.Covers resolve p) ∧
      e.toDeclaration.payload = .approval a.value := by
  obtain ⟨_, _, _, hfrom, hto, hby, transfer, badge, ownership, rfl⟩ := expandOne_eq_ok.1 h
  -- The id of the approval is neither empty nor the one for every id, so that it covers itself only.
  have own (text : String) :
      text ∈ AddressList.only [a.terms.approvalId] ↔ IdCovers a.terms.approvalId text := by
    rw [← AddressList.mem_ofId, AddressList.ofId, if_neg named]
  refine ⟨⟨Spans.merge_ordered _ badge.ordered, Spans.full_ordered,
    Spans.merge_ordered _ transfer.ordered, Spans.merge_ordered _ ownership.ordered⟩, ?_, rfl⟩
  intro p
  simp only [Declaration.mem_iff, ExpandedApproval.toDeclaration, ExpandedApproval.declaration,
    Declaration.everywhere, Spans.mem_full, Spans.mem_merge, AddressList.mem_ofId, value, own, Covers,
    TransferTerms.Cover, Resolver.holds_iff hto, Resolver.holds_iff hfrom, Resolver.holds_iff hby]

theorem listsInhabited_iff {resolve : Resolver} {a : CollectionApproval} {e : ExpandedApproval}
    (h : expandOne resolve a = .ok e) :
    e.toDeclaration.ListsInhabited ↔ ∀ id ∈ a.listIds, ¬resolve.Empty id := by
  obtain ⟨_, _, _, hfrom, hto, hby, _, _, _, rfl⟩ := expandOne_eq_ok.1 h
  exact Declaration.listsInhabited_iff_parties hfrom hto hby ⟨_, List.mem_singleton_self _⟩
    (AddressList.exists_mem_ofId _) (AddressList.exists_mem_ofId _)

theorem regions_inhabited_iff {resolve : Resolver} {a : CollectionApproval} {e : ExpandedApproval}
    (h : expandOne resolve a = .ok e)
    (named : ¬(a.terms.approvalId = "" ∨ a.terms.approvalId = anyId)) :
    (∀ r ∈ e.toDeclaration.regions, ∃ p : Point, p ∈ r) ↔ ¬a.IsVoid resolve := by
  rw [Declaration.regions_inhabited_iff (expandOne_declared h named).1, listsInhabited_iff h,
    Declaration.regions_ne_nil_iff]
  obtain ⟨_, _, _, _, _, _, transfer, badge, ownership, rfl⟩ := expandOne_eq_ok.1 h
  simp only [ExpandedApproval.toDeclaration, ExpandedApproval.declaration, Declaration.everywhere,
    ne_eq, Spans.merge_eq_nil_iff badge.ordered, Spans.merge_eq_nil_iff transfer.ordered,
    Spans.merge_eq_nil_iff ownership.ordered, IsVoid]
  simp

theorem expandAfter_forall₂ {resolve : Resolver} {seen : List String}
    {approvals : List CollectionApproval} {expanded : List ExpandedApproval}
    (h : expandAfter resolve seen approvals = .ok expanded) :
    List.Forall₂ (fun a e => expandOne resolve a = .ok e ∧
      ¬(a.terms.approvalId = "" ∨ a.terms.approvalId = anyId)) approvals expanded := by
  induction approvals generalizing seen expanded with
  | nil =>
      cases h
      exact .nil
  | cons a rest ih =>
      obtain ⟨_, checked, h⟩ := Checked.bind_eq_ok.1 h
      obtain ⟨first, hfirst, h⟩ := Checked.bind_eq_ok.1 h
      obtain ⟨others, hothers, h⟩ := Checked.bind_eq_ok.1 h
      obtain rfl := Checked.pure_eq_ok.1 h
      exact .cons ⟨hfirst, (checkId_eq_ok.1 checked).1⟩ (ih hothers)

variable {resolve : Resolver} {approvals : List CollectionApproval}
  {expanded : List ExpandedApproval}

theorem ordered_of_expand (h : expand resolve approvals = .ok expanded) :
    ∀ d ∈ expanded.map ExpandedApproval.toDeclaration, d.Ordered := by
  intro d hd
  obtain ⟨e, he, rfl⟩ := List.mem_map.1 hd
  obtain ⟨a, _, hexpand, named⟩ := exists_left_of_forall₂ (expandAfter_forall₂ h) he
  exact (expandOne_declared hexpand named).1

theorem tiling_flattenApprovals (h : expand resolve approvals = .ok expanded) :
    Detail.Tiling (Update.flattenApprovals expanded) :=
  tiling_flatten _ (ordered_of_expand h)

theorem exists_expandAfter_iff {seen : List String} :
    (∃ expanded, expandAfter resolve seen approvals = .ok expanded) ↔
      (approvals.map fun a => a.terms.approvalId).Nodup ∧
        ∀ a ∈ approvals, (¬(a.terms.approvalId = "" ∨ a.terms.approvalId = anyId) ∧
          a.terms.approvalId ∉ seen) ∧ a.WellFormed resolve := by
  induction approvals generalizing seen with
  | nil => simp [expandAfter]
  | cons a rest ih =>
      have step : (∃ expanded, expandAfter resolve seen (a :: rest) = .ok expanded) ↔
          checkId seen a.terms.approvalId = .ok () ∧ (∃ e, expandOne resolve a = .ok e) ∧
            ∃ others, expandAfter resolve (a.terms.approvalId :: seen) rest = .ok others := by
        simp only [expandAfter, Checked.bind_eq_ok, Checked.pure_eq_ok]
        constructor
        · intro h
          rcases h with ⟨_, _, checked, e, hone, others, hothers, _⟩
          exact ⟨checked, ⟨e, hone⟩, others, hothers⟩
        · intro h
          rcases h with ⟨checked, ⟨e, hone⟩, others, hothers⟩
          exact ⟨_, (), checked, e, hone, others, hothers, rfl⟩
      rw [step, checkId_eq_ok, exists_expandOne_iff, ih, List.forall_mem_cons]
      simp only [List.map_cons, List.nodup_cons, List.mem_map, List.mem_cons, not_or, not_exists,
        not_and]
      constructor
      · intro h
        rcases h with ⟨named, wellFormed, distinct, others⟩
        refine ⟨⟨fun b hb => (others b hb).1.2.1, distinct⟩, ⟨named, wellFormed⟩, ?_⟩
        intro b hb
        exact ⟨⟨(others b hb).1.1, (others b hb).1.2.2⟩, (others b hb).2⟩
      · intro h
        rcases h with ⟨⟨fresh, distinct⟩, ⟨named, wellFormed⟩, others⟩
        refine ⟨named, wellFormed, distinct, fun b hb => ?_⟩
        exact ⟨⟨(others b hb).1.1, fresh b hb, (others b hb).1.2⟩, (others b hb).2⟩

theorem approvalId_of_covers {a : CollectionApproval} {p : Point}
    (named : ¬(a.terms.approvalId = "" ∨ a.terms.approvalId = anyId))
    (covers : a.Covers resolve p) : p.approvalId = a.terms.approvalId := by
  rcases covers with ⟨_, _, _, _, _, _, _, approval, _⟩
  rcases approval with unset | any | same
  · exact absurd (.inl unset) named
  · exact absurd (.inr any) named
  · exact same

theorem valueAt?_of_covers (h : expand resolve approvals = .ok expanded) {a : CollectionApproval}
    (ha : a ∈ approvals) {p : Point} (covers : a.Covers resolve p) :
    valueAt? resolve approvals p = some a.value := by
  obtain ⟨distinct, wellFormed⟩ := exists_expandAfter_iff.1 ⟨expanded, h⟩
  have named (b : CollectionApproval) (hb : b ∈ approvals) := (wellFormed b hb).1.1
  cases found : approvals.find? fun a => a.Covers resolve p with
  | none => exact absurd covers (by simpa using List.find?_eq_none.1 found a ha)
  | some b =>
      -- Both approvals have the id of the point, and no two approvals share an id.
      have hb := List.mem_of_find?_eq_some found
      have coversToo : b.Covers resolve p := by simpa using List.find?_some found
      have sameId : b.terms.approvalId = a.terms.approvalId :=
        (approvalId_of_covers (named b hb) coversToo).symm.trans
          (approvalId_of_covers (named a ha) covers)
      rw [valueAt?, found, List.inj_on_of_nodup_map distinct hb ha sameId, Option.map_some]

theorem valueAt?_eq_some_iff (h : expand resolve approvals = .ok expanded) {p : Point}
    {v : ApprovalValue} :
    valueAt? resolve approvals p = some v ↔ ∃ a ∈ approvals, a.Covers resolve p ∧ a.value = v := by
  constructor
  · intro value
    obtain ⟨a, found, same⟩ := Option.map_eq_some_iff.1 value
    exact ⟨a, List.mem_of_find?_eq_some found, by simpa using List.find?_some found, same⟩
  · intro covered
    rcases covered with ⟨a, ha, covers, rfl⟩
    exact valueAt?_of_covers h ha covers

theorem inhabited_flattenApprovals_iff (h : expand resolve approvals = .ok expanded) :
    (∀ d ∈ Update.flattenApprovals expanded, ∃ p : Point, p ∈ d) ↔
      ∀ a ∈ approvals, ¬a.IsVoid resolve := by
  rw [Update.flattenApprovals, flatten_inhabited_iff (ordered_of_expand h), List.forall_mem_map]
  have related := expandAfter_forall₂ h
  -- The rest of the list is expanded with other ids in use, so `h` does not go down.
  clear h
  induction related with
  | nil => simp
  | cons first _ ih =>
      rw [List.forall_mem_cons, List.forall_mem_cons]
      exact and_congr (regions_inhabited_iff first.1 first.2) ih

theorem payloadAt?_of_expand (h : expand resolve approvals = .ok expanded) (p : Point) :
    Detail.payloadAt? (Update.flattenApprovals expanded) p =
      (valueAt? resolve approvals p).map Payload.approval := by
  unfold Update.flattenApprovals
  rw [payloadAt?_flatten]
  · rw [List.find?_map, Option.map_map, valueAt?, Option.map_map]
    refine (find?_map_eq_of_forall₂ (expandAfter_forall₂ h) ?_ ?_).symm
    · intro a e ⟨hexpand, named⟩
      obtain ⟨_, same, _⟩ := expandOne_declared hexpand named
      simp [same]
    · intro a e ⟨hexpand, named⟩
      exact (expandOne_declared hexpand named).2.2.symm
  · intro d hd
    obtain ⟨e, _, rfl⟩ := List.mem_map.1 hd
    rfl

end CollectionApproval

namespace Update

open CollectionApproval

theorem approvals_eq_ok {field : UpdateField} {kind : PermissionKind}
    {old new : List CollectionApproval} {permissions : List ApprovalPermission}
    {resolve : Resolver} {stance : Stance} {verdict : Verdict} :
    approvals field kind old new permissions resolve stance = .ok verdict ↔
      ∃ before after declarations, expand resolve old = .ok before ∧
        expand resolve new = .ok after ∧
        Permission.declare kind resolve permissions = .ok declarations ∧
        checkRegions field
          (Difference.changedRegions (flattenApprovals before) (flattenApprovals after))
          declarations stance = verdict := by
  unfold approvals
  simp only [Checked.bind_eq_ok, Checked.mapError_eq_ok, Checked.pure_eq_ok]
  constructor
  · intro h
    rcases h with ⟨before, hbefore, after, hafter, declarations, hdeclared, h⟩
    exact ⟨before, after, declarations, hbefore, hafter, hdeclared, h⟩
  · intro h
    rcases h with ⟨before, after, declarations, hbefore, hafter, hdeclared, h⟩
    exact ⟨before, hbefore, after, hafter, declarations, hdeclared, h⟩

section Changed

variable {resolve : Resolver} {old new : List CollectionApproval}
  {before after : List ExpandedApproval} (hbefore : expand resolve old = .ok before)
  (hafter : expand resolve new = .ok after)

include hbefore hafter

theorem exists_mem_changedApprovals (p : Point) :
    (∃ r ∈ Difference.changedRegions (flattenApprovals before) (flattenApprovals after), p ∈ r) ↔
      valueAt? resolve old p ≠ valueAt? resolve new p := by
  rw [Difference.exists_mem_changedRegions (tiling_flattenApprovals hbefore).apart
      (tiling_flattenApprovals hafter).apart,
    payloadAt?_of_expand hbefore, payloadAt?_of_expand hafter, ne_eq, ne_eq,
    (Option.map_injective fun _ _ h => Payload.approval.inj h).eq_iff]

theorem ordered_changedApprovals :
    ∀ r ∈ Difference.changedRegions (flattenApprovals before) (flattenApprovals after),
      r.Ordered :=
  Difference.ordered_of_mem_changedRegions (tiling_flattenApprovals hbefore)
    (tiling_flattenApprovals hafter)

theorem inhabited_changedApprovals_iff :
    (∀ r ∈ Difference.changedRegions (flattenApprovals before) (flattenApprovals after),
        ∃ p : Point, p ∈ r) ↔
      ∀ a ∈ old ++ new, ¬a.IsVoid resolve := by
  rw [Difference.inhabited_changedRegions_iff (tiling_flattenApprovals hbefore)
      (tiling_flattenApprovals hafter),
    List.forall_mem_append, List.forall_mem_append]
  exact and_congr (inhabited_flattenApprovals_iff hbefore) (inhabited_flattenApprovals_iff hafter)

end Changed

theorem approvals_judged {field : UpdateField} {kind : PermissionKind}
    {old new : List CollectionApproval} {permissions : List ApprovalPermission}
    {resolve : Resolver} {stance : Stance} {verdict : Verdict}
    (h : approvals field kind old new permissions resolve stance = .ok verdict) :
    ∃ changed declarations, Permission.declare kind resolve permissions = .ok declarations ∧
      Judged field changed declarations stance verdict ∧
      (∀ p : Point, (∃ r ∈ changed, p ∈ r) ↔ valueAt? resolve old p ≠ valueAt? resolve new p) ∧
      ((∀ a ∈ old ++ new, ¬a.IsVoid resolve) → ∀ r ∈ changed, ∃ p : Point, p ∈ r) := by
  obtain ⟨before, after, declarations, hbefore, hafter, hdeclared, rfl⟩ := approvals_eq_ok.1 h
  have judged := checkRegions_judged field _ declarations stance
    (ordered_changedApprovals hbefore hafter) (Permission.ordered_of_declare hdeclared)
  exact ⟨_, declarations, hdeclared, judged, exists_mem_changedApprovals hbefore hafter,
    (inhabited_changedApprovals_iff hbefore hafter).2⟩

theorem exists_approvals {field : UpdateField} {kind : PermissionKind}
    {old new : List CollectionApproval} {permissions : List ApprovalPermission}
    {resolve : Resolver} {stance : Stance} {before after : List ExpandedApproval}
    (hbefore : expand resolve old = .ok before) (hafter : expand resolve new = .ok after)
    (wellFormed : ∀ q ∈ permissions, q.WellFormed resolve) :
    ∃ verdict, approvals field kind old new permissions resolve stance = .ok verdict := by
  have declares : ∃ declarations, Permission.declare kind resolve permissions = .ok declarations :=
    Permission.exists_declare kind wellFormed
  rcases declares with ⟨declarations, declared⟩
  exact ⟨_, approvals_eq_ok.2 ⟨before, after, declarations, hbefore, hafter, declared, rfl⟩⟩

end Update

end BadgeRights
