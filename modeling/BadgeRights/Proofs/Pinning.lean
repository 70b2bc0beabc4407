import BadgeRights.Proofs.Approval
import BadgeRights.Proofs.Reserved
import BadgeRights.Proofs.Stable

set_option autoImplicit false

namespace BadgeRights

def Direction.own {α : Type} (sender recipient : α) : Direction → α
  | incoming => recipient
  | outgoing => sender

def Direction.userList (direction : Direction) (r : Region) : AddressList :=
  direction.own r.fromList r.toList

variable {direction : Direction} {user : String} {resolve : Resolver}

theorem UserApproval.own_pin (a : UserApproval direction) :
    direction.own (a.pin user).fromListId (a.pin user).toListId = user := by
  cases direction <;> rfl

theorem UserApprovalPermission.own_pin (q : UserApprovalPermission direction) :
    direction.own (q.pin user).fromListId (q.pin user).toListId = user := by
  cases direction <;> rfl

def Region.Pinned (direction : Direction) (resolve : Resolver) (user : String) (r : Region) : Prop :=
  ∃ l, resolve user = .ok l ∧ ∀ a, a ∈ direction.userList r ↔ a ∈ l

theorem Region.cutStable_pinned (direction : Direction) (resolve : Resolver) (user : String) :
    CutStable (Pinned direction resolve user) := by
  have sameMembers (l : AddressList) :
      CutStable fun r => ∀ a, a ∈ direction.userList r ↔ a ∈ l := by
    have list := AddressList.cutStable_members (· ∈ l)
    cases direction with
    | incoming => exact .of_axes list.fst.snd.snd.snd.snd
    | outgoing => exact .of_axes list.fst.snd.snd.snd.snd.snd
  -- The name resolves to one list, whose members are those of both regions.
  intro value handled hvalue hhandled
  obtain ⟨l, resolved, hvalue⟩ := hvalue
  obtain ⟨m, again, hhandled⟩ := hhandled
  obtain rfl := Except.ok.inj (resolved.symm.trans again)
  have pieces := sameMembers l value handled hvalue hhandled
  constructor
  · exact fun piece hpiece => ⟨l, resolved, pieces.outside piece hpiece⟩
  · exact fun s hs => ⟨l, resolved, pieces.shared s hs⟩

theorem Declaration.pinned_of_mem_regions {d : Declaration} {fromListId toListId : String}
    (own : direction.own fromListId toListId = user) (hfrom : resolve fromListId = .ok d.fromList)
    (hto : resolve toListId = .ok d.toList) : ∀ r ∈ d.regions, r.Pinned direction resolve user := by
  intro r hr
  subst own
  simp only [regions, List.mem_flatMap, List.mem_map] at hr
  obtain ⟨_, _, _, _, _, _, _, _, rfl⟩ := hr
  cases direction with
  | incoming => exact ⟨_, hto, fun _ => Iff.rfl⟩
  | outgoing => exact ⟨_, hfrom, fun _ => Iff.rfl⟩

namespace Update

theorem pinned_of_expand {approvals : List (UserApproval direction)}
    {expanded : List ExpandedApproval}
    (h : CollectionApproval.expand resolve (approvals.map (UserApproval.pin user)) = .ok expanded) :
    ∀ d ∈ flattenApprovals expanded, d.region.Pinned direction resolve user := by
  refine (Region.cutStable_pinned direction resolve user).flatten ?_
  intro d hd
  obtain ⟨e, he, rfl⟩ := List.mem_map.1 hd
  obtain ⟨_, ha, expands, _⟩ :=
    exists_left_of_forall₂ (CollectionApproval.expandAfter_forall₂ h) he
  obtain ⟨a, _, rfl⟩ := List.mem_map.1 ha
  obtain ⟨_, _, _, hfrom, hto, _, _, _, _, rfl⟩ := CollectionApproval.expandOne_eq_ok.1 expands
  exact Declaration.pinned_of_mem_regions a.own_pin hfrom hto

theorem pinned_of_toDeclarations {permissions : List (UserApprovalPermission direction)}
    {declarations : List Declaration}
    (h : Permission.toDeclarations resolve (permissions.map (UserApprovalPermission.pin user)) =
      .ok declarations) :
    ∀ d ∈ declarations, ∀ r ∈ d.regions, r.Pinned direction resolve user := by
  intro d hd
  obtain ⟨_, hq, declared⟩ := exists_left_of_forall₂ (Checked.mapM_eq_ok.1 h) hd
  obtain ⟨q, _, rfl⟩ := List.mem_map.1 hq
  obtain ⟨_, _, _, _, _, _, _, hfrom, hto, _, rfl⟩ :=
    ApprovalPermission.toDeclaration_eq_ok.1 declared
  exact Declaration.pinned_of_mem_regions q.own_pin hfrom hto

variable {old new : List (UserApproval direction)}
  {permissions : List (UserApprovalPermission direction)} {stance : Stance} {denial : Denial}

/-- The list on the user's side of a denial is the one that the user's name stands for, and an address
stands for itself alone. -/
theorem denial_stays_with_user
    (h : userApprovals user old new permissions resolve stance = .ok (.denied denial)) :
    (∃ l, resolve user = .ok l ∧ ∀ a, a ∈ direction.userList denial.region ↔ a ∈ l) ∧
      (resolve.IsStandard → Address.isWellFormed user = true →
        ∀ a, a ∈ direction.userList denial.region ↔ a = user) := by
  obtain ⟨before, after, declarations, hbefore, hafter, hdeclared, denied⟩ := approvals_eq_ok.1 h
  have stable := Region.cutStable_pinned direction resolve user
  have changed := stable.changedRegions (pinned_of_expand hbefore) (pinned_of_expand hafter)
  have declared := pinned_of_toDeclarations (Permission.declare_eq_ok.1 hdeclared).1
  obtain ⟨l, resolved, members⟩ : denial.region.Pinned direction resolve user :=
    stable.denied changed declared denied
  refine ⟨⟨l, resolved, members⟩, ?_⟩
  intro standard address a
  obtain rfl := Except.ok.inj (resolved.symm.trans (standard.resolve_address address))
  rw [members, AddressList.mem_withId, AddressList.mem_only, List.mem_singleton]

section Namesakes

def hexUser : String := "0x1111111111111111111111111111111111111111"

def sending : UserApproval .outgoing where
  partnerListId := "All"
  terms := ⟨"All", [⟨1, 10⟩], [⟨1, 10⟩], [⟨1, 10⟩], "one", "", ""⟩
  body := ⟨"", "", none⟩

def sendingLock : UserApprovalPermission .outgoing where
  partnerListId := "All"
  terms := ⟨"All", [.full], [⟨5, 15⟩], [.full], "All", "All", "All"⟩
  windows := ⟨[], [.full]⟩

def sendingRegion (fromList : AddressList) (first last : Nat) : Region :=
  { Region.universal with
    badgeIds := ⟨first, last⟩
    transferTimes := ⟨1, 10⟩
    ownershipTimes := ⟨1, 10⟩
    toList := .withId .everyone "All"
    fromList
    initiatedByList := .withId .everyone "All"
    approvalIdList := .only ["one"] }

theorem hexUser_denied_alone :
    ∃ denial, userApprovals hexUser [] [sending] [sendingLock] Resolver.reserved ⟨1000, .neutral⟩ =
        .ok (.denied denial) ∧ Resolver.reserved.IsStandard ∧ Address.isWellFormed hexUser = true ∧
      ∀ a, a ∈ Direction.outgoing.userList denial.region ↔ a = hexUser := by
  have denied : userApprovals hexUser [] [sending] [sendingLock] Resolver.reserved
      ⟨1000, .neutral⟩ = .ok (.denied ⟨.outgoingApprovals, .forbidden,
        sendingRegion (.withId (.only [hexUser]) hexUser) 5 10⟩) := by decide +kernel
  have address : Address.isWellFormed hexUser = true := by decide
  exact ⟨_, denied, .reserved, address, (denial_stays_with_user denied).2 .reserved address⟩

theorem namesake_denied_for_everyone :
    ∃ denial, userApprovals "All" [] [sending] [] Resolver.reserved ⟨1000, .requirePermitted⟩ =
        .ok (.denied denial) ∧
      ∃ a, a ∈ Direction.outgoing.userList denial.region ∧ a ≠ "All" := by
  have denied : userApprovals "All" [] [sending] [] Resolver.reserved ⟨1000, .requirePermitted⟩ =
      .ok (.denied ⟨.outgoingApprovals, .notPermitted,
        sendingRegion (.withId .everyone "All") 1 10⟩) := by decide +kernel
  exact ⟨_, denied, "Alice", by decide, by decide⟩

end Namesakes

end Update

end BadgeRights
