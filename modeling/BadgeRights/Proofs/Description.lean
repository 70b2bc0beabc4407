import BadgeRights.Proofs.Approval
import BadgeRights.Proofs.PermissionUpdate
import BadgeRights.Proofs.Reserved
import BadgeRights.Proofs.Stable

set_option autoImplicit false

namespace BadgeRights

namespace AddressList

def NamesAddresses (l : AddressList) : Prop :=
  ∀ a ∈ l.addresses, Address.isWellFormed a = true

instance (l : AddressList) : Decidable l.NamesAddresses :=
  inferInstanceAs (Decidable (∀ a ∈ l.addresses, Address.isWellFormed a = true))

/-- What the list is shown as is the reserved id of a list of the same addresses. -/
def Recoverable (l : AddressList) : Prop :=
  ∃ m, Reserved.list? l.describe = some m ∧ m.whitelist = l.whitelist ∧ m.addresses = l.addresses

theorem recoverable_of_namesAddresses {l : AddressList} (unnamed : l.listId = "")
    (wellFormed : l.NamesAddresses) : l.Recoverable := by
  have readable : ∃ r : Reserved.Reading, r.text = l.describe ∧ r.list.whitelist = l.whitelist ∧
      r.list.addresses = l.addresses := by
    rcases l with ⟨listId, addresses, whitelist, _, _, _⟩
    dsimp only at unnamed
    subst unnamed
    cases addresses with
    | nil =>
        cases whitelist with
        | true => exact ⟨.none, rfl, rfl, rfl⟩
        | false => exact ⟨.allWithMint, rfl, rfl, rfl⟩
    | cons a rest =>
        let names : Reserved.Addresses := ⟨a :: rest, List.cons_ne_nil a rest, wellFormed⟩
        cases whitelist with
        | true => exact ⟨.only names, rfl, rfl, rfl⟩
        | false => exact ⟨.allBut names, rfl, rfl, rfl⟩
  obtain ⟨r, text, polarity, same⟩ := readable
  refine ⟨r.list.withId r.text, ?_, polarity, same⟩
  rw [← text, Reserved.list?_text]

theorem namesAddresses_of_list? {id : String} {l : AddressList} (h : Reserved.list? id = some l) :
    l.NamesAddresses := by
  obtain ⟨r, rfl⟩ := Reserved.list?_isSome_iff.1 (Option.isSome_of_mem h)
  obtain rfl := Option.some.inj (h.symm.trans (Reserved.list?_text r))
  clear h
  change r.list.NamesAddresses
  induction r with
  | only addresses => exact addresses.wellFormed
  | allBut addresses => exact addresses.wellFormed
  | negated inner ih => exact ih
  | negatedGroup inner ih => exact ih
  | _ => decide

theorem describe_of_list? {id : String} {l : AddressList} (h : Reserved.list? id = some l) :
    l.describe = id := by
  have named : id ≠ "" := by
    rintro rfl
    have unread : Reserved.list? "" = none := by decide +kernel
    exact Option.some_ne_none l (h.symm.trans unread)
  obtain ⟨m, _, rfl⟩ := Option.map_eq_some_iff.1 h
  exact if_pos named

theorem namesAddresses_subtract {value handled : AddressList} (hvalue : value.NamesAddresses)
    (hhandled : handled.NamesAddresses) :
    (value.subtract handled).1.NamesAddresses ∧ (value.subtract handled).2.NamesAddresses := by
  have ofValue (keep : String → Bool) : ∀ a ∈ value.addresses.filter keep,
      Address.isWellFormed a = true := fun a ha => hvalue a (List.mem_filter.1 ha).1
  have ofHandled (keep : String → Bool) : ∀ a ∈ handled.addresses.filter keep,
      Address.isWellFormed a = true := fun a ha => hhandled a (List.mem_filter.1 ha).1
  have both := List.forall_mem_append.2
    ⟨hvalue, ofHandled fun a => !value.addresses.contains a⟩
  unfold subtract
  split
  · exact ⟨ofValue _, ofValue _⟩
  · exact ⟨ofValue _, ofValue _⟩
  · exact ⟨both, ofHandled _⟩
  · exact ⟨ofHandled _, both⟩

theorem cutStable_namesAddresses : CutStable NamesAddresses := by
  intro value handled hvalue hhandled
  obtain ⟨left, common⟩ := namesAddresses_subtract hvalue hhandled
  constructor
  · intro piece hpiece
    obtain ⟨_, rfl⟩ := mem_cut_outside.1 hpiece
    exact left
  · intro s hs
    obtain ⟨_, rfl⟩ := mem_cut_shared.1 hs
    split
    · exact hvalue
    · exact common

end AddressList

namespace Region

def listAxes : List (String × (Region → AddressList)) :=
  [("toList", toList), ("fromList", fromList), ("initiatedByList", initiatedByList),
    ("approvalId", approvalIdList), ("amountTrackerId", amountTrackerIdList),
    ("challengeTrackerId", challengeTrackerIdList)]

variable {name : String} {axis : Region → AddressList}

theorem mem_listTexts (h : (name, axis) ∈ listAxes) {r : Region}
    (restricted : (axis r).isUniversal = false) :
    name ++ " " ++ (axis r).describe ∈ r.listTexts := by
  have texts : r.listTexts = listAxes.filterMap fun (name, axis) =>
      if (axis r).isUniversal then none else some (name ++ " " ++ (axis r).describe) := rfl
  rw [texts, List.mem_filterMap]
  exact ⟨(name, axis), h, by simp [restricted]⟩

theorem cutStable_listAxis (h : (name, axis) ∈ listAxes) {Q : AddressList → Prop}
    (stable : BadgeRights.CutStable Q) : CutStable fun r => Q (axis r) := by
  simp only [listAxes, List.mem_cons, Prod.mk.injEq, List.not_mem_nil, or_false] at h
  rcases h with ⟨_, rfl⟩ | ⟨_, rfl⟩ | ⟨_, rfl⟩ | ⟨_, rfl⟩ | ⟨_, rfl⟩ | ⟨_, rfl⟩
  · exact .of_axes stable.fst.snd.snd.snd.snd
  · exact .of_axes stable.fst.snd.snd.snd.snd.snd
  · exact .of_axes stable.fst.snd.snd.snd.snd.snd.snd
  · exact .of_axes stable.fst.snd.snd.snd.snd.snd.snd.snd
  · exact .of_axes stable.fst.snd.snd.snd.snd.snd.snd.snd.snd
  · exact .of_axes stable.snd.snd.snd.snd.snd.snd.snd.snd.snd

/-- What comes out of given regions by cutting, any number of times, one by another. -/
inductive CutFrom (given : List Region) : Region → Prop where
  | given {r : Region} (h : r ∈ given) : CutFrom given r
  | outside {value handled piece : Region} (hvalue : CutFrom given value)
      (hhandled : CutFrom given handled) (h : piece ∈ (value.cut handled).outside) :
      CutFrom given piece
  | shared {value handled s : Region} (hvalue : CutFrom given value)
      (hhandled : CutFrom given handled) (h : s ∈ (value.cut handled).shared) : CutFrom given s

theorem cutStable_cutFrom (given : List Region) : CutStable (CutFrom given) :=
  fun _ _ hvalue hhandled =>
    ⟨fun _ => .outside hvalue hhandled, fun _ => .shared hvalue hhandled⟩

theorem CutFrom.of_stable {Q : Region → Prop} (stable : CutStable Q) {given : List Region}
    (each : ∀ g ∈ given, Q g) {r : Region} (h : CutFrom given r) : Q r := by
  induction h with
  | given h => exact each _ h
  | outside _ _ h hvalue hhandled => exact (stable _ _ hvalue hhandled).outside _ h
  | shared _ _ h hvalue hhandled => exact (stable _ _ hvalue hhandled).shared _ h

end Region

namespace Update

open Region

variable {P : Type} [Permission P] {kind : PermissionKind} {resolve : Resolver} {denial : Denial}

def approvalRegions (resolve : Resolver) (approvals : List CollectionApproval) : List Region :=
  match CollectionApproval.expand resolve approvals with
  | .ok expanded => (expanded.map ExpandedApproval.toDeclaration).flatMap Declaration.regions
  | .error _ => []

def permissionRegions (resolve : Resolver) (permissions : List P) : List Region :=
  match Permission.toDeclarations resolve permissions with
  | .ok declarations => declarations.flatMap Declaration.regions
  | .error _ => []

theorem cutFrom_flatten {given : List Region} {declarations : List Declaration}
    (within : declarations.flatMap Declaration.regions ⊆ given) :
    ∀ d ∈ flatten declarations, CutFrom given d.region := by
  apply (cutStable_cutFrom given).flatten
  intro d hd r hr
  exact .given (within (List.mem_flatMap.2 ⟨d, hd, hr⟩))

theorem cutFrom_of_approvals {field : UpdateField} {old new : List CollectionApproval}
    {permissions : List ApprovalPermission} {stance : Stance}
    (h : approvals field kind old new permissions resolve stance = .ok (.denied denial)) :
    CutFrom (approvalRegions resolve old ++ approvalRegions resolve new ++
      permissionRegions resolve permissions) denial.region := by
  obtain ⟨before, after, declarations, hbefore, hafter, hdeclared, denied⟩ := approvals_eq_ok.1 h
  have regions := (Permission.declare_eq_ok.1 hdeclared).1
  simp only [approvalRegions, permissionRegions, hbefore, hafter, regions]
  -- The denied region comes from a difference of the two sides, cut by the permissions.
  refine (cutStable_cutFrom _).denied (Region.CutStable.changedRegions (cutStable_cutFrom _)
    (cutFrom_flatten ?_) (cutFrom_flatten ?_)) ?_ denied
  · intro r hr
    exact List.mem_append_left _ (List.mem_append_left _ hr)
  · intro r hr
    exact List.mem_append_left _ (List.mem_append_right _ hr)
  · intro d hd r hr
    exact .given (List.mem_append_right _ (List.mem_flatMap.2 ⟨d, hd, hr⟩))

theorem cutFrom_of_permission {old new : List P}
    (h : permission kind old new resolve = .ok (.denied denial)) :
    CutFrom (permissionRegions resolve old ++ permissionRegions resolve new) denial.region := by
  obtain ⟨before, after, hbefore, hafter, verdict⟩ := permission_eq_ok.1 h
  have regionsBefore := (Permission.declare_eq_ok.1 hbefore).1
  have regionsAfter := (Permission.declare_eq_ok.1 hafter).1
  simp only [permissionRegions, regionsBefore, regionsAfter]
  have stable := cutStable_cutFrom
    (before.flatMap Declaration.regions ++ after.flatMap Declaration.regions)
  have sideBefore := cutFrom_flatten (List.subset_append_left (before.flatMap Declaration.regions)
    (after.flatMap Declaration.regions))
  have sideAfter := cutFrom_flatten (List.subset_append_right (before.flatMap Declaration.regions)
    (after.flatMap Declaration.regions))
  -- What is lost is outside all that is new, or is where an old entry meets a new one.
  split at verdict
  · rename_i lost found
    obtain rfl := Verdict.denied.inj verdict
    rcases firstLoss?_eq_some found with ⟨e, he, _, rfl⟩ | ⟨o, ho, _, rfl⟩
    · exact stable.carveAll sideBefore sideAfter e he
    · obtain ⟨hfirst, hsecond, meet⟩ := Difference.mem_overlaps.1 ho
      exact .shared (sideAfter _ hsecond) (sideBefore _ hfirst) meet
  · cases verdict

/-- Lists without an id are shown as ids that give them back, if they name addresses, and reserved lists
are shown as their ids. This holds of every list that cutting derives from lists that name addresses, and
the region of a denial, be it of approvals or of permissions, is cut out of declared regions. -/
theorem described_lists_read_back :
    (∀ l : AddressList, l.listId = "" → l.NamesAddresses → l.Recoverable) ∧
      (∀ id l, Reserved.list? id = some l → l.describe = id ∧ l.NamesAddresses) ∧
      (∀ given r, CutFrom given r → ∀ name axis, (name, axis) ∈ listAxes →
        (∀ g ∈ given, (axis g).NamesAddresses) → (axis r).listId = "" →
        (axis r).Recoverable ∧
          ((axis r).isUniversal = false → name ++ " " ++ (axis r).describe ∈ r.listTexts)) ∧
      (∀ field kind old new permissions resolve stance denial,
        approvals field kind old new permissions resolve stance = .ok (.denied denial) →
        CutFrom (approvalRegions resolve old ++ approvalRegions resolve new ++
          permissionRegions resolve permissions) denial.region) ∧
      ∀ kind (old new : List P) resolve denial,
        permission kind old new resolve = .ok (.denied denial) →
        CutFrom (permissionRegions resolve old ++ permissionRegions resolve new) denial.region := by
  refine ⟨fun l => AddressList.recoverable_of_namesAddresses, ?_, ?_,
    fun _ _ _ _ _ _ _ _ => cutFrom_of_approvals, fun _ _ _ _ _ => cutFrom_of_permission⟩
  · intro id l reserved
    exact ⟨AddressList.describe_of_list? reserved, AddressList.namesAddresses_of_list? reserved⟩
  · intro given r derived name axis listed wellFormed unnamed
    have stable := cutStable_listAxis listed AddressList.cutStable_namesAddresses
    exact ⟨AddressList.recoverable_of_namesAddresses unnamed (derived.of_stable stable wellFormed),
      mem_listTexts listed⟩

section Giveaway

def giveaway : CollectionApproval where
  fromListId := "AllWithoutMint"
  toListId := "All"
  terms := ⟨"All", [⟨1, 10⟩], [⟨1, 10⟩], [⟨1, 10⟩], "giveaway", "", ""⟩
  body := ⟨"", "", none⟩

def giveawayLock : ApprovalPermission where
  fromListId := "AllWithout0x1111111111111111111111111111111111111111"
  toListId := "All"
  terms := ⟨"All", [.full], [⟨1, 5⟩], [.full], "All", "All", "All"⟩
  windows := ⟨[], [.full]⟩

theorem giveaway_denied_readably :
    ∃ denial, collectionApprovals [] [giveaway] [giveawayLock] Resolver.reserved ⟨1000, .neutral⟩ =
        .ok (.denied denial) ∧ denial.region.fromList.listId = "" ∧
      denial.region.fromList.Recoverable ∧
      "fromList AllWithoutMint:0x1111111111111111111111111111111111111111" ∈
        denial.region.listTexts := by
  have denied : collectionApprovals [] [giveaway] [giveawayLock] Resolver.reserved ⟨1000, .neutral⟩ =
      .ok (.denied ⟨.collectionApprovals, .forbidden, { Region.universal with
        badgeIds := ⟨1, 5⟩
        transferTimes := ⟨1, 10⟩
        ownershipTimes := ⟨1, 10⟩
        toList := .withId .everyone "All"
        fromList := .allBut ["Mint", "0x1111111111111111111111111111111111111111"]
        initiatedByList := .withId .everyone "All"
        approvalIdList := .only ["giveaway"] }⟩) := by decide +kernel
  obtain ⟨_, _, readable, ofApprovals, _⟩ := described_lists_read_back (P := ApprovalPermission)
  have wellFormed : ∀ g ∈ approvalRegions Resolver.reserved [] ++
      approvalRegions Resolver.reserved [giveaway] ++ permissionRegions Resolver.reserved [giveawayLock],
      g.fromList.NamesAddresses := by decide +kernel
  obtain ⟨recoverable, shown⟩ := readable _ _ (ofApprovals _ _ _ _ _ _ _ _ denied) "fromList"
    Region.fromList (by simp [Region.listAxes]) wellFormed rfl
  exact ⟨_, denied, rfl, recoverable, shown rfl⟩

end Giveaway

end Update

end BadgeRights
