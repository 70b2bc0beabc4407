import BadgeRights.Proofs.Denotation

set_option autoImplicit false

namespace BadgeRights

namespace Point

def mirrored (p : Point) : Point := { p with recipient := p.sender, sender := p.recipient }

theorem mirrored_surjective : Function.Surjective mirrored := fun p => ⟨p.mirrored, rfl⟩

end Point

theorem TransferTerms.cover_mirrored {terms : TransferTerms} {resolve : Resolver}
    {fromListId toListId : String} (p : Point) :
    terms.Cover resolve toListId fromListId p.mirrored ↔
      terms.Cover resolve fromListId toListId p := by
  simp only [Cover, Point.mirrored, and_left_comm (a := resolve.Holds toListId p.recipient)]

namespace CollectionApproval

def mirrored (a : CollectionApproval) : CollectionApproval :=
  { a with fromListId := a.toListId, toListId := a.fromListId }

variable {resolve : Resolver} {approvals : List CollectionApproval}

theorem mem_listIds_mirrored {a : CollectionApproval} {id : String} :
    id ∈ a.mirrored.listIds ↔ id ∈ a.listIds := by
  simp only [listIds, mirrored, List.mem_cons, or_left_comm]

theorem wellFormed_mirrored {a : CollectionApproval} :
    a.mirrored.WellFormed resolve ↔ a.WellFormed resolve := by
  constructor
  · intro wellFormed
    exact ⟨fun id hid => wellFormed.lists id (mem_listIds_mirrored.2 hid), wellFormed.transferTimes,
      wellFormed.badgeIds, wellFormed.ownershipTimes⟩
  · intro wellFormed
    exact ⟨fun id hid => wellFormed.lists id (mem_listIds_mirrored.1 hid), wellFormed.transferTimes,
      wellFormed.badgeIds, wellFormed.ownershipTimes⟩

theorem isVoid_mirrored {a : CollectionApproval} :
    a.mirrored.IsVoid resolve ↔ a.IsVoid resolve := by
  unfold IsVoid
  refine and_congr Iff.rfl (exists_congr fun id => ?_)
  exact and_congr mem_listIds_mirrored Iff.rfl

theorem valueAt?_mirrored (p : Point) :
    valueAt? resolve (approvals.map mirrored) p.mirrored = valueAt? resolve approvals p := by
  have covers (a : CollectionApproval) :
      a.mirrored.Covers resolve p.mirrored ↔ a.Covers resolve p :=
    TransferTerms.cover_mirrored p
  simp only [valueAt?, List.find?_map, Option.map_map, Function.comp_def, covers]
  rfl

theorem exists_expand_mirrored :
    (∃ expanded, expand resolve (approvals.map mirrored) = .ok expanded) ↔
      ∃ expanded, expand resolve approvals = .ok expanded := by
  unfold expand
  rw [exists_expandAfter_iff, exists_expandAfter_iff, List.map_map, List.forall_mem_map]
  simp only [wellFormed_mirrored]
  exact Iff.rfl

variable {before beforeToo : List ExpandedApproval}
  (hbefore : expand resolve approvals = .ok before)
  (hbeforeToo : expand resolve (approvals.map mirrored) = .ok beforeToo)

include hbefore hbeforeToo

theorem payloadAt?_mirrored (p : Point) :
    Detail.payloadAt? (Update.flattenApprovals beforeToo) p.mirrored =
      Detail.payloadAt? (Update.flattenApprovals before) p := by
  rw [payloadAt?_of_expand hbefore, payloadAt?_of_expand hbeforeToo, valueAt?_mirrored]

theorem inhabited_flattenApprovals_mirrored :
    (∀ d ∈ Update.flattenApprovals before, ∃ p : Point, p ∈ d) ↔
      ∀ d ∈ Update.flattenApprovals beforeToo, ∃ p : Point, p ∈ d := by
  rw [inhabited_flattenApprovals_iff hbefore, inhabited_flattenApprovals_iff hbeforeToo,
    List.forall_mem_map]
  simp only [isVoid_mirrored]

end CollectionApproval

structure Declaration.Mirrors (d e : Declaration) : Prop where
  mem_iff : ∀ p : Point, p ∈ d ↔ p.mirrored ∈ e
  windows : d.windows = e.windows

theorem exists_find?_mirrored {declarations others : List Declaration}
    (mirrors : List.Forall₂ Declaration.Mirrors declarations others) (p : Point)
    (holds : Windows → Prop) :
    (∃ d, declarations.find? (p ∈ ·) = some d ∧ holds d.windows) ↔
      ∃ e, others.find? (p.mirrored ∈ ·) = some e ∧ holds e.windows := by
  refine exists_find?_iff_of_forall₂ mirrors ?_ ?_
  · intro d e same
    simp [same.mem_iff]
  · intro d e same
    rw [same.windows]

namespace ApprovalPermission

open Checked Permission

def mirrored (q : ApprovalPermission) : ApprovalPermission :=
  { q with fromListId := q.toListId, toListId := q.fromListId }

variable {resolve : Resolver}

theorem faultClass?_toDeclaration_mirrored (standard : resolve.IsStandard)
    (q : ApprovalPermission) :
    (toDeclaration resolve q.mirrored).faultClass? = (toDeclaration resolve q).faultClass? := by
  simp only [toDeclaration, mirrored]
  refine faultClass?_bind rfl fun _ _ _ _ => ?_
  refine faultClass?_bind rfl fun _ _ _ _ => ?_
  refine faultClass?_bind rfl fun _ _ _ _ => ?_
  -- The two sides resolve the lists of the parties in opposite order.
  refine faultClass?_bind_comm (standard.failsAs _) (standard.failsAs _) fun _ _ => ?_
  refine faultClass?_bind rfl fun _ _ _ _ => ?_
  exact faultClass?_bind rfl fun _ _ _ _ => rfl

theorem declared_mirrored {q : ApprovalPermission} {d e : Declaration}
    (hd : toDeclaration resolve q = .ok d) (he : toDeclaration resolve q.mirrored = .ok e) :
    d.Mirrors e := by
  have states := LawfulPermission.declared hd
  have statesToo := LawfulPermission.declared he
  refine ⟨fun p => ?_, states.windows.trans statesToo.windows.symm⟩
  rw [states.mem_iff, statesToo.mem_iff]
  exact (TransferTerms.cover_mirrored p).symm

section Lists

variable {permissions : List ApprovalPermission} {kind kindToo : PermissionKind}

theorem forall₂_mirrored (permissions : List ApprovalPermission) :
    List.Forall₂ (fun q r => r = q.mirrored) permissions (permissions.map mirrored) := by
  rw [List.forall₂_map_right_iff, List.forall₂_same]
  exact fun _ _ => rfl

theorem toDeclarations_mirrored {declarations declarationsToo : List Declaration}
    (declared : toDeclarations resolve permissions = .ok declarations)
    (declaredToo : toDeclarations resolve (permissions.map mirrored) = .ok declarationsToo) :
    List.Forall₂ Declaration.Mirrors declarations declarationsToo := by
  refine forall₂_of_mapM (forall₂_mirrored permissions) declared declaredToo ?_
  rintro q _ d e rfl hd he
  exact declared_mirrored hd he

theorem faultClass?_declare_mirrored (standard : resolve.IsStandard) :
    (declare kind resolve permissions).faultClass? =
      (declare kindToo resolve (permissions.map mirrored)).faultClass? := by
  refine faultClass?_bind (faultClass?_mapM (forall₂_mirrored permissions) ?_) ?_
  · rintro q _ rfl
    exact (faultClass?_toDeclaration_mirrored standard q).symm
  · intro ds es hds hes
    refine faultClass?_bind (faultClass?_forM (toDeclarations_mirrored hds hes) ?_)
      fun _ _ _ _ => rfl
    intro d e mirrors
    rw [faultClass?_checkWindows, faultClass?_checkWindows, mirrors.windows]

end Lists

end ApprovalPermission

namespace Update

open CollectionApproval

theorem outcome_approvals_mirrored {resolve : Resolver} (standard : resolve.IsStandard)
    {field fieldToo : UpdateField} {kind kindToo : PermissionKind}
    (old new : List CollectionApproval) (permissions : List ApprovalPermission) (stance : Stance) :
    outcome (approvals field kind old new permissions resolve stance) =
      outcome (approvals fieldToo kindToo (old.map mirrored) (new.map mirrored)
        (permissions.map ApprovalPermission.mirrored) resolve stance) := by
  have faults := standard.inputFaults
  apply outcome_congr
  · refine Checked.faultClass?_bind (Checked.faultClass?_mapError (fun _ => Fault.cls_inOld)
      (inputFaults_expandAfter faults [] old) (inputFaults_expandAfter faults [] _)
      exists_expand_mirrored.symm) fun _ _ _ _ => ?_
    refine Checked.faultClass?_bind (Checked.faultClass?_mapError (fun _ => Fault.cls_inNew)
      (inputFaults_expandAfter faults [] new) (inputFaults_expandAfter faults [] _)
      exists_expand_mirrored.symm) fun _ _ _ _ => ?_
    exact Checked.faultClass?_bind (ApprovalPermission.faultClass?_declare_mirrored standard)
      fun _ _ _ _ => rfl
  · intro v w answered answeredToo
    obtain ⟨before, after, declarations, hbefore, hafter, declared, rfl⟩ :=
      approvals_eq_ok.1 answered
    obtain ⟨beforeToo, afterToo, declarationsToo, hbeforeToo, hafterToo, declaredToo, rfl⟩ :=
      approvals_eq_ok.1 answeredToo
    have mirrors := ApprovalPermission.toDeclarations_mirrored
      (Permission.declare_eq_ok.1 declared).1 (Permission.declare_eq_ok.1 declaredToo).1
    apply kind?_changedRegions_congr_image (tiling_flattenApprovals hbefore)
      (tiling_flattenApprovals hafter) (tiling_flattenApprovals hbeforeToo)
      (tiling_flattenApprovals hafterToo) (Permission.ordered_of_declare declared)
      (Permission.ordered_of_declare declaredToo) Point.mirrored_surjective
    · intro p
      rw [payloadAt?_mirrored hbefore hbeforeToo, payloadAt?_mirrored hafter hafterToo]
    · rw [List.forall_mem_append, List.forall_mem_append,
        inhabited_flattenApprovals_mirrored hbefore hbeforeToo,
        inhabited_flattenApprovals_mirrored hafter hafterToo]
    · exact fun p => exists_find?_mirrored mirrors p fun w => Spans.Mem stance.now w.forbidden
    · exact fun p => exists_find?_mirrored mirrors p fun w => Spans.Mem stance.now w.permitted

end Update

def Direction.opposite : Direction → Direction
  | incoming => outgoing
  | outgoing => incoming

def UserApproval.turned {direction : Direction} (a : UserApproval direction) :
    UserApproval direction.opposite :=
  ⟨a.partnerListId, a.terms, a.body⟩

def UserApprovalPermission.turned {direction : Direction} (q : UserApprovalPermission direction) :
    UserApprovalPermission direction.opposite :=
  ⟨q.partnerListId, q.terms, q.windows⟩

section Users

variable {direction : Direction} {user : String}

theorem UserApproval.pin_turned (a : UserApproval direction) :
    a.turned.pin user = (a.pin user).mirrored := by
  cases direction <;> rfl

theorem UserApprovalPermission.pin_turned (q : UserApprovalPermission direction) :
    q.turned.pin user = (q.pin user).mirrored := by
  cases direction <;> rfl

namespace Update

open CollectionApproval

theorem userApprovals_turned {old new : List (UserApproval direction)}
    {permissions : List (UserApprovalPermission direction)} {resolve : Resolver} {stance : Stance} :
    userApprovals user (old.map .turned) (new.map .turned) (permissions.map .turned) resolve
        stance =
      approvals (userApprovalsField direction.opposite) direction.opposite.permissionKind
        ((old.map (UserApproval.pin user)).map mirrored)
        ((new.map (UserApproval.pin user)).map mirrored)
        ((permissions.map (UserApprovalPermission.pin user)).map ApprovalPermission.mirrored)
        resolve stance := by
  simp only [userApprovals, List.map_map, Function.comp_def, UserApproval.pin_turned,
    UserApprovalPermission.pin_turned]

/-- Incoming and outgoing approvals mirror each other: an update of a user's approvals in one
direction has the outcome of the update in the other direction with the same partners. -/
theorem outcome_turned (user : String) (old new : List (UserApproval direction))
    (permissions : List (UserApprovalPermission direction)) {resolve : Resolver}
    (standard : resolve.IsStandard) (stance : Stance) :
    outcome (userApprovals user old new permissions resolve stance) =
      outcome (userApprovals user (old.map .turned) (new.map .turned) (permissions.map .turned)
        resolve stance) := by
  rw [userApprovals_turned]
  exact outcome_approvals_mirrored standard _ _ _ stance

section Gifts

def receiver : String := "0x2222222222222222222222222222222222222222"

def gift : UserApproval .incoming where
  partnerListId := "All"
  terms := ⟨"All", [.full], [⟨1, 10⟩], [.full], "gift", "", ""⟩
  body := default

def mintedGifts : UserApprovalPermission .incoming where
  partnerListId := "Mint"
  terms := ⟨"All", [.full], [⟨5, 5⟩], [.full], "", "", ""⟩
  windows := ⟨[], [.full]⟩

theorem gift_stays_either_way :
    Resolver.reserved.IsStandard ∧
      outcome (userApprovals receiver [gift] [] [mintedGifts] Resolver.reserved ⟨1000, .neutral⟩) =
        .ok (some .forbidden) ∧
      outcome (userApprovals receiver [gift.turned] [] [mintedGifts.turned] Resolver.reserved
        ⟨1000, .neutral⟩) = .ok (some .forbidden) := by
  have denied : outcome (userApprovals receiver [gift] [] [mintedGifts] Resolver.reserved
      ⟨1000, .neutral⟩) = .ok (some .forbidden) := by
    decide +kernel
  have same := outcome_turned receiver [gift] [] [mintedGifts] .reserved ⟨1000, .neutral⟩
  exact ⟨.reserved, denied, same ▸ denied⟩

end Gifts

end Update

end Users

end BadgeRights
