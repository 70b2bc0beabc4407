import BadgeRights.Update.Coverage

set_option autoImplicit false

namespace BadgeRights.Update

def flattenApprovals (approvals : List ExpandedApproval) : List Detail :=
  flatten (approvals.map ExpandedApproval.toDeclaration)

def approvals (field : UpdateField) (kind : PermissionKind) (old new : List CollectionApproval)
    (permissions : List ApprovalPermission) (resolve : Resolver) (stance : Stance) :
    Checked Verdict := do
  let old ← (CollectionApproval.expand resolve old).mapError Fault.inOld
  let new ← (CollectionApproval.expand resolve new).mapError Fault.inNew
  let declarations ← Permission.declare kind resolve permissions
  let changed := Difference.changedRegions (flattenApprovals old) (flattenApprovals new)
  return checkRegions field changed declarations stance

def collectionApprovals (old new : List CollectionApproval) (permissions : List ApprovalPermission)
    (resolve : Resolver) (stance : Stance) : Checked Verdict :=
  approvals .collectionApprovals .updateCollectionApprovals old new permissions resolve stance

def userApprovalsField : Direction → UpdateField
  | .incoming => .incomingApprovals
  | .outgoing => .outgoingApprovals

def userApprovals {direction : Direction} (user : String)
    (old new : List (UserApproval direction))
    (permissions : List (UserApprovalPermission direction)) (resolve : Resolver)
    (stance : Stance) : Checked Verdict :=
  approvals (userApprovalsField direction) direction.permissionKind
    (old.map (UserApproval.pin user)) (new.map (UserApproval.pin user))
    (permissions.map (UserApprovalPermission.pin user)) resolve stance

end BadgeRights.Update
