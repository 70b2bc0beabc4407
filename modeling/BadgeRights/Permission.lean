import BadgeRights.Approval

set_option autoImplicit false

namespace BadgeRights

structure ActionPermission where
  windows : Windows
  deriving DecidableEq

structure TimedPermission where
  timelineTimes : List Span
  windows : Windows
  deriving DecidableEq

structure BadgeTimedPermission where
  timelineTimes : List Span
  badgeIds : List Span
  windows : Windows
  deriving DecidableEq

structure ApprovalPermission where
  fromListId : String
  toListId : String
  terms : TransferTerms
  windows : Windows
  deriving DecidableEq

structure UserApprovalPermission (direction : Direction) where
  partnerListId : String
  terms : TransferTerms
  windows : Windows
  deriving DecidableEq

def UserApprovalPermission.pin {direction : Direction} (user : String)
    (p : UserApprovalPermission direction) : ApprovalPermission :=
  let (sender, recipient) := direction.parties user p.partnerListId
  ⟨sender, recipient, p.terms, p.windows⟩

class Permission (P : Type) where
  toDeclaration : Resolver → P → Checked Declaration

namespace Permission

def checkedSpans (spans : List Span) : Checked (List Span) := do
  Spans.validate spans
  return spans

def checkedWindows (w : Windows) : Checked Windows := do
  let permitted ← checkedSpans w.permitted
  let forbidden ← checkedSpans w.forbidden
  return ⟨permitted, forbidden⟩

instance : Permission ActionPermission where
  toDeclaration _ p := do
    let windows ← checkedWindows p.windows
    return { Declaration.everywhere .empty with windows }

instance : Permission TimedPermission where
  toDeclaration _ p := do
    let timelineTimes ← checkedSpans p.timelineTimes
    let windows ← checkedWindows p.windows
    return { Declaration.everywhere .empty with timelineTimes, windows }

instance : Permission BadgeTimedPermission where
  toDeclaration _ p := do
    let timelineTimes ← checkedSpans p.timelineTimes
    let badgeIds ← checkedSpans p.badgeIds
    let windows ← checkedWindows p.windows
    return { Declaration.everywhere .empty with timelineTimes, badgeIds, windows }

instance : Permission ApprovalPermission where
  toDeclaration resolve p := do
    let badgeIds ← checkedSpans p.terms.badgeIds
    let transferTimes ← checkedSpans p.terms.transferTimes
    let ownershipTimes ← checkedSpans p.terms.ownershipTimes
    let toList ← resolve p.toListId
    let fromList ← resolve p.fromListId
    let initiatedByList ← resolve p.terms.initiatedByListId
    let windows ← checkedWindows p.windows
    return { Declaration.everywhere .empty with
      badgeIds, transferTimes, ownershipTimes, toList, fromList, initiatedByList, windows
      approvalIdList := .ofId p.terms.approvalId
      amountTrackerIdList := .ofId p.terms.amountTrackerId
      challengeTrackerIdList := .ofId p.terms.challengeTrackerId }

variable {P : Type} [Permission P]

def toDeclarations (resolve : Resolver) (permissions : List P) : Checked (List Declaration) :=
  permissions.mapM (toDeclaration resolve)

def checkWindows (kind : PermissionKind) (w : Windows) : Checked Unit :=
  match Spans.intersection w.permitted w.forbidden with
  | [] => .ok ()
  | both => refuse (.bothWays kind both)

def validate (kind : PermissionKind) (declarations : List Declaration) : Checked Unit :=
  declarations.forM fun d => checkWindows kind d.windows

def declare (kind : PermissionKind) (resolve : Resolver) (permissions : List P) :
    Checked (List Declaration) := do
  let declarations ← toDeclarations resolve permissions
  validate kind declarations
  return declarations

end Permission

structure CollectionPermissions where
  deleteCollection : List ActionPermission
  archiveCollection : List TimedPermission
  updateOffChainBalancesMetadata : List TimedPermission
  updateStandards : List TimedPermission
  updateCustomData : List TimedPermission
  updateManager : List TimedPermission
  updateCollectionMetadata : List TimedPermission
  updateBadgeMetadata : List BadgeTimedPermission
  updateCollectionApprovals : List ApprovalPermission
  deriving DecidableEq

structure UserPermissions where
  updateOutgoingApprovals : List (UserApprovalPermission .outgoing)
  updateIncomingApprovals : List (UserApprovalPermission .incoming)
  deriving DecidableEq

end BadgeRights
