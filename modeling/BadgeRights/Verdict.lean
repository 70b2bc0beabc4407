import BadgeRights.Region

set_option autoImplicit false

namespace BadgeRights

inductive UpdateField where
  | collectionApprovals
  | incomingApprovals
  | outgoingApprovals
  | manager
  | collectionMetadata
  | badgeMetadata
  | offChainBalancesMetadata
  | standards
  | customData
  | isArchived
  | deleteCollection
  | permission (kind : PermissionKind)
  deriving DecidableEq

namespace UpdateField

def text : UpdateField → String
  | collectionApprovals => "collection approvals"
  | incomingApprovals => "incoming approvals"
  | outgoingApprovals => "outgoing approvals"
  | manager => "manager"
  | collectionMetadata => "collection metadata"
  | badgeMetadata => "badge metadata"
  | offChainBalancesMetadata => "off-chain balances metadata"
  | standards => "standards"
  | customData => "custom data"
  | isArchived => "archived status"
  | deleteCollection => "collection deletion"
  | permission kind => "permission " ++ kind.name

end UpdateField

inductive DenialKind where
  | forbidden
  | notPermitted
  | permanentTimesRemoved
  deriving DecidableEq

def DenialKind.text : DenialKind → String
  | forbidden => "Forbidden"
  | notPermitted => "NotPermitted"
  | permanentTimesRemoved => "PermanentTimesRemoved"

structure Denial where
  field : UpdateField
  kind : DenialKind
  region : Region
  deriving DecidableEq

def Denial.text (d : Denial) : String :=
  d.field.text ++ " update denied (" ++ d.kind.text ++ ") for " ++ d.region.text

inductive Verdict where
  | permitted
  | denied (denial : Denial)
  deriving DecidableEq

namespace Verdict

def isPermitted : Verdict → Bool
  | permitted => true
  | denied _ => false

def toChecked : Verdict → Checked Unit
  | permitted => .ok ()
  | denied d => refuse (.denied d.text)

end Verdict

end BadgeRights
