set_option autoImplicit false

namespace BadgeRights

inductive PermissionKind where
  | deleteCollection
  | archiveCollection
  | updateOffChainBalancesMetadata
  | updateStandards
  | updateCustomData
  | updateManager
  | updateCollectionMetadata
  | updateBadgeMetadata
  | updateCollectionApprovals
  | updateIncomingApprovals
  | updateOutgoingApprovals
  deriving DecidableEq, Inhabited

namespace PermissionKind

def name : PermissionKind → String
  | deleteCollection => "canDeleteCollection"
  | archiveCollection => "canArchiveCollection"
  | updateOffChainBalancesMetadata => "canUpdateOffChainBalancesMetadata"
  | updateStandards => "canUpdateStandards"
  | updateCustomData => "canUpdateCustomData"
  | updateManager => "canUpdateManager"
  | updateCollectionMetadata => "canUpdateCollectionMetadata"
  | updateBadgeMetadata => "canUpdateBadgeMetadata"
  | updateCollectionApprovals => "canUpdateCollectionApprovals"
  | updateIncomingApprovals => "canUpdateIncomingApprovals"
  | updateOutgoingApprovals => "canUpdateOutgoingApprovals"

def all : List PermissionKind :=
  [deleteCollection, archiveCollection, updateOffChainBalancesMetadata, updateStandards,
    updateCustomData, updateManager, updateCollectionMetadata, updateBadgeMetadata,
    updateCollectionApprovals, updateIncomingApprovals, updateOutgoingApprovals]

end PermissionKind

end BadgeRights
