import BadgeRights.Codec.Declaration
import BadgeRights.Permission

set_option autoImplicit false

namespace BadgeRights

def Direction.partnerKey : Direction → String
  | .incoming => "fromListId"
  | .outgoing => "toListId"

namespace Codec

instance : Codec CollectionApproval where
  encode a := .object [
    ("fromListId", encode a.fromListId), ("toListId", encode a.toListId),
    ("initiatedByListId", encode a.terms.initiatedByListId),
    ("transferTimes", encode a.terms.transferTimes), ("badgeIds", encode a.terms.badgeIds),
    ("ownershipTimes", encode a.terms.ownershipTimes), ("approvalId", encode a.terms.approvalId),
    ("amountTrackerId", encode a.terms.amountTrackerId),
    ("challengeTrackerId", encode a.terms.challengeTrackerId), ("uri", encode a.body.uri),
    ("customData", encode a.body.customData),
    ("approvalCriteria", encode a.body.approvalCriteria)]
  decode :=
    record ["fromListId", "toListId", "initiatedByListId", "transferTimes", "badgeIds",
      "ownershipTimes", "approvalId", "amountTrackerId", "challengeTrackerId", "uri",
      "customData", "approvalCriteria"] fun f => do
      let amountTrackerId ← f.getD "amountTrackerId"
      let approvalCriteria ← f.getD "approvalCriteria"
      let approvalId ← f.getD "approvalId"
      let badgeIds ← f.getD "badgeIds"
      let challengeTrackerId ← f.getD "challengeTrackerId"
      let customData ← f.getD "customData"
      let fromListId ← f.getD "fromListId"
      let initiatedByListId ← f.getD "initiatedByListId"
      let ownershipTimes ← f.getD "ownershipTimes"
      let toListId ← f.getD "toListId"
      let transferTimes ← f.getD "transferTimes"
      let uri ← f.getD "uri"
      let terms : TransferTerms := {
        initiatedByListId, transferTimes, badgeIds, ownershipTimes,
        approvalId, amountTrackerId, challengeTrackerId }
      let body : ApprovalBody := { uri, customData, approvalCriteria }
      return { fromListId, toListId, terms, body }

/-- The list of the partner, if `direction` is the one in which it stands in the field of `place`. -/
def partnerIn (f : Fields) (direction place : Direction) : Decoded (Option String) :=
  if direction = place then (f.getD (direction.partnerKey)).map some else .ok none

instance {direction : Direction} : Codec (UserApproval direction) where
  encode a := .object [
    (direction.partnerKey, encode a.partnerListId),
    ("initiatedByListId", encode a.terms.initiatedByListId),
    ("transferTimes", encode a.terms.transferTimes), ("badgeIds", encode a.terms.badgeIds),
    ("ownershipTimes", encode a.terms.ownershipTimes), ("approvalId", encode a.terms.approvalId),
    ("amountTrackerId", encode a.terms.amountTrackerId),
    ("challengeTrackerId", encode a.terms.challengeTrackerId), ("uri", encode a.body.uri),
    ("customData", encode a.body.customData),
    ("approvalCriteria", encode a.body.approvalCriteria)]
  decode :=
    record (direction.partnerKey :: [
      "initiatedByListId", "transferTimes", "badgeIds", "ownershipTimes", "approvalId",
      "amountTrackerId", "challengeTrackerId", "uri", "customData",
      "approvalCriteria"]) fun f => do
      let amountTrackerId ← f.getD "amountTrackerId"
      let approvalCriteria ← f.getD "approvalCriteria"
      let approvalId ← f.getD "approvalId"
      let badgeIds ← f.getD "badgeIds"
      let challengeTrackerId ← f.getD "challengeTrackerId"
      let customData ← f.getD "customData"
      let sender ← partnerIn f direction .incoming
      let initiatedByListId ← f.getD "initiatedByListId"
      let ownershipTimes ← f.getD "ownershipTimes"
      let recipient ← partnerIn f direction .outgoing
      let transferTimes ← f.getD "transferTimes"
      let uri ← f.getD "uri"
      let partnerListId := (sender <|> recipient).getD ""
      let terms : TransferTerms := {
        initiatedByListId, transferTimes, badgeIds, ownershipTimes,
        approvalId, amountTrackerId, challengeTrackerId }
      let body : ApprovalBody := { uri, customData, approvalCriteria }
      return { partnerListId, terms, body }

instance : Codec ActionPermission where
  encode p := .object [
    ("permanentlyPermittedTimes", encode p.windows.permitted),
    ("permanentlyForbiddenTimes", encode p.windows.forbidden)]
  decode := record ["permanentlyPermittedTimes", "permanentlyForbiddenTimes"] fun f => do
    let permanentlyForbiddenTimes ← f.getD "permanentlyForbiddenTimes"
    let permanentlyPermittedTimes ← f.getD "permanentlyPermittedTimes"
    return ⟨⟨permanentlyPermittedTimes, permanentlyForbiddenTimes⟩⟩

instance : Codec TimedPermission where
  encode p := .object [
    ("timelineTimes", encode p.timelineTimes),
    ("permanentlyPermittedTimes", encode p.windows.permitted),
    ("permanentlyForbiddenTimes", encode p.windows.forbidden)]
  decode :=
    record ["timelineTimes", "permanentlyPermittedTimes", "permanentlyForbiddenTimes"] fun f => do
      let permanentlyForbiddenTimes ← f.getD "permanentlyForbiddenTimes"
      let permanentlyPermittedTimes ← f.getD "permanentlyPermittedTimes"
      let timelineTimes ← f.getD "timelineTimes"
      return ⟨timelineTimes, ⟨permanentlyPermittedTimes, permanentlyForbiddenTimes⟩⟩

instance : Codec BadgeTimedPermission where
  encode p := .object [
    ("timelineTimes", encode p.timelineTimes), ("badgeIds", encode p.badgeIds),
    ("permanentlyPermittedTimes", encode p.windows.permitted),
    ("permanentlyForbiddenTimes", encode p.windows.forbidden)]
  decode :=
    record ["timelineTimes", "badgeIds", "permanentlyPermittedTimes",
      "permanentlyForbiddenTimes"] fun f => do
      let badgeIds ← f.getD "badgeIds"
      let permanentlyForbiddenTimes ← f.getD "permanentlyForbiddenTimes"
      let permanentlyPermittedTimes ← f.getD "permanentlyPermittedTimes"
      let timelineTimes ← f.getD "timelineTimes"
      return ⟨timelineTimes, badgeIds, ⟨permanentlyPermittedTimes, permanentlyForbiddenTimes⟩⟩

instance : Codec ApprovalPermission where
  encode p := .object [
    ("fromListId", encode p.fromListId), ("toListId", encode p.toListId),
    ("initiatedByListId", encode p.terms.initiatedByListId),
    ("transferTimes", encode p.terms.transferTimes), ("badgeIds", encode p.terms.badgeIds),
    ("ownershipTimes", encode p.terms.ownershipTimes), ("approvalId", encode p.terms.approvalId),
    ("amountTrackerId", encode p.terms.amountTrackerId),
    ("challengeTrackerId", encode p.terms.challengeTrackerId),
    ("permanentlyPermittedTimes", encode p.windows.permitted),
    ("permanentlyForbiddenTimes", encode p.windows.forbidden)]
  decode :=
    record ["fromListId", "toListId", "initiatedByListId", "transferTimes", "badgeIds",
      "ownershipTimes", "approvalId", "amountTrackerId", "challengeTrackerId",
      "permanentlyPermittedTimes", "permanentlyForbiddenTimes"] fun f => do
      let amountTrackerId ← f.getD "amountTrackerId"
      let approvalId ← f.getD "approvalId"
      let badgeIds ← f.getD "badgeIds"
      let challengeTrackerId ← f.getD "challengeTrackerId"
      let fromListId ← f.getD "fromListId"
      let initiatedByListId ← f.getD "initiatedByListId"
      let ownershipTimes ← f.getD "ownershipTimes"
      let permanentlyForbiddenTimes ← f.getD "permanentlyForbiddenTimes"
      let permanentlyPermittedTimes ← f.getD "permanentlyPermittedTimes"
      let toListId ← f.getD "toListId"
      let transferTimes ← f.getD "transferTimes"
      let terms : TransferTerms := {
        initiatedByListId, transferTimes, badgeIds, ownershipTimes,
        approvalId, amountTrackerId, challengeTrackerId }
      let windows := Windows.mk permanentlyPermittedTimes permanentlyForbiddenTimes
      return { fromListId, toListId, terms, windows }

instance {direction : Direction} : Codec (UserApprovalPermission direction) where
  encode p := .object [
    (direction.partnerKey, encode p.partnerListId),
    ("initiatedByListId", encode p.terms.initiatedByListId),
    ("transferTimes", encode p.terms.transferTimes), ("badgeIds", encode p.terms.badgeIds),
    ("ownershipTimes", encode p.terms.ownershipTimes), ("approvalId", encode p.terms.approvalId),
    ("amountTrackerId", encode p.terms.amountTrackerId),
    ("challengeTrackerId", encode p.terms.challengeTrackerId),
    ("permanentlyPermittedTimes", encode p.windows.permitted),
    ("permanentlyForbiddenTimes", encode p.windows.forbidden)]
  decode :=
    record (direction.partnerKey :: [
      "initiatedByListId", "transferTimes", "badgeIds", "ownershipTimes", "approvalId",
      "amountTrackerId", "challengeTrackerId", "permanentlyPermittedTimes",
      "permanentlyForbiddenTimes"]) fun f => do
      let amountTrackerId ← f.getD "amountTrackerId"
      let approvalId ← f.getD "approvalId"
      let badgeIds ← f.getD "badgeIds"
      let challengeTrackerId ← f.getD "challengeTrackerId"
      let sender ← partnerIn f direction .incoming
      let initiatedByListId ← f.getD "initiatedByListId"
      let ownershipTimes ← f.getD "ownershipTimes"
      let permanentlyForbiddenTimes ← f.getD "permanentlyForbiddenTimes"
      let permanentlyPermittedTimes ← f.getD "permanentlyPermittedTimes"
      let recipient ← partnerIn f direction .outgoing
      let transferTimes ← f.getD "transferTimes"
      let partnerListId := (sender <|> recipient).getD ""
      let terms : TransferTerms := {
        initiatedByListId, transferTimes, badgeIds, ownershipTimes,
        approvalId, amountTrackerId, challengeTrackerId }
      let windows := Windows.mk permanentlyPermittedTimes permanentlyForbiddenTimes
      return { partnerListId, terms, windows }

instance : Codec CollectionPermissions where
  encode p := .object [
    ("canDeleteCollection", encode p.deleteCollection),
    ("canArchiveCollection", encode p.archiveCollection),
    ("canUpdateOffChainBalancesMetadata", encode p.updateOffChainBalancesMetadata),
    ("canUpdateStandards", encode p.updateStandards),
    ("canUpdateCustomData", encode p.updateCustomData),
    ("canUpdateManager", encode p.updateManager),
    ("canUpdateCollectionMetadata", encode p.updateCollectionMetadata),
    ("canUpdateBadgeMetadata", encode p.updateBadgeMetadata),
    ("canUpdateCollectionApprovals", encode p.updateCollectionApprovals)]
  decode :=
    record ["canDeleteCollection", "canArchiveCollection", "canUpdateOffChainBalancesMetadata",
      "canUpdateStandards", "canUpdateCustomData", "canUpdateManager",
      "canUpdateCollectionMetadata", "canUpdateBadgeMetadata",
      "canUpdateCollectionApprovals"] fun f => do
      let canArchiveCollection ← f.getD "canArchiveCollection"
      let canDeleteCollection ← f.getD "canDeleteCollection"
      let canUpdateBadgeMetadata ← f.getD "canUpdateBadgeMetadata"
      let canUpdateCollectionApprovals ← f.getD "canUpdateCollectionApprovals"
      let canUpdateCollectionMetadata ← f.getD "canUpdateCollectionMetadata"
      let canUpdateCustomData ← f.getD "canUpdateCustomData"
      let canUpdateManager ← f.getD "canUpdateManager"
      let canUpdateOffChainBalancesMetadata ← f.getD "canUpdateOffChainBalancesMetadata"
      let canUpdateStandards ← f.getD "canUpdateStandards"
      return {
        deleteCollection := canDeleteCollection, archiveCollection := canArchiveCollection,
        updateOffChainBalancesMetadata := canUpdateOffChainBalancesMetadata,
        updateStandards := canUpdateStandards, updateCustomData := canUpdateCustomData,
        updateManager := canUpdateManager,
        updateCollectionMetadata := canUpdateCollectionMetadata,
        updateBadgeMetadata := canUpdateBadgeMetadata,
        updateCollectionApprovals := canUpdateCollectionApprovals }

instance : Codec UserPermissions where
  encode p := .object [
    ("canUpdateOutgoingApprovals", encode p.updateOutgoingApprovals),
    ("canUpdateIncomingApprovals", encode p.updateIncomingApprovals)]
  decode := record ["canUpdateOutgoingApprovals", "canUpdateIncomingApprovals"] fun f => do
    let canUpdateIncomingApprovals ← f.getD "canUpdateIncomingApprovals"
    let canUpdateOutgoingApprovals ← f.getD "canUpdateOutgoingApprovals"
    return {
      updateOutgoingApprovals := canUpdateOutgoingApprovals,
      updateIncomingApprovals := canUpdateIncomingApprovals }

end Codec

end BadgeRights
