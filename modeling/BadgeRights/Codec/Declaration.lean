import BadgeRights.Codec.Criteria
import BadgeRights.Declaration

set_option autoImplicit false

namespace BadgeRights.Codec

instance : Codec Region where
  encode r := .object [
    ("badgeIds", encode r.badgeIds), ("timelineTimes", encode r.timelineTimes),
    ("transferTimes", encode r.transferTimes), ("ownershipTimes", encode r.ownershipTimes),
    ("toList", encode r.toList), ("fromList", encode r.fromList),
    ("initiatedByList", encode r.initiatedByList), ("approvalIdList", encode r.approvalIdList),
    ("amountTrackerIdList", encode r.amountTrackerIdList),
    ("challengeTrackerIdList", encode r.challengeTrackerIdList)]
  decode :=
    record ["badgeIds", "timelineTimes", "transferTimes", "ownershipTimes", "toList", "fromList",
      "initiatedByList", "approvalIdList", "amountTrackerIdList",
      "challengeTrackerIdList"] fun f => do
      let amountTrackerIdList ← f.get? "amountTrackerIdList"
      let approvalIdList ← f.get? "approvalIdList"
      let badgeIds ← f.get? "badgeIds"
      let challengeTrackerIdList ← f.get? "challengeTrackerIdList"
      let fromList ← f.get? "fromList"
      let initiatedByList ← f.get? "initiatedByList"
      let ownershipTimes ← f.get? "ownershipTimes"
      let timelineTimes ← f.get? "timelineTimes"
      let toList ← f.get? "toList"
      let transferTimes ← f.get? "transferTimes"
      return {
        badgeIds := ← required badgeIds, timelineTimes := ← required timelineTimes,
        transferTimes := ← required transferTimes, ownershipTimes := ← required ownershipTimes,
        toList := ← required toList, fromList := ← required fromList,
        initiatedByList := ← required initiatedByList,
        approvalIdList := ← required approvalIdList,
        amountTrackerIdList := ← required amountTrackerIdList,
        challengeTrackerIdList := ← required challengeTrackerIdList }

instance : Codec ApprovalValue where
  encode v := .object [
    ("approvalId", encode v.approvalId), ("uri", encode v.uri),
    ("customData", encode v.customData), ("approvalCriteria", encode v.approvalCriteria)]
  decode := record ["approvalId", "uri", "customData", "approvalCriteria"] fun f => do
    let approvalCriteria ← f.get? "approvalCriteria"
    let approvalId ← f.get? "approvalId"
    let customData ← f.get? "customData"
    let uri ← f.get? "uri"
    return {
      approvalId := ← required approvalId, uri := ← required uri,
      customData := ← required customData, approvalCriteria := ← required approvalCriteria }

def payloadTagging : Tagging :=
  ⟨["empty", "value", "approval", "criteria"], "kind", "value"⟩

instance : Codec Payload where
  encode
    | .empty => .object [("kind", .text "empty")]
    | .value v => .object [("kind", .text "value"), ("value", encode v)]
    | .approval v => .object [("kind", .text "approval"), ("value", encode v)]
    | .criteria v => .object [("kind", .text "criteria"), ("value", encode v)]
  decode := payloadTagging.read .strict fun _ tag value => do
    match tag with
    | "empty" => noContent .empty value
    | "value" => return .value (← content value)
    | "approval" => return .approval (← content value)
    | "criteria" => return .criteria (← content value)
    | _ => .error .mismatch

instance : Codec Detail where
  encode d := .object [
    ("region", encode d.region), ("permanentlyPermittedTimes", encode d.windows.permitted),
    ("permanentlyForbiddenTimes", encode d.windows.forbidden), ("payload", encode d.payload)]
  decode :=
    record ["region", "permanentlyPermittedTimes", "permanentlyForbiddenTimes",
      "payload"] fun f => do
      let payload ← f.get? "payload"
      let permanentlyForbiddenTimes ← f.get? "permanentlyForbiddenTimes"
      let permanentlyPermittedTimes ← f.get? "permanentlyPermittedTimes"
      let region ← f.get? "region"
      let region ← required region
      let permitted ← required permanentlyPermittedTimes
      let forbidden ← required permanentlyForbiddenTimes
      return { region, windows := ⟨permitted, forbidden⟩, payload := ← required payload }

instance : Codec Declaration where
  encode d := .object [
    ("badgeIds", encode d.badgeIds), ("timelineTimes", encode d.timelineTimes),
    ("transferTimes", encode d.transferTimes), ("ownershipTimes", encode d.ownershipTimes),
    ("toList", encode d.toList), ("fromList", encode d.fromList),
    ("initiatedByList", encode d.initiatedByList), ("approvalIdList", encode d.approvalIdList),
    ("amountTrackerIdList", encode d.amountTrackerIdList),
    ("challengeTrackerIdList", encode d.challengeTrackerIdList),
    ("permanentlyPermittedTimes", encode d.windows.permitted),
    ("permanentlyForbiddenTimes", encode d.windows.forbidden), ("payload", encode d.payload)]
  decode :=
    record ["badgeIds", "timelineTimes", "transferTimes", "ownershipTimes", "toList", "fromList",
      "initiatedByList", "approvalIdList", "amountTrackerIdList", "challengeTrackerIdList",
      "permanentlyPermittedTimes", "permanentlyForbiddenTimes", "payload"] fun f => do
      let amountTrackerIdList ← f.get? "amountTrackerIdList"
      let approvalIdList ← f.get? "approvalIdList"
      let badgeIds ← f.get? "badgeIds"
      let challengeTrackerIdList ← f.get? "challengeTrackerIdList"
      let fromList ← f.get? "fromList"
      let initiatedByList ← f.get? "initiatedByList"
      let ownershipTimes ← f.get? "ownershipTimes"
      let payload ← f.get? "payload"
      let permanentlyForbiddenTimes ← f.get? "permanentlyForbiddenTimes"
      let permanentlyPermittedTimes ← f.get? "permanentlyPermittedTimes"
      let timelineTimes ← f.get? "timelineTimes"
      let toList ← f.get? "toList"
      let transferTimes ← f.get? "transferTimes"
      return {
        badgeIds := ← required badgeIds
        timelineTimes := ← required timelineTimes
        transferTimes := ← required transferTimes
        ownershipTimes := ← required ownershipTimes
        toList := ← required toList
        fromList := ← required fromList
        initiatedByList := ← required initiatedByList
        approvalIdList := ← required approvalIdList
        amountTrackerIdList := ← required amountTrackerIdList
        challengeTrackerIdList := ← required challengeTrackerIdList
        windows := ⟨← required permanentlyPermittedTimes, ← required permanentlyForbiddenTimes⟩
        payload := ← required payload }

end BadgeRights.Codec
