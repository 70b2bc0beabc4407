import BadgeRights.Codec.Values
import BadgeRights.Criteria

set_option autoImplicit false

namespace BadgeRights.Codec

instance : Codec MustOwnBadges where
  encode c := .object [
    ("collectionId", encode c.collectionId), ("amountRange", encode c.amountRange),
    ("ownershipTimes", encode c.ownershipTimes), ("badgeIds", encode c.badgeIds),
    ("overrideWithCurrentTime", encode c.overrideWithCurrentTime),
    ("mustSatisfyForAllAssets", encode c.mustSatisfyForAllAssets)]
  decode :=
    record ["collectionId", "amountRange", "ownershipTimes", "badgeIds",
      "overrideWithCurrentTime", "mustSatisfyForAllAssets"] fun f => do
      let amountRange ← f.getD "amountRange"
      let badgeIds ← f.getD "badgeIds"
      let collectionId ← f.getD "collectionId"
      let mustSatisfyForAllAssets ← f.getD "mustSatisfyForAllAssets"
      let overrideWithCurrentTime ← f.getD "overrideWithCurrentTime"
      let ownershipTimes ← f.getD "ownershipTimes"
      return {
        collectionId, amountRange, ownershipTimes, badgeIds, overrideWithCurrentTime,
        mustSatisfyForAllAssets }

instance : Codec MerkleChallenge where
  encode c := .object [
    ("root", encode c.root), ("expectedProofLength", encode c.expectedProofLength),
    ("useCreatorAddressAsLeaf", encode c.useCreatorAddressAsLeaf),
    ("maxUsesPerLeaf", encode c.maxUsesPerLeaf), ("uri", encode c.uri),
    ("customData", encode c.customData), ("challengeTrackerId", encode c.challengeTrackerId)]
  decode :=
    record ["root", "expectedProofLength", "useCreatorAddressAsLeaf", "maxUsesPerLeaf", "uri",
      "customData", "challengeTrackerId"] fun f => do
      let challengeTrackerId ← f.getD "challengeTrackerId"
      let customData ← f.getD "customData"
      let expectedProofLength ← f.getD "expectedProofLength"
      let maxUsesPerLeaf ← f.getD "maxUsesPerLeaf"
      let root ← f.getD "root"
      let uri ← f.getD "uri"
      let useCreatorAddressAsLeaf ← f.getD "useCreatorAddressAsLeaf"
      return {
        root, expectedProofLength, useCreatorAddressAsLeaf, maxUsesPerLeaf, uri, customData,
        challengeTrackerId }

instance : Codec Balance where
  encode c := .object [
    ("amount", encode c.amount), ("badgeIds", encode c.badgeIds),
    ("ownershipTimes", encode c.ownershipTimes)]
  decode := record ["amount", "badgeIds", "ownershipTimes"] fun f => do
    let amount ← f.getD "amount"
    let badgeIds ← f.getD "badgeIds"
    let ownershipTimes ← f.getD "ownershipTimes"
    return { amount, badgeIds, ownershipTimes }

instance : Codec ManualBalances where
  encode c := .object [("balances", encode c.balances)]
  decode := record ["balances"] fun f => do
    let balances ← f.getD "balances"
    return { balances }

instance : Codec IncrementedBalances where
  encode c := .object [
    ("startBalances", encode c.startBalances),
    ("incrementBadgeIdsBy", encode c.incrementBadgeIdsBy),
    ("incrementOwnershipTimesBy", encode c.incrementOwnershipTimesBy)]
  decode := record ["startBalances", "incrementBadgeIdsBy", "incrementOwnershipTimesBy"] fun f => do
    let incrementBadgeIdsBy ← f.getD "incrementBadgeIdsBy"
    let incrementOwnershipTimesBy ← f.getD "incrementOwnershipTimesBy"
    let startBalances ← f.getD "startBalances"
    return { startBalances, incrementBadgeIdsBy, incrementOwnershipTimesBy }

instance : Codec OrderCalculation where
  encode c := .object [
    ("useOverallNumTransfers", encode c.useOverallNumTransfers),
    ("usePerToAddressNumTransfers", encode c.usePerToAddressNumTransfers),
    ("usePerFromAddressNumTransfers", encode c.usePerFromAddressNumTransfers),
    ("usePerInitiatedByAddressNumTransfers", encode c.usePerInitiatedByAddressNumTransfers),
    ("useMerkleChallengeLeafIndex", encode c.useMerkleChallengeLeafIndex),
    ("challengeTrackerId", encode c.challengeTrackerId)]
  decode :=
    record ["useOverallNumTransfers", "usePerToAddressNumTransfers",
      "usePerFromAddressNumTransfers", "usePerInitiatedByAddressNumTransfers",
      "useMerkleChallengeLeafIndex", "challengeTrackerId"] fun f => do
      let challengeTrackerId ← f.getD "challengeTrackerId"
      let useMerkleChallengeLeafIndex ← f.getD "useMerkleChallengeLeafIndex"
      let useOverallNumTransfers ← f.getD "useOverallNumTransfers"
      let usePerFromAddressNumTransfers ← f.getD "usePerFromAddressNumTransfers"
      let usePerInitiatedByAddressNumTransfers ← f.getD "usePerInitiatedByAddressNumTransfers"
      let usePerToAddressNumTransfers ← f.getD "usePerToAddressNumTransfers"
      return {
        useOverallNumTransfers, usePerToAddressNumTransfers, usePerFromAddressNumTransfers,
        usePerInitiatedByAddressNumTransfers, useMerkleChallengeLeafIndex, challengeTrackerId }

instance : Codec PredeterminedBalances where
  encode c := .object [
    ("manualBalances", encode c.manualBalances),
    ("incrementedBalances", encode c.incrementedBalances),
    ("orderCalculationMethod", encode c.orderCalculationMethod)]
  decode := record ["manualBalances", "incrementedBalances", "orderCalculationMethod"] fun f => do
    let incrementedBalances ← f.getD "incrementedBalances"
    let manualBalances ← f.getD "manualBalances"
    let orderCalculationMethod ← f.getD "orderCalculationMethod"
    return { manualBalances, incrementedBalances, orderCalculationMethod }

instance : Codec ApprovalAmounts where
  encode c := .object [
    ("overallApprovalAmount", encode c.overallApprovalAmount),
    ("perToAddressApprovalAmount", encode c.perToAddressApprovalAmount),
    ("perFromAddressApprovalAmount", encode c.perFromAddressApprovalAmount),
    ("perInitiatedByAddressApprovalAmount", encode c.perInitiatedByAddressApprovalAmount),
    ("amountTrackerId", encode c.amountTrackerId)]
  decode :=
    record ["overallApprovalAmount", "perToAddressApprovalAmount", "perFromAddressApprovalAmount",
      "perInitiatedByAddressApprovalAmount", "amountTrackerId"] fun f => do
      let amountTrackerId ← f.getD "amountTrackerId"
      let overallApprovalAmount ← f.getD "overallApprovalAmount"
      let perFromAddressApprovalAmount ← f.getD "perFromAddressApprovalAmount"
      let perInitiatedByAddressApprovalAmount ← f.getD "perInitiatedByAddressApprovalAmount"
      let perToAddressApprovalAmount ← f.getD "perToAddressApprovalAmount"
      return {
        overallApprovalAmount, perToAddressApprovalAmount, perFromAddressApprovalAmount,
        perInitiatedByAddressApprovalAmount, amountTrackerId }

instance : Codec MaxNumTransfers where
  encode c := .object [
    ("overallMaxNumTransfers", encode c.overallMaxNumTransfers),
    ("perToAddressMaxNumTransfers", encode c.perToAddressMaxNumTransfers),
    ("perFromAddressMaxNumTransfers", encode c.perFromAddressMaxNumTransfers),
    ("perInitiatedByAddressMaxNumTransfers", encode c.perInitiatedByAddressMaxNumTransfers),
    ("amountTrackerId", encode c.amountTrackerId)]
  decode :=
    record ["overallMaxNumTransfers", "perToAddressMaxNumTransfers",
      "perFromAddressMaxNumTransfers", "perInitiatedByAddressMaxNumTransfers",
      "amountTrackerId"] fun f => do
      let amountTrackerId ← f.getD "amountTrackerId"
      let overallMaxNumTransfers ← f.getD "overallMaxNumTransfers"
      let perFromAddressMaxNumTransfers ← f.getD "perFromAddressMaxNumTransfers"
      let perInitiatedByAddressMaxNumTransfers ← f.getD "perInitiatedByAddressMaxNumTransfers"
      let perToAddressMaxNumTransfers ← f.getD "perToAddressMaxNumTransfers"
      return {
        overallMaxNumTransfers, perToAddressMaxNumTransfers, perFromAddressMaxNumTransfers,
        perInitiatedByAddressMaxNumTransfers, amountTrackerId }

instance : Codec Coin where
  encode c := .object [("denom", encode c.denom), ("amount", encode c.amount)]
  decode := record ["denom", "amount"] fun f => do
    let amount ← f.getD "amount"
    let denom ← f.getD "denom"
    return { denom, amount }

instance : Codec CoinTransfer where
  encode c := .object [("to", encode c.recipient), ("coins", encode c.coins)]
  decode := record ["to", "coins"] fun f => do
    let coins ← f.getD "coins"
    let recipient ← f.getD "to"
    return { recipient, coins }

instance : Codec ZkProof where
  encode c := .object [
    ("verificationKey", encode c.verificationKey), ("uri", encode c.uri),
    ("customData", encode c.customData), ("zkProofTrackerId", encode c.zkProofTrackerId)]
  decode := record ["verificationKey", "uri", "customData", "zkProofTrackerId"] fun f => do
    let customData ← f.getD "customData"
    let uri ← f.getD "uri"
    let verificationKey ← f.getD "verificationKey"
    let zkProofTrackerId ← f.getD "zkProofTrackerId"
    return { verificationKey, uri, customData, zkProofTrackerId }

instance : Codec Criteria where
  encode c := .object [
    ("mustOwnBadges", encode c.mustOwnBadges), ("merkleChallenges", encode c.merkleChallenges),
    ("predeterminedBalances", encode c.predeterminedBalances),
    ("approvalAmounts", encode c.approvalAmounts), ("maxNumTransfers", encode c.maxNumTransfers),
    ("coinTransfers", encode c.coinTransfers), ("zkProofs", encode c.zkProofs),
    ("requireToEqualsInitiatedBy", encode c.requireToEqualsInitiatedBy),
    ("requireFromEqualsInitiatedBy", encode c.requireFromEqualsInitiatedBy),
    ("requireToDoesNotEqualInitiatedBy", encode c.requireToDoesNotEqualInitiatedBy),
    ("requireFromDoesNotEqualInitiatedBy", encode c.requireFromDoesNotEqualInitiatedBy),
    ("overrideFromOutgoingApprovals", encode c.overrideFromOutgoingApprovals),
    ("overrideToIncomingApprovals", encode c.overrideToIncomingApprovals)]
  decode :=
    record ["mustOwnBadges", "merkleChallenges", "predeterminedBalances", "approvalAmounts",
      "maxNumTransfers", "coinTransfers", "zkProofs", "requireToEqualsInitiatedBy",
      "requireFromEqualsInitiatedBy", "requireToDoesNotEqualInitiatedBy",
      "requireFromDoesNotEqualInitiatedBy", "overrideFromOutgoingApprovals",
      "overrideToIncomingApprovals"] fun f => do
      let approvalAmounts ← f.getD "approvalAmounts"
      let coinTransfers ← f.getD "coinTransfers"
      let maxNumTransfers ← f.getD "maxNumTransfers"
      let merkleChallenges ← f.getD "merkleChallenges"
      let mustOwnBadges ← f.getD "mustOwnBadges"
      let overrideFromOutgoingApprovals ← f.getD "overrideFromOutgoingApprovals"
      let overrideToIncomingApprovals ← f.getD "overrideToIncomingApprovals"
      let predeterminedBalances ← f.getD "predeterminedBalances"
      let requireFromDoesNotEqualInitiatedBy ← f.getD "requireFromDoesNotEqualInitiatedBy"
      let requireFromEqualsInitiatedBy ← f.getD "requireFromEqualsInitiatedBy"
      let requireToDoesNotEqualInitiatedBy ← f.getD "requireToDoesNotEqualInitiatedBy"
      let requireToEqualsInitiatedBy ← f.getD "requireToEqualsInitiatedBy"
      let zkProofs ← f.getD "zkProofs"
      return {
        mustOwnBadges, merkleChallenges, predeterminedBalances, approvalAmounts, maxNumTransfers,
        coinTransfers, zkProofs, requireToEqualsInitiatedBy, requireFromEqualsInitiatedBy,
        requireToDoesNotEqualInitiatedBy, requireFromDoesNotEqualInitiatedBy,
        overrideFromOutgoingApprovals, overrideToIncomingApprovals }

instance : Codec CriteriaStack where
  encode c := .object [("criteria", encode c.criteria), ("isApproved", encode c.isApproved)]
  decode := record ["criteria", "isApproved"] fun f => do
    let criteria ← f.get? "criteria"
    let isApproved ← f.get? "isApproved"
    return { criteria := ← required criteria, isApproved := ← required isApproved }

end BadgeRights.Codec
