import BadgeRights.Span

set_option autoImplicit false

namespace BadgeRights

structure MustOwnBadges where
  collectionId : Nat
  amountRange : Option Span
  ownershipTimes : List Span
  badgeIds : List Span
  overrideWithCurrentTime : Bool
  mustSatisfyForAllAssets : Bool
  deriving DecidableEq, Inhabited

structure MerkleChallenge where
  root : String
  expectedProofLength : Nat
  useCreatorAddressAsLeaf : Bool
  maxUsesPerLeaf : Nat
  uri : String
  customData : String
  challengeTrackerId : String
  deriving DecidableEq, Inhabited

structure Balance where
  amount : Nat
  badgeIds : List Span
  ownershipTimes : List Span
  deriving DecidableEq, Inhabited

structure ManualBalances where
  balances : List Balance
  deriving DecidableEq, Inhabited

structure IncrementedBalances where
  startBalances : List Balance
  incrementBadgeIdsBy : Nat
  incrementOwnershipTimesBy : Nat
  deriving DecidableEq, Inhabited

structure OrderCalculation where
  useOverallNumTransfers : Bool
  usePerToAddressNumTransfers : Bool
  usePerFromAddressNumTransfers : Bool
  usePerInitiatedByAddressNumTransfers : Bool
  useMerkleChallengeLeafIndex : Bool
  challengeTrackerId : String
  deriving DecidableEq, Inhabited

structure PredeterminedBalances where
  manualBalances : List ManualBalances
  incrementedBalances : Option IncrementedBalances
  orderCalculationMethod : OrderCalculation
  deriving DecidableEq, Inhabited

structure ApprovalAmounts where
  overallApprovalAmount : Nat
  perToAddressApprovalAmount : Nat
  perFromAddressApprovalAmount : Nat
  perInitiatedByAddressApprovalAmount : Nat
  amountTrackerId : String
  deriving DecidableEq, Inhabited

structure MaxNumTransfers where
  overallMaxNumTransfers : Nat
  perToAddressMaxNumTransfers : Nat
  perFromAddressMaxNumTransfers : Nat
  perInitiatedByAddressMaxNumTransfers : Nat
  amountTrackerId : String
  deriving DecidableEq, Inhabited

structure Coin where
  denom : String
  amount : Nat
  deriving DecidableEq, Inhabited

structure CoinTransfer where
  recipient : String
  coins : List Coin
  deriving DecidableEq, Inhabited

structure ZkProof where
  verificationKey : String
  uri : String
  customData : String
  zkProofTrackerId : String
  deriving DecidableEq, Inhabited

structure Criteria where
  mustOwnBadges : List MustOwnBadges
  merkleChallenges : List MerkleChallenge
  predeterminedBalances : Option PredeterminedBalances
  approvalAmounts : Option ApprovalAmounts
  maxNumTransfers : Option MaxNumTransfers
  coinTransfers : List CoinTransfer
  zkProofs : List ZkProof
  requireToEqualsInitiatedBy : Bool
  requireFromEqualsInitiatedBy : Bool
  requireToDoesNotEqualInitiatedBy : Bool
  requireFromDoesNotEqualInitiatedBy : Bool
  overrideFromOutgoingApprovals : Bool
  overrideToIncomingApprovals : Bool
  deriving DecidableEq, Inhabited

def Criteria.isSatisfiable (c : Criteria) : Bool :=
  !(c.requireToEqualsInitiatedBy && c.requireToDoesNotEqualInitiatedBy ||
    c.requireFromEqualsInitiatedBy && c.requireFromDoesNotEqualInitiatedBy)

structure CriteriaStack where
  criteria : List Criteria
  isApproved : Bool
  deriving DecidableEq, Inhabited

namespace CriteriaStack

def single (c : Criteria) : CriteriaStack := ⟨[c], c.isSatisfiable⟩

def stacked (earlier later : CriteriaStack) : CriteriaStack :=
  ⟨earlier.criteria ++ later.criteria, earlier.isApproved && later.isApproved⟩

end CriteriaStack

end BadgeRights
