import BadgeRights.Flattening
import BadgeRights.Address.Resolver
import BadgeRights.Span.Check

set_option autoImplicit false

namespace BadgeRights

structure TransferTerms where
  initiatedByListId : String
  transferTimes : List Span
  badgeIds : List Span
  ownershipTimes : List Span
  approvalId : String
  amountTrackerId : String
  challengeTrackerId : String
  deriving DecidableEq, Inhabited

structure ApprovalBody where
  uri : String
  customData : String
  approvalCriteria : Option Criteria
  deriving DecidableEq, Inhabited

structure CollectionApproval where
  fromListId : String
  toListId : String
  terms : TransferTerms
  body : ApprovalBody
  deriving DecidableEq, Inhabited

/-- Which side of a transfer a user is on: incoming transfers have the user as the recipient,
outgoing ones as the sender. -/
inductive Direction where
  | incoming
  | outgoing
  deriving DecidableEq

def Direction.permissionKind : Direction → PermissionKind
  | incoming => .updateIncomingApprovals
  | outgoing => .updateOutgoingApprovals

structure UserApproval (direction : Direction) where
  partnerListId : String
  terms : TransferTerms
  body : ApprovalBody
  deriving DecidableEq, Inhabited

def Direction.parties (user partner : String) : Direction → String × String
  | incoming => (partner, user)
  | outgoing => (user, partner)

def UserApproval.pin {direction : Direction} (user : String) (a : UserApproval direction) :
    CollectionApproval :=
  let (sender, recipient) := direction.parties user a.partnerListId
  ⟨sender, recipient, a.terms, a.body⟩

structure ExpandedApproval where
  fromList : AddressList
  toList : AddressList
  initiatedByList : AddressList
  transferTimes : List Span
  badgeIds : List Span
  ownershipTimes : List Span
  amountTrackerId : String
  challengeTrackerId : String
  value : ApprovalValue
  deriving DecidableEq

def anyId : String := "All"

def AddressList.ofId (id : String) : AddressList :=
  if id = "" ∨ id = anyId then everyone else only [id]

namespace ExpandedApproval

def declaration (a : ExpandedApproval) (payload : Payload) : Declaration :=
  { Declaration.everywhere payload with
    badgeIds := a.badgeIds
    transferTimes := a.transferTimes
    ownershipTimes := a.ownershipTimes
    toList := a.toList
    fromList := a.fromList
    initiatedByList := a.initiatedByList }

def toDeclaration (a : ExpandedApproval) : Declaration :=
  { a.declaration (.approval a.value) with
    approvalIdList := .only [a.value.approvalId]
    amountTrackerIdList := .ofId a.amountTrackerId
    challengeTrackerIdList := .ofId a.challengeTrackerId }

def toCriteriaDeclaration (a : ExpandedApproval) : Declaration :=
  a.declaration (.criteria (.single a.value.approvalCriteria))

def criteriaStacks (approvals : List ExpandedApproval) : List Detail :=
  flatten (approvals.map toCriteriaDeclaration)

end ExpandedApproval

namespace CollectionApproval

def mergedSpans (spans : List Span) : Checked (List Span) := do
  Spans.validate spans
  return Spans.merge spans

def expandOne (resolve : Resolver) (a : CollectionApproval) : Checked ExpandedApproval := do
  let fromList ← resolve a.fromListId
  let toList ← resolve a.toListId
  let initiatedByList ← resolve a.terms.initiatedByListId
  let transferTimes ← mergedSpans a.terms.transferTimes
  let badgeIds ← mergedSpans a.terms.badgeIds
  let ownershipTimes ← mergedSpans a.terms.ownershipTimes
  return {
    fromList, toList, initiatedByList, transferTimes, badgeIds, ownershipTimes
    amountTrackerId := a.terms.amountTrackerId
    challengeTrackerId := a.terms.challengeTrackerId
    value := ⟨a.terms.approvalId, a.body.uri, a.body.customData,
      a.body.approvalCriteria.getD default⟩ }

def checkId (seen : List String) (id : String) : Checked Unit :=
  if id = "" ∨ id = anyId then refuse (.approvalIdNotAllowed id)
  else if id ∈ seen then refuse (.duplicateApprovalId id)
  else .ok ()

def expandAfter (resolve : Resolver) (seen : List String) :
    List CollectionApproval → Checked (List ExpandedApproval)
  | [] => .ok []
  | a :: rest => do
      checkId seen a.terms.approvalId
      let first ← expandOne resolve a
      let others ← expandAfter resolve (a.terms.approvalId :: seen) rest
      return first :: others

def expand (resolve : Resolver) (approvals : List CollectionApproval) :
    Checked (List ExpandedApproval) :=
  expandAfter resolve [] approvals

end CollectionApproval

end BadgeRights
