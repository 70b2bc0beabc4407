import BadgeRights.Codec.Permission
import BadgeRights.Codec.Settings
import BadgeRights.Codec.Verdict
import BadgeRights.Proofs.Codec

set_option autoImplicit false

namespace BadgeRights.Codec

open Outline

section Values

instance : RecordCodec Span where
  fields := [.required "start" (·.start), .required "end" (·.stop)]

instance : RecordCodec AddressList where
  fields := [
    .optional "listId" (·.listId), .optional "addresses" (·.addresses),
    .required "whitelist" (·.whitelist), .optional "uri" (·.uri),
    .optional "customData" (·.customData), .optional "createdBy" (·.createdBy)]

instance {V : Type} [Codec V] [LawfulCodec V] : RecordCodec (TimelineItem V) where
  fields := [.required "timelineTimes" (·.times), .required "value" (·.value)]
  distinct := by simp [Field.name]

instance : RecordCodec Metadata where
  fields := [.optional "uri" (·.uri), .optional "customData" (·.customData)]

instance : RecordCodec BadgeMetadata where
  fields := [
    .optional "uri" (·.uri), .optional "customData" (·.customData),
    .optional "badgeIds" (·.badgeIds)]

instance : LawfulCodec FieldValue where
  outline
    | .text v => fieldValueTagging.outline "text" (some (outline v))
    | .flag v => fieldValueTagging.outline "flag" (some (outline v))
    | .texts v => fieldValueTagging.outline "texts" (some (outline v))
    | .metadata v => fieldValueTagging.outline "metadata" (some (outline v))
  json_outline v := by
    cases v <;> simp only [Tagging.outline, json, jsonEntries, json_outline] <;> rfl
  decode_of_allows {v j} allowed := by
    cases v <;>
      exact Tagging.read_content (by decide) (by decide) decode_of_allows (fun _ => rfl) allowed

@[simp] theorem faultClass?_faultClassName (cls : FaultClass) :
    faultClass? (faultClassName cls) = some cls := by
  cases cls <;> rfl

instance : LawfulCodec Fault where
  outline f :=
    .object [(faultClassName f.cls, false, .object [("message", false, outline f.message)])]
  json_outline _ := rfl
  decode_of_allows {f j} allowed := by
    obtain ⟨_, rfl, inner⟩ := single_of_allows allowed
    obtain ⟨message, rfl, shown⟩ := single_of_allows inner
    have found : Fields.get? [("message", message)] "message" = .ok (some f.message) :=
      Field.get?_eq rfl (decode_of_allows shown)
    simp only [decode, faultClass?_faultClassName, found]
    rfl

end Values

section Criteria

instance : RecordCodec MustOwnBadges where
  fields := [
    .optional "collectionId" (·.collectionId), .optional "amountRange" (·.amountRange),
    .optional "ownershipTimes" (·.ownershipTimes), .optional "badgeIds" (·.badgeIds),
    .optional "overrideWithCurrentTime" (·.overrideWithCurrentTime),
    .optional "mustSatisfyForAllAssets" (·.mustSatisfyForAllAssets)]

instance : RecordCodec MerkleChallenge where
  fields := [
    .optional "root" (·.root), .optional "expectedProofLength" (·.expectedProofLength),
    .optional "useCreatorAddressAsLeaf" (·.useCreatorAddressAsLeaf),
    .optional "maxUsesPerLeaf" (·.maxUsesPerLeaf), .optional "uri" (·.uri),
    .optional "customData" (·.customData), .optional "challengeTrackerId" (·.challengeTrackerId)]

instance : RecordCodec Balance where
  fields := [
    .optional "amount" (·.amount), .optional "badgeIds" (·.badgeIds),
    .optional "ownershipTimes" (·.ownershipTimes)]

instance : RecordCodec ManualBalances where
  fields := [.optional "balances" (·.balances)]

instance : RecordCodec IncrementedBalances where
  fields := [
    .optional "startBalances" (·.startBalances),
    .optional "incrementBadgeIdsBy" (·.incrementBadgeIdsBy),
    .optional "incrementOwnershipTimesBy" (·.incrementOwnershipTimesBy)]

instance : RecordCodec OrderCalculation where
  fields := [
    .optional "useOverallNumTransfers" (·.useOverallNumTransfers),
    .optional "usePerToAddressNumTransfers" (·.usePerToAddressNumTransfers),
    .optional "usePerFromAddressNumTransfers" (·.usePerFromAddressNumTransfers),
    .optional "usePerInitiatedByAddressNumTransfers" (·.usePerInitiatedByAddressNumTransfers),
    .optional "useMerkleChallengeLeafIndex" (·.useMerkleChallengeLeafIndex),
    .optional "challengeTrackerId" (·.challengeTrackerId)]

instance : RecordCodec PredeterminedBalances where
  fields := [
    .optional "manualBalances" (·.manualBalances),
    .optional "incrementedBalances" (·.incrementedBalances),
    .optional "orderCalculationMethod" (·.orderCalculationMethod)]

instance : RecordCodec ApprovalAmounts where
  fields := [
    .optional "overallApprovalAmount" (·.overallApprovalAmount),
    .optional "perToAddressApprovalAmount" (·.perToAddressApprovalAmount),
    .optional "perFromAddressApprovalAmount" (·.perFromAddressApprovalAmount),
    .optional "perInitiatedByAddressApprovalAmount" (·.perInitiatedByAddressApprovalAmount),
    .optional "amountTrackerId" (·.amountTrackerId)]

instance : RecordCodec MaxNumTransfers where
  fields := [
    .optional "overallMaxNumTransfers" (·.overallMaxNumTransfers),
    .optional "perToAddressMaxNumTransfers" (·.perToAddressMaxNumTransfers),
    .optional "perFromAddressMaxNumTransfers" (·.perFromAddressMaxNumTransfers),
    .optional "perInitiatedByAddressMaxNumTransfers" (·.perInitiatedByAddressMaxNumTransfers),
    .optional "amountTrackerId" (·.amountTrackerId)]

instance : RecordCodec Coin where
  fields := [.optional "denom" (·.denom), .optional "amount" (·.amount)]

instance : RecordCodec CoinTransfer where
  fields := [.optional "to" (·.recipient), .optional "coins" (·.coins)]

instance : RecordCodec ZkProof where
  fields := [
    .optional "verificationKey" (·.verificationKey), .optional "uri" (·.uri),
    .optional "customData" (·.customData), .optional "zkProofTrackerId" (·.zkProofTrackerId)]

instance : RecordCodec Criteria where
  fields := [
    .optional "mustOwnBadges" (·.mustOwnBadges), .optional "merkleChallenges" (·.merkleChallenges),
    .optional "predeterminedBalances" (·.predeterminedBalances),
    .optional "approvalAmounts" (·.approvalAmounts),
    .optional "maxNumTransfers" (·.maxNumTransfers), .optional "coinTransfers" (·.coinTransfers),
    .optional "zkProofs" (·.zkProofs),
    .optional "requireToEqualsInitiatedBy" (·.requireToEqualsInitiatedBy),
    .optional "requireFromEqualsInitiatedBy" (·.requireFromEqualsInitiatedBy),
    .optional "requireToDoesNotEqualInitiatedBy" (·.requireToDoesNotEqualInitiatedBy),
    .optional "requireFromDoesNotEqualInitiatedBy" (·.requireFromDoesNotEqualInitiatedBy),
    .optional "overrideFromOutgoingApprovals" (·.overrideFromOutgoingApprovals),
    .optional "overrideToIncomingApprovals" (·.overrideToIncomingApprovals)]

instance : RecordCodec CriteriaStack where
  fields := [.required "criteria" (·.criteria), .required "isApproved" (·.isApproved)]

end Criteria

section Declarations

instance : RecordCodec Region where
  fields := [
    .required "badgeIds" (·.badgeIds), .required "timelineTimes" (·.timelineTimes),
    .required "transferTimes" (·.transferTimes), .required "ownershipTimes" (·.ownershipTimes),
    .required "toList" (·.toList), .required "fromList" (·.fromList),
    .required "initiatedByList" (·.initiatedByList), .required "approvalIdList" (·.approvalIdList),
    .required "amountTrackerIdList" (·.amountTrackerIdList),
    .required "challengeTrackerIdList" (·.challengeTrackerIdList)]

instance : RecordCodec ApprovalValue where
  fields := [
    .required "approvalId" (·.approvalId), .required "uri" (·.uri),
    .required "customData" (·.customData), .required "approvalCriteria" (·.approvalCriteria)]

instance : LawfulCodec Payload where
  outline
    | .empty => payloadTagging.outline "empty" none
    | .value v => payloadTagging.outline "value" (some (outline v))
    | .approval v => payloadTagging.outline "approval" (some (outline v))
    | .criteria v => payloadTagging.outline "criteria" (some (outline v))
  json_outline v := by
    cases v <;> simp only [Tagging.outline, json, jsonEntries, json_outline] <;> rfl
  decode_of_allows {v j} allowed := by
    cases v with
    | empty => exact Tagging.read_bare (by decide) (by decide) rfl allowed
    | _ =>
        exact Tagging.read_content (by decide) (by decide) decode_of_allows (fun _ => rfl) allowed

instance : RecordCodec Detail where
  fields := [
    .required "region" (·.region), .required "permanentlyPermittedTimes" (·.windows.permitted),
    .required "permanentlyForbiddenTimes" (·.windows.forbidden), .required "payload" (·.payload)]

instance : RecordCodec Declaration where
  fields := [
    .required "badgeIds" (·.badgeIds), .required "timelineTimes" (·.timelineTimes),
    .required "transferTimes" (·.transferTimes), .required "ownershipTimes" (·.ownershipTimes),
    .required "toList" (·.toList), .required "fromList" (·.fromList),
    .required "initiatedByList" (·.initiatedByList), .required "approvalIdList" (·.approvalIdList),
    .required "amountTrackerIdList" (·.amountTrackerIdList),
    .required "challengeTrackerIdList" (·.challengeTrackerIdList),
    .required "permanentlyPermittedTimes" (·.windows.permitted),
    .required "permanentlyForbiddenTimes" (·.windows.forbidden), .required "payload" (·.payload)]

end Declarations

section Permissions

instance : RecordCodec CollectionApproval where
  fields := [
    .optional "fromListId" (·.fromListId), .optional "toListId" (·.toListId),
    .optional "initiatedByListId" (·.terms.initiatedByListId),
    .optional "transferTimes" (·.terms.transferTimes), .optional "badgeIds" (·.terms.badgeIds),
    .optional "ownershipTimes" (·.terms.ownershipTimes),
    .optional "approvalId" (·.terms.approvalId),
    .optional "amountTrackerId" (·.terms.amountTrackerId),
    .optional "challengeTrackerId" (·.terms.challengeTrackerId), .optional "uri" (·.body.uri),
    .optional "customData" (·.body.customData),
    .optional "approvalCriteria" (·.body.approvalCriteria)]

instance {direction : Direction} : RecordCodec (UserApproval direction) where
  fields := [
    .optional direction.partnerKey (·.partnerListId),
    .optional "initiatedByListId" (·.terms.initiatedByListId),
    .optional "transferTimes" (·.terms.transferTimes), .optional "badgeIds" (·.terms.badgeIds),
    .optional "ownershipTimes" (·.terms.ownershipTimes),
    .optional "approvalId" (·.terms.approvalId),
    .optional "amountTrackerId" (·.terms.amountTrackerId),
    .optional "challengeTrackerId" (·.terms.challengeTrackerId), .optional "uri" (·.body.uri),
    .optional "customData" (·.body.customData),
    .optional "approvalCriteria" (·.body.approvalCriteria)]
  distinct := by
    cases direction <;> decide
  decode_of_found found := by
    simp only [List.Forall, Field.Found] at found
    -- The direction decides at which place the partner is read.
    cases direction <;> simp only [decode, record, partnerIn, found] <;> rfl

instance : RecordCodec ActionPermission where
  fields := [
    .optional "permanentlyPermittedTimes" (·.windows.permitted),
    .optional "permanentlyForbiddenTimes" (·.windows.forbidden)]

instance : RecordCodec TimedPermission where
  fields := [
    .optional "timelineTimes" (·.timelineTimes),
    .optional "permanentlyPermittedTimes" (·.windows.permitted),
    .optional "permanentlyForbiddenTimes" (·.windows.forbidden)]

instance : RecordCodec BadgeTimedPermission where
  fields := [
    .optional "timelineTimes" (·.timelineTimes), .optional "badgeIds" (·.badgeIds),
    .optional "permanentlyPermittedTimes" (·.windows.permitted),
    .optional "permanentlyForbiddenTimes" (·.windows.forbidden)]

instance : RecordCodec ApprovalPermission where
  fields := [
    .optional "fromListId" (·.fromListId), .optional "toListId" (·.toListId),
    .optional "initiatedByListId" (·.terms.initiatedByListId),
    .optional "transferTimes" (·.terms.transferTimes), .optional "badgeIds" (·.terms.badgeIds),
    .optional "ownershipTimes" (·.terms.ownershipTimes),
    .optional "approvalId" (·.terms.approvalId),
    .optional "amountTrackerId" (·.terms.amountTrackerId),
    .optional "challengeTrackerId" (·.terms.challengeTrackerId),
    .optional "permanentlyPermittedTimes" (·.windows.permitted),
    .optional "permanentlyForbiddenTimes" (·.windows.forbidden)]

instance {direction : Direction} : RecordCodec (UserApprovalPermission direction) where
  fields := [
    .optional direction.partnerKey (·.partnerListId),
    .optional "initiatedByListId" (·.terms.initiatedByListId),
    .optional "transferTimes" (·.terms.transferTimes), .optional "badgeIds" (·.terms.badgeIds),
    .optional "ownershipTimes" (·.terms.ownershipTimes),
    .optional "approvalId" (·.terms.approvalId),
    .optional "amountTrackerId" (·.terms.amountTrackerId),
    .optional "challengeTrackerId" (·.terms.challengeTrackerId),
    .optional "permanentlyPermittedTimes" (·.windows.permitted),
    .optional "permanentlyForbiddenTimes" (·.windows.forbidden)]
  distinct := by
    cases direction <;> decide
  decode_of_found found := by
    simp only [List.Forall, Field.Found] at found
    cases direction <;> simp only [decode, record, partnerIn, found] <;> rfl

instance : RecordCodec CollectionPermissions where
  fields := [
    .optional "canDeleteCollection" (·.deleteCollection),
    .optional "canArchiveCollection" (·.archiveCollection),
    .optional "canUpdateOffChainBalancesMetadata" (·.updateOffChainBalancesMetadata),
    .optional "canUpdateStandards" (·.updateStandards),
    .optional "canUpdateCustomData" (·.updateCustomData),
    .optional "canUpdateManager" (·.updateManager),
    .optional "canUpdateCollectionMetadata" (·.updateCollectionMetadata),
    .optional "canUpdateBadgeMetadata" (·.updateBadgeMetadata),
    .optional "canUpdateCollectionApprovals" (·.updateCollectionApprovals)]

instance : RecordCodec UserPermissions where
  fields := [
    .optional "canUpdateOutgoingApprovals" (·.updateOutgoingApprovals),
    .optional "canUpdateIncomingApprovals" (·.updateIncomingApprovals)]

end Permissions

section Settings

instance : LawfulCodec UnhandledPolicy where
  outline p := .text p.name
  json_outline _ := rfl
  decode_of_allows {p _} := nameOf_of_allows p.ofName?_name

instance : RecordCodec Settings where
  fields := [.optional timeKey (·.evaluationTime), .optional policyKey (·.unhandled)]

end Settings

section Verdicts

@[simp] theorem permissionKind?_name (kind : PermissionKind) : permissionKind? kind.name = some kind := by
  cases kind <;> rfl

@[simp] theorem denialKind?_denialKindName (kind : DenialKind) :
    denialKind? (denialKindName kind) = some kind := by
  cases kind <;> rfl

instance : LawfulCodec PermissionKind where
  outline kind := .text kind.name
  json_outline _ := rfl
  decode_of_allows {kind _} := nameOf_of_allows (permissionKind?_name kind)

instance : LawfulCodec DenialKind where
  outline kind := .text (denialKindName kind)
  json_outline _ := rfl
  decode_of_allows {kind _} := nameOf_of_allows (denialKind?_denialKindName kind)

def fieldOutline : UpdateField → Outline
  | .permission kind => fieldTagging.outline "permission" (some (outline kind))
  | field => fieldTagging.outline (fieldName field) none

theorem readField_of_allows {manner : Manner} {field : UpdateField} {j : Json}
    (allowed : (fieldOutline field).Allows j) : readField manner j = .ok field := by
  cases field with
  | permission kind =>
      exact Tagging.read_content (by decide) (by decide)
        (nameOf_of_allows (permissionKind?_name kind)) (fun _ => rfl) allowed
  | _ => exact Tagging.read_bare (by decide) (by decide) rfl allowed

instance : LawfulCodec UpdateField where
  outline := fieldOutline
  json_outline field := by
    cases field <;> rfl
  decode_of_allows := readField_of_allows

def denialOutline (d : Denial) : Outline :=
  .object [("field", false, outline d.field), ("kind", false, outline d.kind),
    ("region", false, outline d.region)]

theorem readDenial_of_allows {manner : Manner} {d : Denial} {j : Json}
    (allowed : (denialOutline d).Allows j) : readDenial manner j = .ok d := by
  obtain ⟨entries, rfl, shows⟩ := shows_of_allows (by simp) allowed
  obtain ⟨_, field, fieldAllowed⟩ := shows.lookup List.mem_cons_self
  obtain ⟨_, kind, kindAllowed⟩ := shows.lookup (List.mem_cons_of_mem _ List.mem_cons_self)
  obtain ⟨_, region, regionAllowed⟩ :=
    shows.lookup (List.mem_cons_of_mem _ (List.mem_cons_of_mem _ List.mem_cons_self))
  have fieldRead : Fields.read? (readField manner) entries "field" = .ok (some d.field) :=
    Field.read?_eq field (readField_of_allows fieldAllowed)
  have kindRead : Fields.read? (nameOf manner denialKind?) entries "kind" = .ok (some d.kind) :=
    Field.read?_eq kind (nameOf_of_allows (denialKind?_denialKindName d.kind) kindAllowed)
  have regionRead : Fields.get? entries "region" = .ok (some d.region) :=
    Field.get?_eq region (decode_of_allows regionAllowed)
  simp only [readDenial, record, fieldRead, kindRead, regionRead]
  rfl

instance : LawfulCodec Denial where
  outline := denialOutline
  json_outline d := by
    simp only [denialOutline, json, jsonEntries, json_outline]
    rfl
  decode_of_allows := readDenial_of_allows

instance : LawfulCodec Verdict where
  outline
    | .permitted => verdictTagging.outline "permitted" none
    | .denied d => verdictTagging.outline "denied" (some (outline d))
  json_outline v := by
    cases v <;> simp only [Tagging.outline, json, jsonEntries, json_outline] <;> rfl
  decode_of_allows {v j} allowed := by
    cases v with
    | permitted => exact Tagging.read_bare (by decide) (by decide) rfl allowed
    | denied d =>
        -- `denial` is visited before `verdict`, so that the denial is held and read leniently.
        exact Tagging.read_content (by decide) (by decide) readDenial_of_allows (fun _ => rfl)
          allowed

end Verdicts

/-- Values are read from what is written for them, and from every document that their outlines
allow: with the entries of any object in another order, and without fields that may be missing and
are at their defaults. -/
structure ReadsBack (α : Type) [Codec α] [LawfulCodec α] : Prop where
  lawful : Lawful α
  written (a : α) : (outline a).json = encode a
  read (a : α) (j : Json) : (outline a).Allows j → (decode j : Decoded α) = .ok a

theorem readsBack {α : Type} [Codec α] [LawfulCodec α] : ReadsBack α :=
  ⟨lawful_of_outline, json_outline, fun _ _ => decode_of_allows⟩

theorem documents_read_back :
    (ReadsBack Nat ∧ ReadsBack Span ∧ ReadsBack AddressList ∧
      (∀ (V : Type) [Codec V] [LawfulCodec V], ReadsBack (TimelineItem V)) ∧
      ReadsBack Metadata ∧ ReadsBack BadgeMetadata ∧ ReadsBack FieldValue ∧ ReadsBack Fault) ∧
    (ReadsBack MustOwnBadges ∧ ReadsBack MerkleChallenge ∧ ReadsBack Balance ∧
      ReadsBack ManualBalances ∧ ReadsBack IncrementedBalances ∧ ReadsBack OrderCalculation ∧
      ReadsBack PredeterminedBalances ∧ ReadsBack ApprovalAmounts ∧ ReadsBack MaxNumTransfers ∧
      ReadsBack Coin ∧ ReadsBack CoinTransfer ∧ ReadsBack ZkProof ∧ ReadsBack Criteria ∧
      ReadsBack CriteriaStack) ∧
    (ReadsBack Region ∧ ReadsBack ApprovalValue ∧ ReadsBack Payload ∧ ReadsBack Detail ∧
      ReadsBack Declaration) ∧
    (ReadsBack CollectionApproval ∧ (∀ direction, ReadsBack (UserApproval direction)) ∧
      ReadsBack ActionPermission ∧ ReadsBack TimedPermission ∧ ReadsBack BadgeTimedPermission ∧
      ReadsBack ApprovalPermission ∧ (∀ direction, ReadsBack (UserApprovalPermission direction)) ∧
      ReadsBack CollectionPermissions ∧ ReadsBack UserPermissions) ∧
    (ReadsBack UnhandledPolicy ∧ ReadsBack Settings) ∧
    (ReadsBack PermissionKind ∧ ReadsBack DenialKind ∧ ReadsBack UpdateField ∧ ReadsBack Denial ∧
      ReadsBack Verdict) := by
  and_intros
  all_goals
    intros
    exact readsBack

section Abridged

def minted : UserApproval .incoming where
  partnerListId := "Mint"
  terms := { (default : TransferTerms) with
    badgeIds := [⟨1, 340282366920938463463374607431768211456⟩] }
  body := default

def abridged : Json :=
  .object [
    ("badgeIds", .array [.object [
      ("end", .text "340282366920938463463374607431768211456"), ("start", .text "1")]]),
    ("fromListId", .text "Mint")]

theorem abridged_read_back :
    (outline minted).Allows abridged ∧
      (decode abridged : Decoded (UserApproval .incoming)) = .ok minted := by
  have badgeIds : (outline minted.terms.badgeIds).Allows (.array [.object [
      ("end", .text "340282366920938463463374607431768211456"), ("start", .text "1")]]) :=
    .array (.cons (.object (.kept (.text _) (.kept (.text _) .nil)) (.swap _ _ _)) .nil)
  have entries : AllowsEntries (RecordCodec.fields.map (Field.outlined minted)) _ :=
    .kept (.text _) (.omitted (.omitted (.kept badgeIds
      (.omitted (.omitted (.omitted (.omitted (.omitted (.omitted (.omitted .nil))))))))))
  have allowed : (outline minted).Allows abridged := .object entries (.swap _ _ _)
  have approvals := documents_read_back.2.2.2.1.2.1 .incoming
  exact ⟨allowed, approvals.read minted abridged allowed⟩

end Abridged

end BadgeRights.Codec
