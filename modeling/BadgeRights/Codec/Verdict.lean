import BadgeRights.Codec.Declaration
import BadgeRights.Verdict

set_option autoImplicit false

namespace BadgeRights.Codec

def permissionKind? (name : String) : Option PermissionKind :=
  PermissionKind.all.find? fun k => k.name == name

instance : Codec PermissionKind where
  encode k := .text k.name
  decode := nameOf .strict permissionKind?

def denialKindName : DenialKind → String
  | .forbidden => "forbidden"
  | .notPermitted => "notPermitted"
  | .permanentTimesRemoved => "permanentTimesRemoved"

def denialKind? : String → Option DenialKind
  | "forbidden" => some .forbidden
  | "notPermitted" => some .notPermitted
  | "permanentTimesRemoved" => some .permanentTimesRemoved
  | _ => none

instance : Codec DenialKind where
  encode k := .text (denialKindName k)
  decode := nameOf .strict denialKind?

def fieldName : UpdateField → String
  | .collectionApprovals => "collectionApprovals"
  | .incomingApprovals => "incomingApprovals"
  | .outgoingApprovals => "outgoingApprovals"
  | .manager => "manager"
  | .collectionMetadata => "collectionMetadata"
  | .badgeMetadata => "badgeMetadata"
  | .offChainBalancesMetadata => "offChainBalancesMetadata"
  | .standards => "standards"
  | .customData => "customData"
  | .isArchived => "isArchived"
  | .deleteCollection => "deleteCollection"
  | .permission _ => "permission"

def plainFields : List UpdateField :=
  [.collectionApprovals, .incomingApprovals, .outgoingApprovals, .manager, .collectionMetadata,
    .badgeMetadata, .offChainBalancesMetadata, .standards, .customData, .isArchived,
    .deleteCollection]

def plainField? (name : String) : Option UpdateField :=
  plainFields.find? fun f => fieldName f == name

def fieldTagging : Tagging :=
  ⟨plainFields.map fieldName ++ ["permission"], "field", "permission"⟩

def readField (manner : Manner) : Json → Decoded UpdateField :=
  fieldTagging.read manner fun manner tag kind => do
    match tag with
    | "permission" => return .permission (← nameOf manner permissionKind? (← required kind))
    | name => noContent (← known (plainField? name)) kind

instance : Codec UpdateField where
  encode
    | .permission kind => .object [("field", .text "permission"), ("permission", encode kind)]
    | f => .object [("field", .text (fieldName f))]
  decode := readField .strict

def readDenial (manner : Manner) : Json → Decoded Denial :=
  record ["field", "kind", "region"] fun f => do
    let field ← f.read? (readField manner) "field"
    let kind ← f.read? (nameOf manner denialKind?) "kind"
    let region ← f.get? "region"
    return ⟨← required field, ← required kind, ← required region⟩

instance : Codec Denial where
  encode d := .object [
    ("field", encode d.field), ("kind", encode d.kind), ("region", encode d.region)]
  decode := readDenial .strict

def verdictTagging : Tagging := ⟨["permitted", "denied"], "verdict", "denial"⟩

instance : Codec Verdict where
  encode
    | .permitted => .object [("verdict", .text "permitted")]
    | .denied d => .object [("verdict", .text "denied"), ("denial", encode d)]
  decode := verdictTagging.read .strict fun manner tag denial => do
    match tag with
    | "permitted" => noContent .permitted denial
    | "denied" => return .denied (← readDenial manner (← required denial))
    | _ => .error .mismatch

end BadgeRights.Codec
