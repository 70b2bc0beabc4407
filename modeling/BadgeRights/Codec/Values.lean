import BadgeRights.Codec
import BadgeRights.Address.List
import BadgeRights.Field
import BadgeRights.Timeline

set_option autoImplicit false

namespace BadgeRights.Codec

instance : Codec Span where
  encode s := .object [("start", encode s.start), ("end", encode s.stop)]
  decode := record ["start", "end"] fun f => do
    let stop ← f.get? "end"
    let start ← f.get? "start"
    return ⟨← required start, ← required stop⟩

instance : Codec AddressList where
  encode l := .object [
    ("listId", encode l.listId), ("addresses", encode l.addresses),
    ("whitelist", encode l.whitelist), ("uri", encode l.uri),
    ("customData", encode l.customData), ("createdBy", encode l.createdBy)]
  decode :=
    record ["listId", "addresses", "whitelist", "uri", "customData", "createdBy"] fun f => do
      let addresses ← f.getD "addresses"
      let createdBy ← f.getD "createdBy"
      let customData ← f.getD "customData"
      let listId ← f.getD "listId"
      let uri ← f.getD "uri"
      let whitelist ← f.get? "whitelist"
      return { listId, addresses, whitelist := ← required whitelist, uri, customData, createdBy }

instance {V : Type} [Codec V] : Codec (TimelineItem V) where
  encode item := .object [("timelineTimes", encode item.times), ("value", encode item.value)]
  decode := record ["timelineTimes", "value"] fun f => do
    let times ← f.get? "timelineTimes"
    let value ← f.get? "value"
    return ⟨← required times, ← required value⟩

instance : Codec Metadata where
  encode m := .object [("uri", encode m.uri), ("customData", encode m.customData)]
  decode := record ["uri", "customData"] fun f => do
    let customData ← f.getD "customData"
    let uri ← f.getD "uri"
    return { uri, customData }

instance : Codec BadgeMetadata where
  encode m := .object [
    ("uri", encode m.uri), ("customData", encode m.customData), ("badgeIds", encode m.badgeIds)]
  decode := record ["uri", "customData", "badgeIds"] fun f => do
    let badgeIds ← f.getD "badgeIds"
    let customData ← f.getD "customData"
    let uri ← f.getD "uri"
    return { uri, customData, badgeIds }

def fieldValueTagging : Tagging :=
  ⟨["text", "flag", "texts", "metadata"], "type", "value"⟩

def encodeFieldValue (tag : String) (value : Json) : Json :=
  .object [("type", .text tag), ("value", value)]

instance : Codec FieldValue where
  encode
    | .text v => encodeFieldValue "text" (encode v)
    | .flag v => encodeFieldValue "flag" (encode v)
    | .texts v => encodeFieldValue "texts" (encode v)
    | .metadata v => encodeFieldValue "metadata" (encode v)
  decode := fieldValueTagging.read .strict fun _ tag value => do
    match tag with
    | "text" => return .text (← content value)
    | "flag" => return .flag (← content value)
    | "texts" => return .texts (← content value)
    | "metadata" => return .metadata (← content value)
    | _ => .error .mismatch

def faultClassName : FaultClass → String
  | .invalid => "Invalid"
  | .invalidOldValue => "InvalidOldValue"
  | .invalidNewValue => "InvalidNewValue"
  | .notFound => "NotFound"
  | .permissionDenied => "PermissionDenied"
  | .internal => "Internal"

def faultClass? : String → Option FaultClass
  | "Invalid" => some .invalid
  | "InvalidOldValue" => some .invalidOldValue
  | "InvalidNewValue" => some .invalidNewValue
  | "NotFound" => some .notFound
  | "PermissionDenied" => some .permissionDenied
  | "Internal" => some .internal
  | _ => none

instance : Codec Fault where
  encode f := .object [(faultClassName f.cls, .object [("message", encode f.message)])]
  decode
    | .object [(name, .object fields)] => do
        let cls ← known (faultClass? name)
        let message ← Fields.get? fields "message"
        return ⟨cls, ← required message⟩
    | _ => .error .mismatch

end BadgeRights.Codec
