import BadgeRights.Span

set_option autoImplicit false

namespace BadgeRights

structure Metadata where
  uri : String
  customData : String
  deriving DecidableEq, Inhabited

structure BadgeMetadata where
  uri : String
  customData : String
  badgeIds : List Span
  deriving DecidableEq, Inhabited

def BadgeMetadata.metadata (m : BadgeMetadata) : Metadata := ⟨m.uri, m.customData⟩

inductive FieldValue where
  | text (value : String)
  | flag (value : Bool)
  | texts (value : List String)
  | metadata (value : Metadata)
  deriving DecidableEq

end BadgeRights
