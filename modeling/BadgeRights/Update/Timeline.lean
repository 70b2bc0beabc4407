import BadgeRights.Update.Coverage
import BadgeRights.Timeline

set_option autoImplicit false

namespace BadgeRights.Update

variable {V : Type}

def timelineDeclarations (timeline : Timeline V) (empty : V) (toValue : V → FieldValue) :
    List Declaration :=
  (Timeline.filled timeline empty maxValue).map fun item =>
    { Declaration.everywhere (.value (toValue item.value)) with timelineTimes := item.times }

def flattenTimeline (timeline : Timeline V) (empty : V) (toValue : V → FieldValue) :
    List Detail :=
  flatten (timelineDeclarations timeline empty toValue)

def timeline (field : UpdateField) (kind : PermissionKind) (old new : Timeline V)
    (permissions : List TimedPermission) (empty : V) (toValue : V → FieldValue)
    (stance : Stance) : Checked Verdict := do
  (Timeline.validate old).mapError Fault.inOld
  (Timeline.validate new).mapError Fault.inNew
  let declarations ← Permission.declare kind Resolver.reserved permissions
  let changed := Difference.changedRegions
    (flattenTimeline old empty toValue) (flattenTimeline new empty toValue)
  return checkRegions field changed declarations stance

def manager (old new : Timeline String) (permissions : List TimedPermission) (stance : Stance) :
    Checked Verdict :=
  timeline .manager .updateManager old new permissions "" .text stance

def collectionMetadata (old new : Timeline Metadata) (permissions : List TimedPermission)
    (stance : Stance) : Checked Verdict :=
  timeline .collectionMetadata .updateCollectionMetadata old new permissions ⟨"", ""⟩ .metadata
    stance

def offChainBalancesMetadata (old new : Timeline Metadata) (permissions : List TimedPermission)
    (stance : Stance) : Checked Verdict :=
  timeline .offChainBalancesMetadata .updateOffChainBalancesMetadata old new permissions ⟨"", ""⟩
    .metadata stance

def standards (old new : Timeline (List String)) (permissions : List TimedPermission)
    (stance : Stance) : Checked Verdict :=
  timeline .standards .updateStandards old new permissions [] .texts stance

def customData (old new : Timeline String) (permissions : List TimedPermission)
    (stance : Stance) : Checked Verdict :=
  timeline .customData .updateCustomData old new permissions "" .text stance

def isArchived (old new : Timeline Bool) (permissions : List TimedPermission) (stance : Stance) :
    Checked Verdict :=
  timeline .isArchived .archiveCollection old new permissions false .flag stance

end BadgeRights.Update
