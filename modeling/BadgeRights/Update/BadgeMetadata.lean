import BadgeRights.Update.Coverage
import BadgeRights.Timeline

set_option autoImplicit false

namespace BadgeRights.Update

def metadataDeclaration (times badgeIds : List Span) (metadata : Metadata) : Declaration :=
  { Declaration.everywhere (.value (.metadata metadata)) with timelineTimes := times, badgeIds }

def undescribed (entries : List BadgeMetadata) : List Span :=
  Spans.gaps (entries.flatMap BadgeMetadata.badgeIds)

def itemDeclarations (item : TimelineItem (List BadgeMetadata)) : List Declaration :=
  let entries := item.value.map fun e => metadataDeclaration item.times e.badgeIds e.metadata
  match undescribed item.value with
  | [] => entries
  | rest => entries ++ [metadataDeclaration item.times rest ⟨"", ""⟩]

def validateEntries (timeline : Timeline (List BadgeMetadata)) : Checked Unit :=
  timeline.forM fun item => item.value.forM fun e => Spans.validate e.badgeIds

def flattenBadgeMetadata (timeline : Timeline (List BadgeMetadata)) : Checked (List Detail) := do
  Timeline.validate timeline
  validateEntries timeline
  return flatten ((Timeline.filled timeline [] maxValue).flatMap itemDeclarations)

def badgeMetadata (old new : Timeline (List BadgeMetadata))
    (permissions : List BadgeTimedPermission) (stance : Stance) : Checked Verdict := do
  let old ← (flattenBadgeMetadata old).mapError Fault.inOld
  let new ← (flattenBadgeMetadata new).mapError Fault.inNew
  let declarations ← Permission.declare .updateBadgeMetadata Resolver.reserved permissions
  let changed := Difference.changedRegions old new
  return checkRegions .badgeMetadata changed declarations stance

end BadgeRights.Update
