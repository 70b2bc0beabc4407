import BadgeRights.Flattening

set_option autoImplicit false

namespace BadgeRights

structure Overlap where
  region : Region
  first : Detail
  second : Detail
  deriving DecidableEq

def Overlap.isUnchanged (o : Overlap) : Bool := o.first.payload == o.second.payload

def Detail.split (handled value : Detail) : List Detail × Option Overlap :=
  let pieces := value.region.cut handled.region
  (pieces.outside.map value.onRegion, pieces.shared.map fun shared => ⟨shared, handled, value⟩)

structure Difference where
  overlaps : List Overlap
  firstOnly : List Detail
  secondOnly : List Detail
  deriving DecidableEq

namespace Difference

def between (first second : List Detail) : Difference where
  overlaps := first.flatMap fun a => second.filterMap fun b => (a.split b).2
  firstOnly := Detail.carveAll second first
  secondOnly := Detail.carveAll first second

/-- The regions in which the payload differs, a missing detail counting as a payload of its own. -/
def changedRegions (old new : List Detail) : List Region :=
  let d := between old new
  (d.firstOnly ++ d.secondOnly).map Detail.region ++
    (d.overlaps.filter fun o => !o.isUnchanged).map Overlap.region

end Difference

end BadgeRights
