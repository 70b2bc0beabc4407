import BadgeRights.Declaration

set_option autoImplicit false

namespace BadgeRights.Flattening

def stackOn (existing candidate : Detail) : List Detail :=
  match existing.payload.mergeOverlap candidate.payload with
  | none => [existing]
  | some merged =>
      let pieces := existing.region.cut candidate.region
      match pieces.shared with
      | none => [existing]
      | some shared =>
          pieces.outside.map existing.onRegion ++ [{ existing.onRegion shared with payload := merged }]

def claim (claimed : List Detail) (candidate : Detail) : List Detail :=
  claimed.flatMap (fun existing => stackOn existing candidate) ++
    Detail.carveAll claimed [candidate]

def before (d e : Detail) : Bool :=
  decide (d.region.badgeIds.start ≤ e.region.badgeIds.start)

def claimAll (candidates : List Detail) : List Detail :=
  candidates.foldl claim []

end Flattening

/-- Disjoint details for the declarations, the first match winning, in the order of their badge
ids. -/
def flatten (declarations : List Declaration) : List Detail :=
  Order.sortBy Flattening.before
    (Flattening.claimAll (declarations.flatMap Declaration.details))

end BadgeRights
