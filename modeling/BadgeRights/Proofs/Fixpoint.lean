import BadgeRights.Proofs.Flattening

set_option autoImplicit false

namespace BadgeRights

namespace Detail

def toDeclaration (d : Detail) : Declaration where
  badgeIds := [d.region.badgeIds]
  timelineTimes := [d.region.timelineTimes]
  transferTimes := [d.region.transferTimes]
  ownershipTimes := [d.region.ownershipTimes]
  toList := d.region.toList
  fromList := d.region.fromList
  initiatedByList := d.region.initiatedByList
  approvalIdList := d.region.approvalIdList
  amountTrackerIdList := d.region.amountTrackerIdList
  challengeTrackerIdList := d.region.challengeTrackerIdList
  windows := d.windows
  payload := d.payload

@[simp] theorem details_toDeclaration (d : Detail) : d.toDeclaration.details = [d] := rfl

theorem flatMap_details_toDeclaration (details : List Detail) :
    (details.map toDeclaration).flatMap Declaration.details = details := by
  induction details with
  | nil => rfl
  | cons d rest ih => simp [ih]

variable {candidate : Detail} {claimed : List Detail}

theorem carveAll_of_apart (ordered : candidate.region.Ordered)
    (orderedClaimed : ∀ d ∈ claimed, d.region.Ordered)
    (apart : ∀ d ∈ claimed, Apart candidate d) : carveAll claimed [candidate] = [candidate] := by
  unfold carveAll
  induction claimed with
  | nil => rfl
  | cons d rest ih =>
      obtain ⟨first, later⟩ := List.forall_mem_cons.1 orderedClaimed
      obtain ⟨apartFirst, apartLater⟩ := List.forall_mem_cons.1 apart
      have whole : carve d.region [candidate] = [candidate] := by
        simp [carve, Region.outside_of_apart ordered first apartFirst, onRegion]
      rw [List.foldl_cons, whole]
      exact ih later apartLater

end Detail

namespace Flattening

open Detail

variable {existing candidate : Detail} {claimed details : List Detail}

theorem stackOn_of_apart (ordered : existing.region.Ordered)
    (orderedCandidate : candidate.region.Ordered) (apart : Apart existing candidate) :
    stackOn existing candidate = [existing] := by
  have separate := Region.shared_of_apart ordered orderedCandidate apart
  unfold stackOn
  split
  · rfl
  · simp [separate]

theorem claim_of_apart (ordered : ∀ d ∈ claimed, d.region.Ordered)
    (orderedCandidate : candidate.region.Ordered) (apart : ∀ d ∈ claimed, Apart d candidate) :
    claim claimed candidate = claimed ++ [candidate] := by
  have untouched : claimed.flatMap (fun existing => stackOn existing candidate) = claimed := by
    calc claimed.flatMap (fun existing => stackOn existing candidate)
        = claimed.flatMap fun existing => [existing] :=
          List.flatMap_congr fun d hd => stackOn_of_apart (ordered d hd) orderedCandidate (apart d hd)
      _ = claimed := List.flatMap_singleton' claimed
  have whole : carveAll claimed [candidate] = [candidate] :=
    carveAll_of_apart orderedCandidate ordered fun d hd => (apart d hd).symm
  rw [claim, untouched, whole]

theorem claimAll_of_tiling (tiling : Tiling details) : claimAll details = details := by
  -- What is claimed at any time are the details up to there, and the next one is added to them.
  have general (claimed rest : List Detail) (tiling : Tiling (claimed ++ rest)) :
      rest.foldl claim claimed = claimed ++ rest := by
    induction rest generalizing claimed with
    | nil => simp
    | cons candidate rest ih =>
        obtain ⟨_, _, cross⟩ := List.pairwise_append.1 tiling.apart
        have added : claim claimed candidate = claimed ++ [candidate] := by
          refine claim_of_apart ?_ ?_ ?_
          · exact fun d hd => tiling.ordered d (List.mem_append_left _ hd)
          · exact tiling.ordered candidate (by simp)
          · exact fun d hd => cross d hd candidate List.mem_cons_self
        rw [List.foldl_cons, added, ih (claimed ++ [candidate]) (by simpa using tiling)]
        simp
  exact general [] details tiling

end Flattening

theorem sorted_flatten (declarations : List Declaration) :
    (flatten declarations).Pairwise (Flattening.before · · = true) :=
  Order.pairwise_sortBy _ Flattening.before_total Flattening.before_trans _

theorem flatten_toDeclaration {details : List Detail} (tiling : Detail.Tiling details)
    (sorted : details.Pairwise (Flattening.before · · = true)) :
    flatten (details.map Detail.toDeclaration) = details := by
  rw [flatten, Detail.flatMap_details_toDeclaration, Flattening.claimAll_of_tiling tiling]
  exact Order.sortBy_of_pairwise _ details sorted

/-- Flattened details, each declared on its own and in their order, are flattened to the same list. -/
theorem flatten_idempotent (declarations : List Declaration)
    (ordered : ∀ d ∈ declarations, d.Ordered) :
    flatten ((flatten declarations).map Detail.toDeclaration) = flatten declarations :=
  flatten_toDeclaration (tiling_flatten declarations ordered) (sorted_flatten declarations)

def unsentDeclarations : List Declaration :=
  stackingDeclarations ++ List.replicate 2 { criteriaOn [⟨2, 3⟩] with fromList := .nobody }

theorem unsentDeclarations_settled :
    (∀ d ∈ unsentDeclarations, d.Ordered) ∧
      flatten ((flatten unsentDeclarations).map Detail.toDeclaration) =
        flatten unsentDeclarations ∧
      (flatten unsentDeclarations).countP (·.region.fromList = .nobody) = 2 := by
  have ordered : ∀ d ∈ unsentDeclarations, d.Ordered := by decide
  exact ⟨ordered, flatten_idempotent unsentDeclarations ordered, by decide⟩

end BadgeRights
