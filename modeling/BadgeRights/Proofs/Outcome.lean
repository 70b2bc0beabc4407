import BadgeRights.Proofs.Inhabited

set_option autoImplicit false

namespace BadgeRights

def Verdict.kind? : Verdict → Option DenialKind
  | permitted => none
  | denied denial => some denial.kind

def GrantsAll (declarations : List Declaration) (now : Nat) (changed : List Region) : Prop :=
  ∀ r ∈ changed, (∃ p : Point, p ∈ r) ∧ ∀ p ∈ r, GrantedAt declarations now p

namespace Difference

variable {old new : List Detail} {declarations : List Declaration} {now : Nat}

theorem touchesForbidden_iff (tilingOld : Detail.Tiling old) (tilingNew : Detail.Tiling new) :
    TouchesForbidden declarations now (changedRegions old new) ↔
      ∃ p, Detail.payloadAt? old p ≠ Detail.payloadAt? new p ∧ ForbiddenAt declarations now p := by
  simp only [← exists_mem_changedRegions tilingOld.apart tilingNew.apart]
  constructor
  · intro touches
    rcases touches with ⟨r, hr, p, hp, forbidden⟩
    exact ⟨p, ⟨r, hr, hp⟩, forbidden⟩
  · intro touches
    rcases touches with ⟨p, ⟨r, hr, hp⟩, forbidden⟩
    exact ⟨r, hr, p, hp, forbidden⟩

theorem grantsAll_iff (tilingOld : Detail.Tiling old) (tilingNew : Detail.Tiling new) :
    GrantsAll declarations now (changedRegions old new) ↔
      (∀ d ∈ old ++ new, ∃ p : Point, p ∈ d) ∧
        ∀ p, Detail.payloadAt? old p ≠ Detail.payloadAt? new p → GrantedAt declarations now p := by
  rw [← inhabited_changedRegions_iff tilingOld tilingNew]
  simp only [← exists_mem_changedRegions tilingOld.apart tilingNew.apart]
  constructor
  · intro grants
    refine ⟨fun r hr => (grants r hr).1, ?_⟩
    intro p changed
    rcases changed with ⟨r, hr, hp⟩
    exact (grants r hr).2 p hp
  · intro grants r hr
    exact ⟨grants.1 r hr, fun p hp => grants.2 p ⟨r, hr, hp⟩⟩

end Difference

namespace Update

/-- The outcome of an update: the class of its fault, or the kind of its denial, or neither. -/
def outcome (answer : Checked Verdict) : Except FaultClass (Option DenialKind) :=
  (answer.map Verdict.kind?).mapError Fault.cls

section Verdict

variable {field : UpdateField} {changed : List Region} {declarations : List Declaration}
  {stance : Stance} (changedOrdered : ∀ r ∈ changed, r.Ordered)
  (declaredOrdered : ∀ d ∈ declarations, d.Ordered)

include changedOrdered declaredOrdered

theorem checkRegions_accepts_iff :
    checkRegions field changed declarations stance = .permitted ↔
      ¬TouchesForbidden declarations stance.now changed ∧
        (stance.unhandled = .neutral ∨ GrantsAll declarations stance.now changed) := by
  have judged := checkRegions_judged field changed declarations stance changedOrdered
    declaredOrdered
  rcases stance with ⟨now, policy⟩
  cases policy with
  | neutral =>
      generalize checkRegions field changed declarations _ = verdict at judged ⊢
      cases judged with
      | forbidden r s member part inhabited all =>
          simp [touches_of_part member part inhabited all]
      | neutral untouched _ => simp [untouched]
      | notPermitted _ _ _ policy _ _ _ => cases policy
      | permitted _ policy _ => cases policy
  | requirePermitted =>
      rw [checkRegions_permitted_iff changedOrdered declaredOrdered]
      simp only [reduceCtorEq, false_or]
      refine (and_iff_right_of_imp ?_).symm
      -- What is granted is not forbidden, so the first condition says nothing new here.
      intro granted touches
      rcases touches with ⟨r, hr, p, hp, forbidden⟩
      exact ((granted r hr).2 p hp).2 forbidden

open Classical in
theorem kind?_checkRegions :
    (checkRegions field changed declarations stance).kind? =
      if TouchesForbidden declarations stance.now changed then some .forbidden
      else if stance.unhandled = .neutral ∨ GrantsAll declarations stance.now changed then none
      else some .notPermitted := by
  have accepts := @checkRegions_accepts_iff field changed declarations stance changedOrdered
    declaredOrdered
  have judged := checkRegions_judged field changed declarations stance changedOrdered
    declaredOrdered
  generalize checkRegions field changed declarations stance = verdict at accepts judged ⊢
  cases judged with
  | forbidden r s member part inhabited all =>
      rw [if_pos (touches_of_part member part inhabited all)]
      rfl
  | notPermitted _ _ untouched _ _ _ _ =>
      have refused : ¬(stance.unhandled = .neutral ∨ GrantsAll declarations stance.now changed) := by
        intro accepted
        cases accepts.2 ⟨untouched, accepted⟩
      rw [if_neg untouched, if_neg refused]
      rfl
  | neutral untouched _ | permitted untouched _ _ =>
      rw [if_neg untouched, if_pos (accepts.1 rfl).2]
      rfl

end Verdict

section Congruence

variable {stance : Stance} {old new oldToo newToo : List Detail}
  {declarations declarationsToo : List Declaration} (tilingOld : Detail.Tiling old)
  (tilingNew : Detail.Tiling new) (tilingOldToo : Detail.Tiling oldToo)
  (tilingNewToo : Detail.Tiling newToo) (ordered : ∀ d ∈ declarations, d.Ordered)
  (orderedToo : ∀ d ∈ declarationsToo, d.Ordered)

include tilingOld tilingNew tilingOldToo tilingNewToo ordered orderedToo

/-- Two checks of changes have the same outcome if the points of the second are images of points of
the first that change, are forbidden and are permitted alike, and details without points occur in
both or in none. -/
theorem kind?_changedRegions_congr_image {field fieldToo : UpdateField} {image : Point → Point}
    (surjective : Function.Surjective image)
    (differ : ∀ p, Detail.payloadAt? old p ≠ Detail.payloadAt? new p ↔
      Detail.payloadAt? oldToo (image p) ≠ Detail.payloadAt? newToo (image p))
    (inhabited : (∀ d ∈ old ++ new, ∃ p : Point, p ∈ d) ↔
      ∀ d ∈ oldToo ++ newToo, ∃ p : Point, p ∈ d)
    (forbidden : ∀ p, ForbiddenAt declarations stance.now p ↔
      ForbiddenAt declarationsToo stance.now (image p))
    (permitted : ∀ p, PermittedAt declarations stance.now p ↔
      PermittedAt declarationsToo stance.now (image p)) :
    (checkRegions field (Difference.changedRegions old new) declarations stance).kind? =
      (checkRegions fieldToo (Difference.changedRegions oldToo newToo) declarationsToo
        stance).kind? := by
  have touches : TouchesForbidden declarations stance.now (Difference.changedRegions old new) ↔
      TouchesForbidden declarationsToo stance.now (Difference.changedRegions oldToo newToo) := by
    rw [Difference.touchesForbidden_iff tilingOld tilingNew,
      Difference.touchesForbidden_iff tilingOldToo tilingNewToo]
    refine Iff.trans ?_ surjective.exists.symm
    exact exists_congr fun p => and_congr (differ p) (forbidden p)
  have grants : GrantsAll declarations stance.now (Difference.changedRegions old new) ↔
      GrantsAll declarationsToo stance.now (Difference.changedRegions oldToo newToo) := by
    rw [Difference.grantsAll_iff tilingOld tilingNew,
      Difference.grantsAll_iff tilingOldToo tilingNewToo]
    refine and_congr inhabited (Iff.trans ?_ surjective.forall.symm)
    refine forall_congr' fun p => imp_congr (differ p) ?_
    exact and_congr (permitted p) (not_congr (forbidden p))
  classical
  rw [kind?_checkRegions (Difference.ordered_of_mem_changedRegions tilingOld tilingNew) ordered,
    kind?_checkRegions (Difference.ordered_of_mem_changedRegions tilingOldToo tilingNewToo)
      orderedToo]
  exact if_congr touches rfl (if_congr (or_congr_right grants) rfl rfl)

theorem kind?_changedRegions_congr {field : UpdateField}
    (differ : ∀ p, Detail.payloadAt? old p ≠ Detail.payloadAt? new p ↔
      Detail.payloadAt? oldToo p ≠ Detail.payloadAt? newToo p)
    (inhabited : (∀ d ∈ old ++ new, ∃ p : Point, p ∈ d) ↔
      ∀ d ∈ oldToo ++ newToo, ∃ p : Point, p ∈ d)
    (forbidden : ∀ p, ForbiddenAt declarations stance.now p ↔
      ForbiddenAt declarationsToo stance.now p)
    (permitted : ∀ p, PermittedAt declarations stance.now p ↔
      PermittedAt declarationsToo stance.now p) :
    (checkRegions field (Difference.changedRegions old new) declarations stance).kind? =
      (checkRegions field (Difference.changedRegions oldToo newToo) declarationsToo stance).kind? :=
  kind?_changedRegions_congr_image tilingOld tilingNew tilingOldToo tilingNewToo ordered orderedToo
    Function.surjective_id differ inhabited forbidden permitted

end Congruence

end Update

end BadgeRights
