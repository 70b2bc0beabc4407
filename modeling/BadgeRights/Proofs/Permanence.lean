import BadgeRights.Proofs.Coverage
import BadgeRights.Proofs.Difference
import BadgeRights.Proofs.Terms
import BadgeRights.Update.Permissions

set_option autoImplicit false

namespace BadgeRights

theorem Spans.mem_of_isSubset {spans others : List Span} (h : isSubset spans others = true)
    {n : Nat} (hn : Mem n spans) : Mem n others := by
  have empty : difference spans others = [] := List.isEmpty_iff.1 h
  apply Classical.byContradiction
  intro outside
  have left := (mem_difference n spans others).2 ⟨hn, outside⟩
  rw [empty] at left
  exact mem_nil n left

structure Windows.Within (w later : Windows) : Prop where
  permitted : ∀ n, Spans.Mem n w.permitted → Spans.Mem n later.permitted
  forbidden : ∀ n, Spans.Mem n w.forbidden → Spans.Mem n later.forbidden

theorem Windows.within_of_keptIn {w later : Windows} (h : w.keptIn later = true) :
    w.Within later := by
  simp only [keptIn, Bool.and_eq_true] at h
  exact ⟨fun _ => Spans.mem_of_isSubset h.1, fun _ => Spans.mem_of_isSubset h.2⟩

theorem Windows.not_isNone {w : Windows} {n : Nat}
    (h : Spans.Mem n w.permitted ∨ Spans.Mem n w.forbidden) : w.isNone = false := by
  rw [Bool.eq_false_iff]
  intro none
  simp only [isNone, Bool.and_eq_true, List.isEmpty_iff] at none
  rw [none.1, none.2] at h
  exact h.elim (Spans.mem_nil n) (Spans.mem_nil n)

namespace Update

theorem within_of_firstLoss? {old new : List Detail} (apart : old.Pairwise Apart)
    (h : firstLoss? (Difference.between old new) = none) {a : Detail} (ha : a ∈ old) {p : Point}
    (hp : p ∈ a) (permanent : a.windows.isNone = false) :
    ∃ b ∈ new, p ∈ b ∧ a.windows.Within b.windows := by
  unfold firstLoss? at h
  split at h
  · cases h
  · rename_i kept
    rw [Option.map_eq_none_iff, List.find?_eq_none] at h
    rw [List.find?_eq_none] at kept
    by_cases covered : ∃ b ∈ new, p ∈ b
    · rcases covered with ⟨b, hb, inNew⟩
      obtain ⟨o, ho, rfl, rfl, _⟩ := Difference.exists_overlap ha hb hp inNew
      have keptIn : o.first.windows.keptIn o.second.windows = true := by simpa using h o ho
      exact ⟨o.second, hb, inNew, Windows.within_of_keptIn keptIn⟩
    · -- A point that lost its detail lies in a dropped piece, which has the windows it had.
      have outside : ∀ b ∈ new, ¬p ∈ b := fun b hb inNew => covered ⟨b, hb, inNew⟩
      obtain ⟨piece, hpiece, inPiece⟩ := (Detail.mem_carveAll new old p).2 ⟨⟨a, ha, hp⟩, outside⟩
      obtain ⟨whole, hwhole, fragment⟩ := Detail.fragment_of_mem_carveAll hpiece
      have here := find?_mem_of_apart apart hwhole (fragment.inside p inPiece)
      rw [find?_mem_of_apart apart ha hp] at here
      obtain rfl := Option.some.inj here
      have dropped : piece.windows.isNone = true := by simpa using kept piece hpiece
      rw [fragment.windows, permanent] at dropped
      cases dropped

section Declared

variable {P : Type} [Permission P] {kind : PermissionKind} {resolve : Resolver} {old new : List P}

theorem permission_eq_ok {verdict : Verdict} :
    permission kind old new resolve = .ok verdict ↔
      ∃ before after, Permission.declare kind resolve old = .ok before ∧
        Permission.declare kind resolve new = .ok after ∧
        verdict = match firstLoss? (Difference.between (flatten before) (flatten after)) with
          | some r => .denied ⟨.permission kind, .permanentTimesRemoved, r⟩
          | none => .permitted := by
  unfold permission flattenPermissions
  simp only [Checked.bind_eq_ok, Checked.mapError_eq_ok, Checked.pure_eq_ok]
  constructor
  · intro h
    rcases h with ⟨_, ⟨before, hbefore, rfl⟩, _, ⟨after, hafter, rfl⟩, h⟩
    refine ⟨before, after, hbefore, hafter, ?_⟩
    cases loss : firstLoss? (Difference.between (flatten before) (flatten after)) <;>
      simp only [loss] at h <;> exact (Checked.pure_eq_ok.1 h).symm
  · intro h
    rcases h with ⟨before, after, hbefore, hafter, rfl⟩
    refine ⟨_, ⟨before, hbefore, rfl⟩, _, ⟨after, hafter, rfl⟩, ?_⟩
    cases loss : firstLoss? (Difference.between (flatten before) (flatten after)) <;> rfl

theorem firstLoss?_of_permission {before after : List Declaration}
    (h : permission kind old new resolve = .ok .permitted)
    (hbefore : Permission.declare kind resolve old = .ok before)
    (hafter : Permission.declare kind resolve new = .ok after) :
    firstLoss? (Difference.between (flatten before) (flatten after)) = none := by
  obtain ⟨_, _, hb, ha, verdict⟩ := permission_eq_ok.1 h
  obtain rfl := Except.ok.inj (hbefore.symm.trans hb)
  obtain rfl := Except.ok.inj (hafter.symm.trans ha)
  split at verdict
  · cases verdict
  · assumption

end Declared

theorem within_at_point {before after : List Declaration} (ordered : ∀ d ∈ before, d.Ordered)
    (h : firstLoss? (Difference.between (flatten before) (flatten after)) = none) {p : Point}
    {d : Declaration} (hd : before.find? (p ∈ ·) = some d) (permanent : d.windows.isNone = false) :
    ∃ e, after.find? (p ∈ ·) = some e ∧ d.windows.Within e.windows := by
  obtain ⟨a, ha, inOld, windowsOld, _⟩ := exists_mem_flatten_of_find? before hd
  rw [← windowsOld] at permanent ⊢
  obtain ⟨b, hb, inNew, within⟩ :=
    within_of_firstLoss? (tiling_flatten before ordered).apart h ha inOld permanent
  obtain ⟨e, he, windowsNew, _⟩ := find?_of_mem_flatten after hb inNew
  exact ⟨e, he, windowsNew ▸ within⟩

theorem forbiddenAt_mono {before after : List Declaration} (ordered : ∀ d ∈ before, d.Ordered)
    (h : firstLoss? (Difference.between (flatten before) (flatten after)) = none) {now : Nat}
    {p : Point} (forbidden : ForbiddenAt before now p) : ForbiddenAt after now p := by
  rcases forbidden with ⟨d, hd, forbids⟩
  obtain ⟨e, he, within⟩ := within_at_point ordered h hd (Windows.not_isNone (.inr forbids))
  exact ⟨e, he, within.forbidden now forbids⟩

end Update

end BadgeRights
