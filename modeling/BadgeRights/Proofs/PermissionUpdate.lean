import BadgeRights.Proofs.ApprovalUpdate

set_option autoImplicit false

namespace BadgeRights

namespace Windows

variable {w : Windows}

theorem keptIn_iff (valid : w.Valid) (later : Windows) :
    w.keptIn later = true ↔ w.Within later := by
  rw [keptIn, Bool.and_eq_true, Spans.isSubset_iff valid.1.ordered,
    Spans.isSubset_iff valid.2.ordered]
  exact ⟨fun h => ⟨h.1, h.2⟩, fun h => ⟨h.permitted, h.forbidden⟩⟩

theorem isNone_eq_false_iff : w.isNone = false ↔ w.permitted ≠ [] ∨ w.forbidden ≠ [] := by
  cases permitted : w.permitted <;> simp [isNone, permitted]

theorem exists_mem_of_not_isNone (valid : w.Valid) (permanent : w.isNone = false) :
    ∃ n, Spans.Mem n w.permitted ∨ Spans.Mem n w.forbidden := by
  rcases isNone_eq_false_iff.1 permanent with some | some
  · rw [ne_eq, valid.1.ordered.eq_nil_iff, not_forall_not] at some
    exact some.imp fun _ => .inl
  · rw [ne_eq, valid.2.ordered.eq_nil_iff, not_forall_not] at some
    exact some.imp fun _ => .inr

end Windows

def LosesAt (before after : List Declaration) (p : Point) : Prop :=
  ∃ now, (PermittedAt before now p ∧ ¬PermittedAt after now p) ∨
    (ForbiddenAt before now p ∧ ¬ForbiddenAt after now p)

structure Declaration.Stuck (d : Declaration) : Prop where
  regions : d.regions ≠ []
  blank : ¬d.ListsInhabited
  permanent : d.windows.isNone = false

section Loss

variable {before after : List Declaration} {p : Point} {d : Declaration}

theorem losesAt_of_not_within (hd : before.find? (p ∈ ·) = some d) (valid : d.windows.Valid)
    (permanent : d.windows.isNone = false)
    (less : ∀ e, after.find? (p ∈ ·) = some e → ¬d.windows.Within e.windows) :
    LosesAt before after p := by
  by_contra kept
  simp only [LosesAt, not_exists, not_or, not_and, not_not] at kept
  -- One kept instant shows a declaration afterwards, and all of them that its windows are larger.
  have covered : ∃ e, after.find? (p ∈ ·) = some e := by
    obtain ⟨n, permits | forbids⟩ := Windows.exists_mem_of_not_isNone valid permanent
    · obtain ⟨e, he, _⟩ := (kept n).1 ⟨d, hd, permits⟩
      exact ⟨e, he⟩
    · obtain ⟨e, he, _⟩ := (kept n).2 ⟨d, hd, forbids⟩
      exact ⟨e, he⟩
  obtain ⟨e, he⟩ := covered
  apply less e he
  constructor
  · intro n permits
    obtain ⟨other, found, permits⟩ := (kept n).1 ⟨d, hd, permits⟩
    obtain rfl : e = other := Option.some.inj (he.symm.trans found)
    exact permits
  · intro n forbids
    obtain ⟨other, found, forbids⟩ := (kept n).2 ⟨d, hd, forbids⟩
    obtain rfl : e = other := Option.some.inj (he.symm.trans found)
    exact forbids

theorem exists_stuck_iff (ordered : ∀ d ∈ before, d.Ordered) :
    (∃ d ∈ before, d.Stuck) ↔
      ∃ e ∈ flatten before, (¬∃ p : Point, p ∈ e) ∧ e.windows.isNone = false := by
  -- A region without points meets no other, so that flattening leaves it as it was declared.
  constructor
  · intro h
    rcases h with ⟨d, hd, stuck⟩
    obtain ⟨r, hr⟩ := List.exists_mem_of_ne_nil _ stuck.regions
    have blank : ¬∃ p : Point, p ∈ r :=
      mt (Declaration.exists_mem_region_iff (ordered d hd) hr).1 stuck.blank
    have stated : (⟨r, d.windows, d.payload⟩ : Detail) ∈ before.flatMap Declaration.details :=
      List.mem_flatMap.2 ⟨d, hd, List.mem_map_of_mem hr⟩
    exact ⟨_, (mem_flatten_iff_of_blank ordered blank).2 stated, blank, stuck.permanent⟩
  · intro h
    rcases h with ⟨e, he, blank, permanent⟩
    obtain ⟨d, hd, he⟩ := List.mem_flatMap.1 ((mem_flatten_iff_of_blank ordered blank).1 he)
    obtain ⟨r, hr, rfl⟩ := List.mem_map.1 he
    refine ⟨d, hd, List.ne_nil_of_mem hr, ?_, permanent⟩
    exact mt (Declaration.exists_mem_region_iff (ordered d hd) hr).2 blank

end Loss

namespace Update

theorem firstLoss?_eq_some {d : Difference} {r : Region} (h : firstLoss? d = some r) :
    (∃ e ∈ d.firstOnly, e.windows.isNone = false ∧ e.region = r) ∨
      ∃ o ∈ d.overlaps, ¬o.first.windows.keptIn o.second.windows = true ∧ o.region = r := by
  unfold firstLoss? at h
  split at h
  · rename_i dropped found
    obtain rfl := Option.some.inj h
    have permanent := List.find?_some found
    exact .inl ⟨dropped, List.mem_of_find?_eq_some found, by simpa using permanent, rfl⟩
  · obtain ⟨o, found, rfl⟩ := Option.map_eq_some_iff.1 h
    have less := List.find?_some found
    exact .inr ⟨o, List.mem_of_find?_eq_some found, by simpa using less, rfl⟩

section Declarations

variable {before after : List Declaration} (ordered : ∀ d ∈ before, d.Ordered)
  (orderedAfter : ∀ d ∈ after, d.Ordered)

include ordered

theorem not_losesAt_of_firstLoss?
    (h : firstLoss? (Difference.between (flatten before) (flatten after)) = none) (p : Point) :
    ¬LosesAt before after p := by
  intro loses
  rcases loses with ⟨now, ⟨⟨d, hd, permits⟩, less⟩ | ⟨⟨d, hd, forbids⟩, less⟩⟩
  · obtain ⟨e, he, within⟩ := within_at_point ordered h hd (Windows.not_isNone (.inl permits))
    exact less ⟨e, he, within.permitted now permits⟩
  · exact less (forbiddenAt_mono ordered h ⟨d, hd, forbids⟩)

include orderedAfter

theorem not_stuck_of_firstLoss?
    (h : firstLoss? (Difference.between (flatten before) (flatten after)) = none) :
    ∀ d ∈ before, ¬d.Stuck := by
  intro d hd stuck
  obtain ⟨e, he, blank, permanent⟩ := (exists_stuck_iff ordered).1 ⟨d, hd, stuck⟩
  -- No detail meets one without points, which is therefore dropped whatever comes after.
  have dropped := (Detail.mem_carveAll_iff_of_blank (tiling_flatten before ordered)
    (tiling_flatten after orderedAfter).ordered blank).2 he
  unfold firstLoss? at h
  split at h
  · cases h
  · rename_i kept
    have none := List.find?_eq_none.1 kept e dropped
    simp [permanent] at none

theorem justified_of_firstLoss? (valid : ∀ d ∈ before, d.windows.Valid) {r : Region}
    (h : firstLoss? (Difference.between (flatten before) (flatten after)) = some r) :
    (∃ p ∈ r, LosesAt before after p) ∨ ((∀ p : Point, ¬p ∈ r) ∧ ∃ d ∈ before, d.Stuck) := by
  have tiling := tiling_flatten before ordered
  have tilingAfter := tiling_flatten after orderedAfter
  rcases firstLoss?_eq_some h with ⟨e, he, permanent, rfl⟩ | ⟨o, ho, less, rfl⟩
  · by_cases inhabited : ∃ p : Point, p ∈ e
    · -- The dropped piece has a point, which no declaration covers any more.
      left
      rcases inhabited with ⟨p, hp⟩
      obtain ⟨_, uncovered⟩ := (Detail.mem_carveAll (flatten after) (flatten before) p).1 ⟨e, he, hp⟩
      obtain ⟨whole, hwhole, fragment⟩ := Detail.fragment_of_mem_carveAll he
      obtain ⟨d, hd, windows, _⟩ := find?_of_mem_flatten before hwhole (fragment.inside p hp)
      rw [fragment.windows, windows] at permanent
      refine ⟨p, hp, losesAt_of_not_within hd (valid d (List.mem_of_find?_eq_some hd)) permanent ?_⟩
      intro other found
      obtain ⟨b, hb, inside, _⟩ := exists_mem_flatten_of_find? after found
      exact absurd inside (uncovered b hb)
    · -- A piece without points is a whole region, as the old declaration states it.
      right
      have stated := (Detail.mem_carveAll_iff_of_blank tiling tilingAfter.ordered inhabited).1 he
      exact ⟨not_exists.1 inhabited, (exists_stuck_iff ordered).2 ⟨e, stated, inhabited, permanent⟩⟩
  · -- An overlap has a point, and the declarations compared are the first ones there.
    left
    obtain ⟨p, hp⟩ := Difference.inhabited_of_mem_overlaps tiling tilingAfter ho
    obtain ⟨inFirst, inSecond⟩ := (Difference.mem_overlap ho p).1 hp
    obtain ⟨hfirst, hsecond, _⟩ := Difference.mem_overlaps.1 ho
    obtain ⟨d, hd, windows, _⟩ := find?_of_mem_flatten before hfirst inFirst
    obtain ⟨e, he, windowsAfter, _⟩ := find?_of_mem_flatten after hsecond inSecond
    have validWindows := valid d (List.mem_of_find?_eq_some hd)
    rw [windows, windowsAfter, Windows.keptIn_iff validWindows e.windows] at less
    have permanent : d.windows.isNone = false := by
      rw [Windows.isNone_eq_false_iff]
      by_contra none
      simp only [not_or, ne_eq, not_not] at none
      exact less ⟨by simp [none.1], by simp [none.2]⟩
    refine ⟨p, hp, losesAt_of_not_within hd validWindows permanent ?_⟩
    intro other found
    obtain rfl : e = other := Option.some.inj (he.symm.trans found)
    exact less

end Declarations

end Update

namespace ApprovalPermission

def IsVoid (q : ApprovalPermission) (resolve : Resolver) : Prop :=
  (q.terms.badgeIds ≠ [] ∧ q.terms.transferTimes ≠ [] ∧ q.terms.ownershipTimes ≠ []) ∧
    ∃ id ∈ q.listIds, resolve.Empty id

instance (q : ApprovalPermission) (resolve : Resolver) : Decidable (q.IsVoid resolve) :=
  inferInstanceAs (Decidable ((_ ∧ _ ∧ _) ∧ ∃ id ∈ q.listIds, resolve.Empty id))

end ApprovalPermission

class RegionalPermission (P : Type) [Permission P] extends LawfulPermission P where
  IsVoid : P → Resolver → Prop
  isVoid_iff {q : P} {resolve : Resolver} {d : Declaration} :
    Permission.toDeclaration resolve q = .ok d →
      (IsVoid q resolve ↔ d.regions ≠ [] ∧ ¬d.ListsInhabited)

open Permission

-- Only permissions on approvals name lists; the other kinds speak about everyone.

instance : RegionalPermission ActionPermission where
  IsVoid _ _ := False
  isVoid_iff h := by
    obtain ⟨_, _, h⟩ := Checked.bind_eq_ok.1 h
    obtain rfl := Checked.pure_eq_ok.1 h
    exact ⟨False.elim, fun void => void.2 (Declaration.everywhere_listsInhabited .empty)⟩

instance : RegionalPermission TimedPermission where
  IsVoid _ _ := False
  isVoid_iff h := by
    obtain ⟨_, _, h⟩ := Checked.bind_eq_ok.1 h
    obtain ⟨_, _, h⟩ := Checked.bind_eq_ok.1 h
    obtain rfl := Checked.pure_eq_ok.1 h
    exact ⟨False.elim, fun void => void.2 (Declaration.everywhere_listsInhabited .empty)⟩

instance : RegionalPermission BadgeTimedPermission where
  IsVoid _ _ := False
  isVoid_iff h := by
    obtain ⟨_, _, h⟩ := Checked.bind_eq_ok.1 h
    obtain ⟨_, _, h⟩ := Checked.bind_eq_ok.1 h
    obtain ⟨_, _, h⟩ := Checked.bind_eq_ok.1 h
    obtain rfl := Checked.pure_eq_ok.1 h
    exact ⟨False.elim, fun void => void.2 (Declaration.everywhere_listsInhabited .empty)⟩

instance : RegionalPermission ApprovalPermission where
  IsVoid := ApprovalPermission.IsVoid
  isVoid_iff h := by
    obtain ⟨_, _, _, _, _, _, _, hfrom, hto, hby, rfl⟩ := ApprovalPermission.toDeclaration_eq_ok.1 h
    rw [Declaration.regions_ne_nil_iff,
      Declaration.listsInhabited_iff_parties hfrom hto hby (AddressList.exists_mem_ofId _)
        (AddressList.exists_mem_ofId _) (AddressList.exists_mem_ofId _)]
    simp only [ApprovalPermission.IsVoid, ApprovalPermission.listIds, not_forall, not_not,
      exists_prop]
    apply and_congr_left'
    simp [ApprovalPermission.declaration, Declaration.everywhere]

namespace Permission

variable {P : Type} [Permission P]

section Lawful

variable [LawfulPermission P] {resolve : Resolver} {old new : List P}
  {before after : List Declaration}

def PermittedAt (permissions : List P) (resolve : Resolver) (now : Nat) (p : Point) : Prop :=
  ∃ q, permissions.find? (fun q => LawfulPermission.Covers q resolve p) = some q ∧
    Spans.Mem now (LawfulPermission.windows q).permitted

def ForbiddenAt (permissions : List P) (resolve : Resolver) (now : Nat) (p : Point) : Prop :=
  ∃ q, permissions.find? (fun q => LawfulPermission.Covers q resolve p) = some q ∧
    Spans.Mem now (LawfulPermission.windows q).forbidden

def LosesAt (old new : List P) (resolve : Resolver) (p : Point) : Prop :=
  ∃ now, (PermittedAt old resolve now p ∧ ¬PermittedAt new resolve now p) ∨
    (ForbiddenAt old resolve now p ∧ ¬ForbiddenAt new resolve now p)

theorem losesAt_declared (hbefore : toDeclarations resolve old = .ok before)
    (hafter : toDeclarations resolve new = .ok after) (p : Point) :
    BadgeRights.LosesAt before after p ↔ LosesAt old new resolve p := by
  have permits (now : Nat) := exists_find?_iff hbefore p (Spans.Mem now ·.permitted)
  have forbids (now : Nat) := exists_find?_iff hbefore p (Spans.Mem now ·.forbidden)
  have permitsAfter (now : Nat) := exists_find?_iff hafter p (Spans.Mem now ·.permitted)
  have forbidsAfter (now : Nat) := exists_find?_iff hafter p (Spans.Mem now ·.forbidden)
  exact exists_congr fun now => or_congr (and_congr (permits now) (not_congr (permitsAfter now)))
    (and_congr (forbids now) (not_congr (forbidsAfter now)))

theorem valid_of_toDeclarations (h : toDeclarations resolve old = .ok before) :
    ∀ d ∈ before, d.windows.Valid := by
  intro d hd
  obtain ⟨q, _, hq⟩ := exists_left_of_forall₂ (Checked.mapM_eq_ok.1 h) hd
  have states := LawfulPermission.declared hq
  rw [states.windows]
  exact states.valid

theorem not_losesAt_append (old more : List P) (resolve : Resolver) (p : Point) :
    ¬LosesAt old (old ++ more) resolve p := by
  have first {q : P} (found : old.find? (fun q => LawfulPermission.Covers q resolve p) = some q) :
      (old ++ more).find? (fun q => LawfulPermission.Covers q resolve p) = some q := by
    rw [List.find?_append, found, Option.some_or]
  intro loses
  rcases loses with ⟨now, ⟨⟨q, found, permits⟩, less⟩ | ⟨⟨q, found, forbids⟩, less⟩⟩
  · exact less ⟨q, first found, permits⟩
  · exact less ⟨q, first found, forbids⟩

end Lawful

variable [RegionalPermission P] {resolve : Resolver}

/-- The permission states something, but about regions without points. -/
def Stuck (q : P) (resolve : Resolver) : Prop :=
  RegionalPermission.IsVoid q resolve ∧
    ((LawfulPermission.windows q).permitted ≠ [] ∨ (LawfulPermission.windows q).forbidden ≠ [])

theorem stuck_declared {q : P} {d : Declaration} (h : toDeclaration resolve q = .ok d) :
    Stuck q resolve ↔ d.Stuck := by
  rw [Stuck, RegionalPermission.isVoid_iff h, ← Windows.isNone_eq_false_iff,
    ← (LawfulPermission.declared h).windows, and_assoc]
  exact ⟨fun ⟨regions, blank, permanent⟩ => ⟨regions, blank, permanent⟩,
    fun stuck => ⟨stuck.regions, stuck.blank, stuck.permanent⟩⟩

theorem exists_stuck_declared {permissions : List P} {declarations : List Declaration}
    (h : toDeclarations resolve permissions = .ok declarations) :
    (∃ q ∈ permissions, Stuck q resolve) ↔ ∃ d ∈ declarations, d.Stuck :=
  exists_mem_iff_of_forall₂ (Checked.mapM_eq_ok.1 h) fun _ _ => stuck_declared

end Permission

namespace Update

open Governed

variable {P : Type} [Permission P] {kind : PermissionKind} {resolve : Resolver} {old new : List P}

/-- An accepted update loses no instant that is permitted or forbidden for good: where the first
permission has some, the first one of the new list has them too. -/
theorem accepted_keeps_instants [LawfulPermission P]
    (accepted : permission kind old new resolve = .ok .permitted) {p : Point} {q : P}
    (first : old.find? (fun q => LawfulPermission.Covers q resolve p) = some q)
    (permanent : (LawfulPermission.windows q).permitted ≠ [] ∨
      (LawfulPermission.windows q).forbidden ≠ []) :
    ∃ r, new.find? (fun q => LawfulPermission.Covers q resolve p) = some r ∧
      (LawfulPermission.windows q).Within (LawfulPermission.windows r) := by
  obtain ⟨before, after, hbefore, hafter, _⟩ := permission_eq_ok.1 accepted
  have kept := firstLoss?_of_permission accepted hbefore hafter
  obtain ⟨declared, _⟩ := Permission.declare_eq_ok.1 hbefore
  obtain ⟨declaredAfter, _⟩ := Permission.declare_eq_ok.1 hafter
  obtain ⟨d, hd, windows⟩ := (Permission.exists_find?_iff declared p
    (· = LawfulPermission.windows q)).2 ⟨q, first, rfl⟩
  rw [← Windows.isNone_eq_false_iff, ← windows] at permanent
  have within := within_at_point (Permission.ordered_of_declare hbefore) kept hd permanent
  rw [windows] at within
  exact (Permission.exists_find?_iff declaredAfter p _).1 within

def splitLock : List ApprovalPermission := [
  mintPermission [⟨11, 20⟩] ⟨[⟨1, 2000⟩], []⟩,
  mintPermission [⟨6, 10⟩] ⟨[], [.full]⟩,
  mintPermission [⟨1, 5⟩] ⟨[], [⟨1, 1000⟩, ⟨1001, maxValue⟩]⟩]

theorem splitLock_keeps_instants :
    permission .updateCollectionApprovals lockedMint.permissions splitLock mintResolver =
        .ok .permitted ∧
      ∃ q, lockedMint.permissions.find? (fun q => q.Covers mintResolver (mintPoint 3)) = some q ∧
        q.windows.forbidden ≠ [] ∧
        ∃ r, splitLock.find? (fun q => q.Covers mintResolver (mintPoint 3)) = some r ∧
          q.windows.Within r.windows := by
  have accepted : permission .updateCollectionApprovals lockedMint.permissions splitLock
      mintResolver = .ok .permitted := rfl
  have first : lockedMint.permissions.find? (fun q => q.Covers mintResolver (mintPoint 3)) =
      some (mintPermission [⟨1, 10⟩] ⟨[], [.full]⟩) := by decide
  exact ⟨accepted, _, first, by decide, accepted_keeps_instants accepted first (.inr (by decide))⟩

variable [RegionalPermission P]

theorem justified_of_denied {denial : Denial}
    (denied : permission kind old new resolve = .ok (.denied denial)) :
    denial.kind = .permanentTimesRemoved ∧
      ((∃ p ∈ denial.region, Permission.LosesAt old new resolve p) ∨
        ((∀ p : Point, ¬p ∈ denial.region) ∧ ∃ q ∈ old, Permission.Stuck q resolve)) := by
  obtain ⟨before, after, hbefore, hafter, verdict⟩ := permission_eq_ok.1 denied
  obtain ⟨declared, _⟩ := Permission.declare_eq_ok.1 hbefore
  obtain ⟨declaredAfter, _⟩ := Permission.declare_eq_ok.1 hafter
  simp only [← Permission.losesAt_declared declared declaredAfter,
    Permission.exists_stuck_declared declared]
  split at verdict
  · rename_i r loss
    obtain rfl := Verdict.denied.inj verdict
    exact ⟨rfl, justified_of_firstLoss? (Permission.ordered_of_declare hbefore)
      (Permission.ordered_of_declare hafter) (Permission.valid_of_toDeclarations declared) loss⟩
  · cases verdict

theorem permission_permitted_iff {before after : List Declaration}
    (hbefore : Permission.declare kind resolve old = .ok before)
    (hafter : Permission.declare kind resolve new = .ok after) :
    permission kind old new resolve = .ok .permitted ↔
      (∀ p, ¬Permission.LosesAt old new resolve p) ∧ ∀ q ∈ old, ¬Permission.Stuck q resolve := by
  obtain ⟨declared, _⟩ := Permission.declare_eq_ok.1 hbefore
  obtain ⟨declaredAfter, _⟩ := Permission.declare_eq_ok.1 hafter
  have ordered := Permission.ordered_of_declare hbefore
  constructor
  · intro accepted
    have kept := firstLoss?_of_permission accepted hbefore hafter
    constructor
    · intro p
      rw [← Permission.losesAt_declared declared declaredAfter]
      exact not_losesAt_of_firstLoss? ordered kept p
    · intro q hq stuck
      obtain ⟨d, hd, stuck⟩ := (Permission.exists_stuck_declared declared).1 ⟨q, hq, stuck⟩
      exact not_stuck_of_firstLoss? ordered (Permission.ordered_of_declare hafter) kept d hd stuck
  · intro free
    rcases free with ⟨lossless, unstuck⟩
    obtain ⟨verdict, answered⟩ : ∃ verdict, permission kind old new resolve = .ok verdict :=
      ⟨_, permission_eq_ok.2 ⟨before, after, hbefore, hafter, rfl⟩⟩
    cases verdict with
    | permitted => exact answered
    | denied denial =>
        -- A denial would name what is excluded here.
        obtain ⟨_, ⟨p, _, loses⟩ | ⟨_, q, hq, stuck⟩⟩ := justified_of_denied answered
        · exact absurd loses (lossless p)
        · exact absurd stuck (unstuck q hq)

/-- A denial of an update of permissions names a region with a point that loses an instant, or else a
region without points, and then an old permission is stuck. Only such a one keeps an old list with
well-formed permissions appended, or with none, from being let through. -/
theorem denials_are_justified (kind : PermissionKind) (old : List P) (resolve : Resolver) :
    (∀ new denial, permission kind old new resolve = .ok (.denied denial) →
        denial.kind = .permanentTimesRemoved ∧
          ((∃ p ∈ denial.region, Permission.LosesAt old new resolve p) ∨
            ((∀ p : Point, ¬p ∈ denial.region) ∧ ∃ q ∈ old, Permission.Stuck q resolve))) ∧
      ∀ more, (∀ q ∈ old ++ more, LawfulPermission.WellFormed q resolve) →
        (permission kind old (old ++ more) resolve = .ok .permitted ↔
          ∀ q ∈ old, ¬Permission.Stuck q resolve) := by
  constructor
  · intro new denial denied
    exact justified_of_denied denied
  · intro more wellFormed
    have wellFormedOld := (List.forall_mem_append.1 wellFormed).1
    obtain ⟨before, hbefore⟩ := Permission.exists_declare kind wellFormedOld
    obtain ⟨after, hafter⟩ := Permission.exists_declare kind wellFormed
    rw [permission_permitted_iff hbefore hafter, and_iff_right]
    exact Permission.not_losesAt_append old more resolve

theorem tenLocked_extends :
    (∀ q ∈ tenLocked ++ splitLock, q.WellFormed mintResolver) ∧
      permission .updateCollectionApprovals tenLocked (tenLocked ++ splitLock) mintResolver =
        .ok .permitted := by
  have wellFormed : ∀ q ∈ tenLocked ++ splitLock, q.WellFormed mintResolver := by
    refine List.forall_mem_append.2 ⟨tenLocked_wellFormed, ?_⟩
    simp only [splitLock, List.forall_mem_cons]
    refine ⟨?_, ?_, ?_, nofun⟩
    all_goals exact mintPermission_wellFormed (by decide) (by decide)
  have noneVoid : ∀ q ∈ tenLocked, ¬q.IsVoid mintResolver := by decide
  have justified := denials_are_justified .updateCollectionApprovals tenLocked mintResolver
  exact ⟨wellFormed, (justified.2 splitLock wellFormed).2 fun q hq stuck => noneVoid q hq stuck.1⟩

def unsentPermission : ApprovalPermission where
  fromListId := "None"
  toListId := "AllWithMint"
  terms := ⟨"AllWithMint", [⟨1, 10⟩], [⟨1, 10⟩], [⟨1, 10⟩], "All", "", ""⟩
  windows := ⟨[], [⟨1, 10⟩]⟩

theorem unsentPermission_noop_denied :
    permission .updateCollectionApprovals [unsentPermission] [unsentPermission] Resolver.reserved =
      .ok (.denied ⟨.permission .updateCollectionApprovals, .permanentTimesRemoved,
        { unsentRegion with approvalIdList := .everyone }⟩) := by
  decide +kernel

end Update

end BadgeRights
