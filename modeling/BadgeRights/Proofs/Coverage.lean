import BadgeRights.Proofs.Checked
import BadgeRights.Proofs.Flattening
import BadgeRights.Update.Coverage

set_option autoImplicit false

namespace BadgeRights

def ForbiddenAt (declarations : List Declaration) (now : Nat) (p : Point) : Prop :=
  ∃ d, declarations.find? (p ∈ ·) = some d ∧ Spans.Mem now d.windows.forbidden

def PermittedAt (declarations : List Declaration) (now : Nat) (p : Point) : Prop :=
  ∃ d, declarations.find? (p ∈ ·) = some d ∧ Spans.Mem now d.windows.permitted

def TouchesForbidden (declarations : List Declaration) (now : Nat) (changed : List Region) :
    Prop :=
  ∃ r ∈ changed, ∃ p : Point, p ∈ r ∧ ForbiddenAt declarations now p

namespace Windows

theorem permits_eq_true (w : Windows) (now : Nat) :
    w.permits now = true ↔ Spans.Mem now w.permitted :=
  Spans.contains_eq_true _ _

theorem forbids_eq_true (w : Windows) (now : Nat) :
    w.forbids now = true ↔ Spans.Mem now w.forbidden :=
  Spans.contains_eq_true _ _

end Windows

namespace Update

theorem exists_mem_forbiddenRegions (declarations : List Declaration) (now : Nat) (p : Point) :
    (∃ f ∈ forbiddenRegions now (flatten declarations), p ∈ f) ↔
      ForbiddenAt declarations now p := by
  constructor
  · intro h
    rcases h with ⟨f, hf, hp⟩
    obtain ⟨d, hd, rfl⟩ := List.mem_map.1 hf
    obtain ⟨hd, forbids⟩ := List.mem_filter.1 hd
    obtain ⟨declaration, found, windows, _⟩ := find?_of_mem_flatten declarations hd hp
    rw [Windows.forbids_eq_true, windows] at forbids
    exact ⟨declaration, found, forbids⟩
  · intro h
    rcases h with ⟨declaration, found, forbids⟩
    obtain ⟨d, hd, hp, windows, _⟩ := exists_mem_flatten_of_find? declarations found
    rw [← windows, ← Windows.forbids_eq_true] at forbids
    exact ⟨d.region, List.mem_map_of_mem (List.mem_filter.2 ⟨hd, forbids⟩), hp⟩

theorem exists_mem_permittedRegions (declarations : List Declaration) (now : Nat) (p : Point) :
    (∃ h ∈ permittedRegions now (flatten declarations), p ∈ h) ↔
      PermittedAt declarations now p ∧ ¬ForbiddenAt declarations now p := by
  constructor
  · intro h
    rcases h with ⟨h, hh, hp⟩
    obtain ⟨d, hd, rfl⟩ := List.mem_map.1 hh
    obtain ⟨hd, allowed⟩ := List.mem_filter.1 hd
    obtain ⟨declaration, found, windows, _⟩ := find?_of_mem_flatten declarations hd hp
    simp only [Bool.and_eq_true, Bool.not_eq_true', windows] at allowed
    refine ⟨⟨declaration, found, (Windows.permits_eq_true _ _).1 allowed.1⟩, ?_⟩
    intro forbidden
    rcases forbidden with ⟨other, foundOther, forbids⟩
    obtain rfl : declaration = other := Option.some.inj (found.symm.trans foundOther)
    rw [← Windows.forbids_eq_true, allowed.2] at forbids
    cases forbids
  · intro h
    rcases h with ⟨⟨declaration, found, permits⟩, notForbidden⟩
    obtain ⟨d, hd, hp, windows, _⟩ := exists_mem_flatten_of_find? declarations found
    have forbids : d.windows.forbids now = false := by
      rw [Bool.eq_false_iff, ne_eq, Windows.forbids_eq_true, windows]
      exact fun forbids => notForbidden ⟨declaration, found, forbids⟩
    rw [← windows, ← Windows.permits_eq_true] at permits
    refine ⟨d.region, List.mem_map_of_mem (List.mem_filter.2 ⟨hd, ?_⟩), hp⟩
    simp [permits, forbids]

theorem firstForbidden?_eq_some {changed forbidden : List Region} {s : Region}
    (h : firstForbidden? changed forbidden = some s) :
    ∃ r ∈ changed, ∃ f ∈ forbidden, (r.cut f).shared = some s := by
  obtain ⟨r, hr, h⟩ := List.exists_of_findSome?_eq_some h
  obtain ⟨f, hf, h⟩ := List.exists_of_findSome?_eq_some h
  exact ⟨r, hr, f, hf, h⟩

theorem firstForbidden?_eq_none {changed forbidden : List Region}
    (h : firstForbidden? changed forbidden = none) :
    ∀ r ∈ changed, ∀ f ∈ forbidden, (r.cut f).shared = none := by
  intro r hr f hf
  exact List.findSome?_eq_none_iff.1 (List.findSome?_eq_none_iff.1 h r hr) f hf

theorem firstUncovered?_eq_some {changed permitted : List Region} {s : Region}
    (h : firstUncovered? changed permitted = some s) :
    ∃ r ∈ changed, s ∈ r.uncovered permitted := by
  obtain ⟨r, hr, h⟩ := List.exists_of_findSome?_eq_some h
  exact ⟨r, hr, List.mem_of_head? h⟩

theorem firstUncovered?_eq_none {changed permitted : List Region}
    (h : firstUncovered? changed permitted = none) :
    ∀ r ∈ changed, r.uncovered permitted = [] := by
  intro r hr
  exact List.head?_eq_none_iff.1 (List.findSome?_eq_none_iff.1 h r hr)

inductive Judged (field : UpdateField) (changed : List Region) (declarations : List Declaration)
    (stance : Stance) : Verdict → Prop where
  | forbidden (r s : Region) (member : r ∈ changed) (part : s.Part r) (inhabited : ∃ p, p ∈ s)
      (all : ∀ p ∈ s, ForbiddenAt declarations stance.now p) :
      Judged field changed declarations stance (.denied ⟨field, .forbidden, s⟩)
  | neutral (untouched : ¬TouchesForbidden declarations stance.now changed)
      (policy : stance.unhandled = .neutral) :
      Judged field changed declarations stance .permitted
  | notPermitted (r s : Region) (untouched : ¬TouchesForbidden declarations stance.now changed)
      (policy : stance.unhandled = .requirePermitted) (member : r ∈ changed) (part : s.Part r)
      (none : ∀ p ∈ s, ¬PermittedAt declarations stance.now p) :
      Judged field changed declarations stance (.denied ⟨field, .notPermitted, s⟩)
  | permitted (untouched : ¬TouchesForbidden declarations stance.now changed)
      (policy : stance.unhandled = .requirePermitted)
      (all : ∀ r ∈ changed, ∀ p ∈ r, PermittedAt declarations stance.now p) :
      Judged field changed declarations stance .permitted

theorem touches_of_part {changed : List Region} {declarations : List Declaration} {now : Nat}
    {r s : Region} (member : r ∈ changed) (part : s.Part r) (inhabited : ∃ p, p ∈ s)
    (all : ∀ p ∈ s, ForbiddenAt declarations now p) : TouchesForbidden declarations now changed := by
  obtain ⟨p, hp⟩ := inhabited
  exact ⟨r, member, p, part.mem p hp, all p hp⟩

theorem Judged.untouched {field : UpdateField} {changed : List Region}
    {declarations : List Declaration} {stance : Stance}
    (judged : Judged field changed declarations stance .permitted) :
    ¬TouchesForbidden declarations stance.now changed := by
  cases judged with
  | neutral untouched _ => exact untouched
  | permitted untouched _ _ => exact untouched

/-- The verdict on regions that hold the points of `Changed`. That permitted points are let through
takes regions that have points. -/
theorem Judged.decides {field : UpdateField} {changed : List Region}
    {declarations : List Declaration} {stance : Stance} {verdict : Verdict}
    (judged : Judged field changed declarations stance verdict) {Changed : Point → Prop}
    (holds : ∀ p : Point, (∃ r ∈ changed, p ∈ r) ↔ Changed p) :
    let touched := ∃ p, Changed p ∧ ForbiddenAt declarations stance.now p
    let allPermitted := ∀ p, Changed p → PermittedAt declarations stance.now p
    ((∃ s, verdict = .denied ⟨field, .forbidden, s⟩) ↔ touched) ∧
      (¬touched → stance.unhandled = .neutral → verdict = .permitted) ∧
      (¬touched → stance.unhandled = .requirePermitted →
        (verdict = .permitted → allPermitted) ∧
          ((∀ r ∈ changed, ∃ p : Point, p ∈ r) → allPermitted → verdict = .permitted) ∧
          (verdict ≠ .permitted → ∃ s, verdict = .denied ⟨field, .notPermitted, s⟩)) := by
  intro touched allPermitted
  have touches : TouchesForbidden declarations stance.now changed ↔ touched := by
    constructor
    · intro h
      rcases h with ⟨r, hr, p, hp, forbidden⟩
      exact ⟨p, (holds p).1 ⟨r, hr, hp⟩, forbidden⟩
    · intro h
      rcases h with ⟨p, hp, forbidden⟩
      obtain ⟨r, hr, hp⟩ := (holds p).2 hp
      exact ⟨r, hr, p, hp, forbidden⟩
  rw [← touches]
  cases judged with
  | forbidden r s member part inhabited all =>
      have touches := touches_of_part member part inhabited all
      exact ⟨⟨fun _ => touches, fun _ => ⟨s, rfl⟩⟩, absurd touches, absurd touches⟩
  | neutral untouched policy =>
      refine ⟨⟨by simp, fun touches => absurd touches untouched⟩, fun _ _ => rfl, ?_⟩
      intro _ required
      rw [policy] at required
      cases required
  | notPermitted r s untouched policy member part none =>
      refine ⟨⟨by simp, fun touches => absurd touches untouched⟩, ?_, ?_⟩
      · intro _ neutral
        rw [policy] at neutral
        cases neutral
      · refine fun _ _ => ⟨by simp, ?_, fun _ => ⟨s, rfl⟩⟩
        -- A leftover of a region with points has a point, so that one is not permitted.
        intro inhabited permitted
        obtain ⟨p, hp⟩ := part.inhabited (inhabited r member)
        exact absurd (permitted p ((holds p).1 ⟨r, member, part.mem p hp⟩)) (none p hp)
  | permitted untouched policy all =>
      refine ⟨⟨by simp, fun touches => absurd touches untouched⟩, fun _ _ => rfl, ?_⟩
      refine fun _ _ => ⟨?_, fun _ _ => rfl, fun h => absurd rfl h⟩
      intro _ p hp
      obtain ⟨r, hr, hp⟩ := (holds p).2 hp
      exact all r hr p hp

theorem Judged.decides_read {field : UpdateField} {changed : List Region}
    {declarations : List Declaration} {stance : Stance} {verdict : Verdict}
    (judged : Judged field changed declarations stance verdict)
    (inhabited : ∀ r ∈ changed, ∃ p : Point, p ∈ r) {ι : Type} (read : Point → ι)
    {Off : Point → Prop} (Changed Forbidden Permitted : ι → Prop)
    (reached : ∀ i, Changed i → ∃ p, Off p ∧ read p = i)
    (holds : ∀ p : Point, (∃ r ∈ changed, p ∈ r) ↔ Off p ∧ Changed (read p))
    (forbids : ∀ p, Off p → (ForbiddenAt declarations stance.now p ↔ Forbidden (read p)))
    (permits : ∀ p, Off p → (PermittedAt declarations stance.now p ↔ Permitted (read p))) :
    let touched := ∃ i, Changed i ∧ Forbidden i
    let allPermitted := ∀ i, Changed i → Permitted i
    ((∃ s, verdict = .denied ⟨field, .forbidden, s⟩) ↔ touched) ∧
      (¬touched → stance.unhandled = .neutral → verdict = .permitted) ∧
      (¬touched → stance.unhandled = .requirePermitted →
        (verdict = .permitted ↔ allPermitted) ∧
          (¬allPermitted → ∃ s, verdict = .denied ⟨field, .notPermitted, s⟩)) := by
  intro touched allPermitted
  have touches : (∃ p, (Off p ∧ Changed (read p)) ∧ ForbiddenAt declarations stance.now p) ↔
      touched := by
    constructor
    · intro h
      rcases h with ⟨p, ⟨off, change⟩, forbidden⟩
      exact ⟨read p, change, (forbids p off).1 forbidden⟩
    · intro h
      rcases h with ⟨i, change, forbidden⟩
      obtain ⟨p, off, rfl⟩ := reached i change
      exact ⟨p, ⟨off, change⟩, (forbids p off).2 forbidden⟩
  have permitsAll : (∀ p, Off p ∧ Changed (read p) → PermittedAt declarations stance.now p) ↔
      allPermitted := by
    constructor
    · intro all i change
      obtain ⟨p, off, rfl⟩ := reached i change
      exact (permits p off).1 (all p ⟨off, change⟩)
    · intro all p h
      exact (permits p h.1).2 (all (read p) h.2)
  have decides := judged.decides holds
  simp only [touches, permitsAll] at decides
  obtain ⟨forbidden, neutral, required⟩ := decides
  refine ⟨forbidden, neutral, ?_⟩
  intro untouched policy
  obtain ⟨sound, complete, otherwise⟩ := required untouched policy
  refine ⟨⟨sound, complete inhabited⟩, ?_⟩
  intro refused
  exact otherwise fun accepted => refused (sound accepted)

section Compared

variable {V : Type}

def compared (flat : V → Checked (List Detail)) (field : UpdateField)
    (declared : Checked (List Declaration)) (stance : Stance) (old new : V) : Checked Verdict := do
  let old ← (flat old).mapError Fault.inOld
  let new ← (flat new).mapError Fault.inNew
  let declarations ← declared
  return checkRegions field (Difference.changedRegions old new) declarations stance

variable {flat : V → Checked (List Detail)} {field : UpdateField}
  {declared : Checked (List Declaration)} {stance : Stance} {old new : V}

theorem compared_eq_ok {verdict : Verdict} :
    compared flat field declared stance old new = .ok verdict ↔
      ∃ before after declarations, flat old = .ok before ∧ flat new = .ok after ∧
        declared = .ok declarations ∧
        checkRegions field (Difference.changedRegions before after) declarations stance =
          verdict := by
  unfold compared
  simp only [Checked.bind_eq_ok, Checked.mapError_eq_ok, Checked.pure_eq_ok]
  constructor
  · intro h
    rcases h with ⟨before, hbefore, after, hafter, declarations, hdeclared, h⟩
    exact ⟨before, after, declarations, hbefore, hafter, hdeclared, h⟩
  · intro h
    rcases h with ⟨before, after, declarations, hbefore, hafter, hdeclared, h⟩
    exact ⟨before, hbefore, after, hafter, declarations, hdeclared, h⟩

end Compared

section Verdict

variable (field : UpdateField) (changed : List Region) (declarations : List Declaration)
  (stance : Stance)

theorem ordered_of_mem_filter (declaredOrdered : ∀ d ∈ declarations, d.Ordered)
    (keep : Detail → Bool) :
    ∀ f ∈ ((flatten declarations).filter keep).map Detail.region, f.Ordered := by
  intro f hf
  obtain ⟨d, hd, rfl⟩ := List.mem_map.1 hf
  exact (tiling_flatten declarations declaredOrdered).ordered d (List.mem_filter.1 hd).1

theorem not_touchesForbidden
    (h : firstForbidden? changed (forbiddenRegions stance.now (flatten declarations)) = none) :
    ¬TouchesForbidden declarations stance.now changed := by
  intro touches
  rcases touches with ⟨r, hr, p, hp, forbidden⟩
  obtain ⟨f, hf, inForbidden⟩ :=
    (exists_mem_forbiddenRegions declarations stance.now p).2 forbidden
  exact Region.not_shared (firstForbidden?_eq_none h r hr f hf) p ⟨hp, inForbidden⟩

theorem forbiddenAt_of_firstForbidden? (changedOrdered : ∀ r ∈ changed, r.Ordered)
    (declaredOrdered : ∀ d ∈ declarations, d.Ordered) {s : Region}
    (h : firstForbidden? changed (forbiddenRegions stance.now (flatten declarations)) = some s) :
    ∃ r ∈ changed, s.Part r ∧ (∃ p, p ∈ s) ∧ ∀ p ∈ s, ForbiddenAt declarations stance.now p := by
  obtain ⟨r, hr, f, hf, shared⟩ := firstForbidden?_eq_some h
  have tidy := Region.cut_tidy r f (changedOrdered r hr)
    (ordered_of_mem_filter declarations declaredOrdered _ f hf)
  refine ⟨r, hr, tidy.shared_part s shared, tidy.shared_inhabited s shared, ?_⟩
  intro p hp
  rw [← exists_mem_forbiddenRegions]
  exact ⟨f, hf, ((Region.mem_shared shared p).1 hp).2⟩

theorem not_permittedAt_of_firstUncovered? (changedOrdered : ∀ r ∈ changed, r.Ordered)
    (declaredOrdered : ∀ d ∈ declarations, d.Ordered)
    (untouched : ¬TouchesForbidden declarations stance.now changed) {s : Region}
    (h : firstUncovered? changed (permittedRegions stance.now (flatten declarations)) = some s) :
    ∃ r ∈ changed, s.Part r ∧ ∀ p ∈ s, ¬PermittedAt declarations stance.now p := by
  obtain ⟨r, hr, piece⟩ := firstUncovered?_eq_some h
  have part := Region.part_of_mem_uncovered r _ (changedOrdered r hr)
    (ordered_of_mem_filter declarations declaredOrdered _) s piece
  refine ⟨r, hr, part, ?_⟩
  intro p hp permitted
  have notForbidden : ¬ForbiddenAt declarations stance.now p :=
    fun forbidden => untouched ⟨r, hr, p, part.mem p hp, forbidden⟩
  obtain ⟨h, hh, inPermitted⟩ :=
    (exists_mem_permittedRegions declarations stance.now p).2 ⟨permitted, notForbidden⟩
  exact ((Region.mem_uncovered r _ p).1 ⟨s, piece, hp⟩).2 h hh inPermitted

theorem permittedAt_of_covered
    (h : firstUncovered? changed (permittedRegions stance.now (flatten declarations)) = none) :
    ∀ r ∈ changed, ∀ p ∈ r, PermittedAt declarations stance.now p := by
  intro r hr p hp
  have covered := firstUncovered?_eq_none h r hr
  have inPermitted : ∃ h ∈ permittedRegions stance.now (flatten declarations), p ∈ h := by
    apply Classical.byContradiction
    intro missing
    obtain ⟨piece, hpiece, _⟩ := (Region.mem_uncovered r _ p).2
      ⟨hp, fun h hh inPermitted => missing ⟨h, hh, inPermitted⟩⟩
    rw [covered] at hpiece
    cases hpiece
  exact ((exists_mem_permittedRegions declarations stance.now p).1 inPermitted).1

theorem checkRegions_judged (changedOrdered : ∀ r ∈ changed, r.Ordered)
    (declaredOrdered : ∀ d ∈ declarations, d.Ordered) :
    Judged field changed declarations stance (checkRegions field changed declarations stance) := by
  unfold checkRegions judge
  split
  · rename_i s h
    obtain ⟨r, hr, part, inhabited, all⟩ :=
      forbiddenAt_of_firstForbidden? changed declarations stance changedOrdered declaredOrdered h
    exact .forbidden r s hr part inhabited all
  · rename_i h
    have untouched := not_touchesForbidden changed declarations stance h
    split
    · rename_i policy
      exact .neutral untouched policy
    · rename_i policy
      split
      · rename_i s left
        obtain ⟨r, hr, part, none⟩ := not_permittedAt_of_firstUncovered? changed declarations
          stance changedOrdered declaredOrdered untouched left
        exact .notPermitted r s untouched policy hr part none
      · rename_i covered
        exact .permitted untouched policy
          (permittedAt_of_covered changed declarations stance covered)

/-- The verdict is the one that the first declarations at the changed points call for. A denial
names a part of one changed region: forbidden points, or points of which none is permitted. -/
theorem checkRegions_decides_by_first_match (changedOrdered : ∀ r ∈ changed, r.Ordered)
    (declaredOrdered : ∀ d ∈ declarations, d.Ordered) :
    let verdict := checkRegions field changed declarations stance
    let touched := TouchesForbidden declarations stance.now changed
    let allPermitted := ∀ r ∈ changed, ∀ p ∈ r, PermittedAt declarations stance.now p
    ((∃ s, verdict = .denied ⟨field, .forbidden, s⟩) ↔ touched) ∧
      (¬touched → stance.unhandled = .neutral → verdict = .permitted) ∧
      (¬touched → stance.unhandled = .requirePermitted →
        (verdict = .permitted → allPermitted) ∧
          ((∀ r ∈ changed, r.ListsInhabited) → allPermitted → verdict = .permitted) ∧
          (verdict ≠ .permitted → ∃ s, verdict = .denied ⟨field, .notPermitted, s⟩)) ∧
      ∀ denial, verdict = .denied denial →
        (∃ r ∈ changed, denial.region.Inside r) ∧
          (denial.kind = .forbidden →
            (∃ p, p ∈ denial.region) ∧
              ∀ p ∈ denial.region, ForbiddenAt declarations stance.now p) ∧
          (denial.kind = .notPermitted →
            ∀ p ∈ denial.region, ¬PermittedAt declarations stance.now p) := by
  have judged := checkRegions_judged field changed declarations stance changedOrdered
    declaredOrdered
  intro verdict touched allPermitted
  change Judged field changed declarations stance verdict at judged
  generalize verdict = answer at judged ⊢
  cases judged with
  | forbidden r s member part inhabited all =>
      obtain ⟨p, hp⟩ := inhabited
      have touches : touched := ⟨r, member, p, part.mem p hp, all p hp⟩
      refine ⟨⟨fun _ => touches, fun _ => ⟨s, rfl⟩⟩, absurd touches, absurd touches, ?_⟩
      intro denial h
      cases h
      exact ⟨⟨r, member, part.inside⟩, fun _ => ⟨⟨p, hp⟩, all⟩, nofun⟩
  | neutral untouched policy =>
      refine ⟨⟨by simp, fun touches => absurd touches untouched⟩, fun _ _ => rfl, ?_, by simp⟩
      intro _ required
      rw [policy] at required
      cases required
  | notPermitted r s untouched policy member part none =>
      refine ⟨⟨by simp, fun touches => absurd touches untouched⟩, ?_, ?_, ?_⟩
      · intro _ neutral
        rw [policy] at neutral
        cases neutral
      · refine fun _ _ => ⟨by simp, ?_, fun _ => ⟨s, rfl⟩⟩
        -- A leftover of a region with points has a point, so that one is not permitted.
        intro lists permitted
        obtain ⟨p, hp⟩ :=
          part.inhabited ((lists r member).exists_mem (changedOrdered r member))
        exact absurd (permitted r member p (part.mem p hp)) (none p hp)
      · intro denial h
        cases h
        exact ⟨⟨r, member, part.inside⟩, nofun, fun _ => none⟩
  | permitted untouched policy all =>
      refine ⟨⟨by simp, fun touches => absurd touches untouched⟩, fun _ _ => rfl, ?_, by simp⟩
      exact fun _ _ => ⟨fun _ => all, fun _ _ => rfl, fun h => absurd rfl h⟩

end Verdict

section Shadowing

def badges (first last : Nat) : Region := { Region.universal with badgeIds := ⟨first, last⟩ }

def permissionOn (first last : Nat) (windows : Windows) : Declaration :=
  { Declaration.everywhere .empty with badgeIds := [⟨first, last⟩], windows }

def shadowedLock : List Declaration :=
  [permissionOn 1 10 ⟨[⟨1, 2000⟩], []⟩, permissionOn 5 15 ⟨[], [.full]⟩]

theorem shadowedLock_decides :
    (∀ r ∈ [badges 1 12], r.Ordered) ∧ (∀ d ∈ shadowedLock, d.Ordered) ∧
      ∃ s, checkRegions .collectionApprovals [badges 1 12] shadowedLock ⟨1000, .neutral⟩ =
        .denied ⟨.collectionApprovals, .forbidden, s⟩ := by
  have changedOrdered : ∀ r ∈ [badges 1 12], r.Ordered := by decide
  have declaredOrdered : ∀ d ∈ shadowedLock, d.Ordered := by decide
  have decides := checkRegions_decides_by_first_match .collectionApprovals [badges 1 12]
    shadowedLock ⟨1000, .neutral⟩ changedOrdered declaredOrdered
  have touched : TouchesForbidden shadowedLock 1000 [badges 1 12] := by
    refine ⟨badges 1 12, List.mem_singleton_self _, mintPoint 11, by decide, ?_⟩
    exact ⟨permissionOn 5 15 ⟨[], [.full]⟩, by decide, by decide⟩
  exact ⟨changedOrdered, declaredOrdered, decides.1.2 touched⟩

end Shadowing

end Update

end BadgeRights
