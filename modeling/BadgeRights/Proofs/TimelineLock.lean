import BadgeRights.Proofs.Timeline

set_option autoImplicit false

namespace BadgeRights

namespace TimedPermission

structure Locks (lock : TimedPermission) : Prop where
  timelineTimes : ∀ t ∈ Span.full, Spans.Mem t lock.timelineTimes
  forbidden : ∀ now ∈ Span.full, Spans.Mem now lock.windows.forbidden

variable {lock : TimedPermission} {rest : List TimedPermission} {now t : Nat}

theorem Locks.first?_eq (locks : lock.Locks) (inside : t ∈ Span.full) :
    first? (lock :: rest) t = some lock := by
  have covers := (Spans.contains_eq_true _ _).2 (locks.timelineTimes t inside)
  simp [first?, covers]

theorem Locks.forbiddenAt_iff_mem_full (locks : lock.Locks) (wellFormed : lock.WellFormed)
    (inside : t ∈ Span.full) : ForbiddenAt (lock :: rest) now t ↔ now ∈ Span.full := by
  simp only [ForbiddenAt, locks.first?_eq inside, Option.some.injEq, exists_eq_left']
  constructor
  · exact wellFormed.windows.forbidden.mem_full
  · exact locks.forbidden now

theorem Locks.not_permittedAt (locks : lock.Locks) (wellFormed : lock.WellFormed)
    (inside : t ∈ Span.full) : ¬PermittedAt (lock :: rest) now t := by
  simp only [PermittedAt, locks.first?_eq inside, Option.some.injEq, exists_eq_left']
  intro permitted
  -- A permitted instant lies in the domain, all of which is forbidden.
  have domain := wellFormed.windows.permitted.mem_full permitted
  exact wellFormed.windows.apart now permitted (locks.forbidden now domain)

end TimedPermission

namespace Update

variable {V : Type} {field : UpdateField} {kind : PermissionKind} {old new : Timeline V}
  {lock : TimedPermission} {rest : List TimedPermission} {empty : V} {toValue : V → FieldValue}
  {stance : Stance}

/-- A lock in front denies every change that is evaluated in the domain, whatever permissions follow
it. Outside the domain only the policy that requires permission denies. -/
theorem leading_lock_denies (validOld : Timeline.validate old = .ok ())
    (validNew : Timeline.validate new = .ok ()) (wellFormed : ∀ q ∈ lock :: rest, q.WellFormed)
    (locks : lock.Locks) (changes : ∃ t, ChangesAt old new empty toValue t) :
    ∃ verdict, timeline field kind old new (lock :: rest) empty toValue stance = .ok verdict ∧
      ((∃ denial, verdict = .denied denial) ↔
        stance.now ∈ Span.full ∨ stance.unhandled = .requirePermitted) ∧
      (stance.now ∈ Span.full → ∃ s, verdict = .denied ⟨field, .forbidden, s⟩) := by
  obtain ⟨verdict, answered⟩ : ∃ verdict,
      timeline field kind old new (lock :: rest) empty toValue stance = .ok verdict :=
    exists_timeline validOld validNew wellFormed
  obtain ⟨changed, declarations, declared, judged, inhabited, holds⟩ := timeline_judged answered
  obtain ⟨t, change⟩ := changes
  have wellFormedLock := wellFormed lock List.mem_cons_self
  have decides := judged.decides_read inhabited Point.timelineTime
    (ChangesAt old new empty toValue) (TimedPermission.ForbiddenAt (lock :: rest) stance.now)
    (TimedPermission.PermittedAt (lock :: rest) stance.now)
    (fun t _ => ⟨Point.atInstant t, Point.offTimeline_atInstant t, rfl⟩) holds
    (fun _ off => TimedPermission.forbiddenAt_iff declared off)
    (fun _ off => TimedPermission.permittedAt_iff declared off)
  have touched : (∃ t, ChangesAt old new empty toValue t ∧
      TimedPermission.ForbiddenAt (lock :: rest) stance.now t) ↔ stance.now ∈ Span.full := by
    constructor
    · intro h
      rcases h with ⟨t, change, forbidden⟩
      exact (locks.forbiddenAt_iff_mem_full wellFormedLock change.1).1 forbidden
    · intro domain
      exact ⟨t, change, (locks.forbiddenAt_iff_mem_full wellFormedLock change.1).2 domain⟩
  have refused : ¬∀ t, ChangesAt old new empty toValue t →
      TimedPermission.PermittedAt (lock :: rest) stance.now t :=
    fun all => locks.not_permittedAt wellFormedLock change.1 (all t change)
  simp only [touched, refused] at decides
  obtain ⟨forbidden, neutral, required⟩ := decides
  refine ⟨verdict, answered, ?_, forbidden.2⟩
  by_cases domain : stance.now ∈ Span.full
  · obtain ⟨s, denied⟩ := forbidden.2 domain
    simp [denied, domain]
  · cases policy : stance.unhandled with
    | neutral => simp [neutral domain policy, domain]
    | requirePermitted =>
        obtain ⟨s, denied⟩ := (required domain policy).2 not_false
        simp [denied]

section Freeze

def frozen : TimedPermission := ⟨[⟨1, 50⟩, ⟨51, maxValue⟩], ⟨[], [.full]⟩⟩

def frozenManager : List TimedPermission := [frozen, ⟨[.full], ⟨[.full], []⟩⟩]

theorem frozen_locks : frozen.Locks := by
  constructor
  · intro t inside
    simp only [frozen, Spans.mem_cons, Span.mem_def, Span.full] at inside ⊢
    omega
  · intro now inside
    exact ⟨.full, List.mem_singleton_self _, inside⟩

theorem frozenManager_denies :
    Timeline.validate aliceOnly = .ok () ∧ Timeline.validate aliceThenBob = .ok () ∧
      (∀ q ∈ frozenManager, q.WellFormed) ∧ frozen.Locks ∧
      (∃ t, ChangesAt aliceOnly aliceThenBob "" .text t) ∧
      ∃ s, manager aliceOnly aliceThenBob frozenManager ⟨1000, .neutral⟩ =
        .ok (.denied ⟨.manager, .forbidden, s⟩) := by
  have validOld : Timeline.validate aliceOnly = .ok () := rfl
  have validNew : Timeline.validate aliceThenBob = .ok () := rfl
  have wellFormed : ∀ q ∈ frozenManager, q.WellFormed := by decide
  have changes : ∃ t, ChangesAt aliceOnly aliceThenBob "" .text t := ⟨30, by decide, by decide⟩
  have denies : ∃ verdict, manager aliceOnly aliceThenBob frozenManager ⟨1000, .neutral⟩ =
      .ok verdict ∧ _ :=
    leading_lock_denies validOld validNew wellFormed frozen_locks changes
  obtain ⟨verdict, answered, _, forbidden⟩ := denies
  obtain ⟨s, rfl⟩ := forbidden (by decide)
  exact ⟨validOld, validNew, wellFormed, frozen_locks, changes, s, answered⟩

theorem frozenManager_lapses :
    Timeline.validate aliceOnly = .ok () ∧ Timeline.validate aliceThenBob = .ok () ∧
      (∀ q ∈ frozenManager, q.WellFormed) ∧ frozen.Locks ∧
      (∃ t, ChangesAt aliceOnly aliceThenBob "" .text t) ∧
      manager aliceOnly aliceThenBob frozenManager ⟨0, .neutral⟩ = .ok .permitted := by
  refine ⟨rfl, rfl, by decide, frozen_locks, ⟨30, by decide, by decide⟩, ?_⟩
  rfl

end Freeze

end Update

end BadgeRights
