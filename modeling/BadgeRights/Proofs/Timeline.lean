import Mathlib.Tactic.Tauto
import BadgeRights.Proofs.Declared
import BadgeRights.Proofs.Inhabited
import BadgeRights.Update.Timeline

set_option autoImplicit false

namespace BadgeRights

namespace Timeline

variable {V : Type} {timeline : Timeline V}

def valueAt (timeline : Timeline V) (empty : V) (t : Nat) : V :=
  ((itemAt? timeline t).map TimelineItem.value).getD empty

@[simp] theorem isActive_eq_true {item : TimelineItem V} {t : Nat} :
    isActive t item = true ↔ Spans.Mem t item.times :=
  Spans.contains_eq_true _ _

theorem mem_declaredTimes {t : Nat} :
    Spans.Mem t (declaredTimes timeline) ↔ ∃ item ∈ timeline, Spans.Mem t item.times := by
  rw [declaredTimes, Spans.mem_merge, allTimes, Spans.mem_flatMap]

theorem itemAt?_eq_none_iff {t : Nat} :
    itemAt? timeline t = none ↔ ¬Spans.Mem t (declaredTimes timeline) := by
  rw [mem_declaredTimes, itemAt?, List.find?_eq_none]
  simp only [isActive_eq_true, not_exists, not_and]

theorem valid_of_validate (h : validate timeline = .ok ()) :
    ∀ item ∈ timeline, Spans.Valid item.times := by
  obtain ⟨_, checked, _⟩ := Checked.bind_eq_ok.1 h
  intro item hitem
  exact (Spans.validate_eq_ok _).1 (Checked.forM_eq_ok.1 checked item hitem)

theorem itemAt?_append_single (timeline : Timeline V) (item : TimelineItem V) (t : Nat) :
    itemAt? (timeline ++ [item]) t =
      (itemAt? timeline t).or (if Spans.Mem t item.times then some item else none) := by
  unfold itemAt?
  rw [List.find?_append]
  by_cases active : Spans.Mem t item.times
  · simp [active, isActive_eq_true.2 active]
  · simp [active, Bool.eq_false_iff.2 (mt isActive_eq_true.1 active)]

def gapItem (timeline : Timeline V) (empty : V) (last : Nat) : TimelineItem V :=
  ⟨Spans.complement (declaredTimes timeline) 1 last, empty⟩

theorem mem_gapItem {empty : V} {last t : Nat} :
    Spans.Mem t (gapItem timeline empty last).times ↔
      (1 ≤ t ∧ t ≤ last) ∧ itemAt? timeline t = none := by
  rw [itemAt?_eq_none_iff]
  exact Spans.mem_complement t (declaredTimes timeline) 1 last

theorem filled_cases (timeline : Timeline V) (empty : V) (last : Nat) :
    (gapItem timeline empty last).times = [] ∧ filled timeline empty last = timeline ∨
      (gapItem timeline empty last).times ≠ [] ∧
        filled timeline empty last = timeline ++ [gapItem timeline empty last] := by
  unfold filled
  split
  · rename_i nothing
    exact .inl ⟨nothing, rfl⟩
  · rename_i gaps
    exact .inr ⟨gaps, rfl⟩

theorem itemAt?_filled (timeline : Timeline V) (empty : V) (last t : Nat) :
    itemAt? (filled timeline empty last) t =
      (itemAt? timeline t).or
        (if Spans.Mem t (gapItem timeline empty last).times then some (gapItem timeline empty last)
          else none) := by
  rcases filled_cases timeline empty last with ⟨nothing, same⟩ | ⟨_, grown⟩
  · simp [same, nothing]
  · rw [grown, itemAt?_append_single]

theorem value_itemAt?_filled (timeline : Timeline V) (empty : V) (last t : Nat) :
    (itemAt? (filled timeline empty last) t).map TimelineItem.value =
      ((itemAt? timeline t).map TimelineItem.value).or
        (if 1 ≤ t ∧ t ≤ last then some empty else none) := by
  have value : (gapItem timeline empty last).value = empty := rfl
  rw [itemAt?_filled]
  cases active : itemAt? timeline t with
  | some item => simp
  | none => by_cases inside : 1 ≤ t ∧ t ≤ last <;> simp [mem_gapItem, active, inside, value]

theorem value_filled_of_le {last t : Nat} (timeline : Timeline V) (empty : V) (first : 1 ≤ t)
    (upTo : t ≤ last) :
    (itemAt? (filled timeline empty last) t).map TimelineItem.value =
      some (valueAt timeline empty t) := by
  rw [value_itemAt?_filled]
  cases active : itemAt? timeline t <;> simp [valueAt, active, first, upTo]

theorem value_filled_of_valid (valid : ∀ item ∈ timeline, Spans.Valid item.times) (empty : V)
    (t : Nat) :
    (itemAt? (filled timeline empty maxValue) t).map TimelineItem.value =
      if t ∈ Span.full then some (valueAt timeline empty t) else none := by
  have domain : t ∈ Span.full ↔ 1 ≤ t ∧ t ≤ maxValue := Iff.rfl
  simp only [domain]
  by_cases inside : 1 ≤ t ∧ t ≤ maxValue
  · rw [value_filled_of_le timeline empty inside.1 inside.2, if_pos inside]
  · -- A valid window has no instant out there.
    have unset : itemAt? timeline t = none := by
      rw [itemAt?, List.find?_eq_none]
      intro item hitem active
      obtain ⟨s, hs, ht⟩ := isActive_eq_true.1 active
      have bounds := valid item hitem s hs
      simp only [Span.Valid, Span.mem_def] at bounds ht
      omega
    simp [value_itemAt?_filled, inside, unset]

theorem mem_filled {empty : V} {last : Nat} {item : TimelineItem V}
    (h : item ∈ filled timeline empty last) :
    item ∈ timeline ∨ item = gapItem timeline empty last := by
  rcases filled_cases timeline empty last with ⟨_, same⟩ | ⟨_, grown⟩
  · rw [same] at h
    exact .inl h
  · rw [grown] at h
    exact (List.mem_append.1 h).imp_right List.mem_singleton.1

theorem filled_ordered (valid : ∀ item ∈ timeline, Spans.Valid item.times) (empty : V)
    (last : Nat) : ∀ item ∈ filled timeline empty last, Spans.Ordered item.times := by
  intro item hitem
  rcases mem_filled hitem with stated | rfl
  · exact (valid item stated).ordered
  · exact Spans.complement_ordered (declaredTimes timeline) 1 last

end Timeline

namespace Point

/-- Inside the domain in every dimension of naturals but that of the timeline. -/
def OffTimeline (p : Point) : Prop :=
  p.badgeId ∈ Span.full ∧ p.transferTime ∈ Span.full ∧ p.ownershipTime ∈ Span.full

instance (p : Point) : Decidable p.OffTimeline := inferInstanceAs (Decidable (_ ∧ _ ∧ _))

def atInstant (t : Nat) : Point := ⟨1, t, 1, 1, "", "", "", "", "", ""⟩

theorem offTimeline_atInstant (t : Nat) : (atInstant t).OffTimeline := by
  have first : 1 ∈ Span.full := by decide
  exact ⟨first, first, first⟩

-- What is said about the instants of such points is said about all instants.
theorem exists_offTimeline_iff (holds : Nat → Prop) :
    (∃ p : Point, p.OffTimeline ∧ holds p.timelineTime) ↔ ∃ t, holds t := by
  constructor
  · intro h
    rcases h with ⟨p, _, h⟩
    exact ⟨p.timelineTime, h⟩
  · intro h
    rcases h with ⟨t, h⟩
    exact ⟨atInstant t, offTimeline_atInstant t, h⟩

theorem forall_offTimeline_iff (holds : Nat → Prop) :
    (∀ p : Point, p.OffTimeline → holds p.timelineTime) ↔ ∀ t, holds t := by
  constructor
  · intro all t
    exact all (atInstant t) (offTimeline_atInstant t)
  · intro all p _
    exact all p.timelineTime

end Point

namespace Update

variable {V : Type} {timeline old new : Timeline V} {empty : V} {toValue : V → FieldValue}

def valueDeclaration (times : List Span) (v : FieldValue) : Declaration :=
  { Declaration.everywhere (.value v) with timelineTimes := times }

theorem timelineDeclarations_eq_map (timeline : Timeline V) (empty : V)
    (toValue : V → FieldValue) :
    timelineDeclarations timeline empty toValue =
      (Timeline.filled timeline empty maxValue).map fun item =>
        valueDeclaration item.times (toValue item.value) := rfl

theorem mem_valueDeclaration (p : Point) (item : TimelineItem V) (v : FieldValue) :
    p ∈ valueDeclaration item.times v ↔
      p.OffTimeline ∧ Timeline.isActive p.timelineTime item = true := by
  simp only [Declaration.mem_iff, valueDeclaration, Declaration.everywhere, Spans.mem_full,
    AddressList.mem_everyone, Timeline.isActive_eq_true, Point.OffTimeline]
  tauto

theorem ordered_timelineDeclarations (h : Timeline.validate timeline = .ok ()) (empty : V)
    (toValue : V → FieldValue) : ∀ d ∈ timelineDeclarations timeline empty toValue, d.Ordered := by
  intro d hd
  obtain ⟨item, hitem, rfl⟩ := List.mem_map.1 hd
  have ordered := Timeline.filled_ordered (Timeline.valid_of_validate h) empty maxValue item hitem
  exact ⟨Spans.full_ordered, ordered, Spans.full_ordered, Spans.full_ordered⟩

theorem tiling_flattenTimeline (h : Timeline.validate timeline = .ok ()) :
    Detail.Tiling (flattenTimeline timeline empty toValue) :=
  tiling_flatten _ (ordered_timelineDeclarations h empty toValue)

theorem payloadAt?_flattenTimeline (h : Timeline.validate timeline = .ok ()) (p : Point) :
    Detail.payloadAt? (flattenTimeline timeline empty toValue) p =
      if p.OffTimeline ∧ p.timelineTime ∈ Span.full then
        some (.value (toValue (Timeline.valueAt timeline empty p.timelineTime)))
      else none := by
  unfold flattenTimeline
  rw [payloadAt?_flatten]
  · rw [timelineDeclarations_eq_map, List.find?_map, Option.map_map]
    by_cases off : p.OffTimeline
    · -- Off the timeline nothing tells the declarations apart, so that the active item decides.
      have lookup := congrArg (Option.map fun v => Payload.value (toValue v))
        (Timeline.value_filled_of_valid (Timeline.valid_of_validate h) empty p.timelineTime)
      simp only [Function.comp_def, mem_valueDeclaration, off, true_and, Bool.decide_eq_true]
      rw [Option.map_map] at lookup
      refine lookup.trans ?_
      split <;> simp [*]
    · simp [Function.comp_def, mem_valueDeclaration, off]
  · intro d hd
    obtain ⟨item, _, rfl⟩ := List.mem_map.1 hd
    rfl

theorem inhabited_flattenTimeline (h : Timeline.validate timeline = .ok ()) :
    ∀ d ∈ flattenTimeline timeline empty toValue, ∃ p : Point, p ∈ d := by
  have ordered := ordered_timelineDeclarations h empty toValue
  refine (flatten_inhabited_iff ordered).2 ?_
  intro d hd
  refine (Declaration.regions_inhabited_iff (ordered d hd)).2 fun _ => ?_
  obtain ⟨item, _, rfl⟩ := List.mem_map.1 hd
  exact Declaration.everywhere_listsInhabited (.value (toValue item.value))

def ChangesAt (old new : Timeline V) (empty : V) (toValue : V → FieldValue) (t : Nat) : Prop :=
  t ∈ Span.full ∧ toValue (old.valueAt empty t) ≠ toValue (new.valueAt empty t)

theorem exists_mem_changedTimeline (validOld : Timeline.validate old = .ok ())
    (validNew : Timeline.validate new = .ok ()) (p : Point) :
    (∃ r ∈ Difference.changedRegions (flattenTimeline old empty toValue)
        (flattenTimeline new empty toValue), p ∈ r) ↔
      p.OffTimeline ∧ ChangesAt old new empty toValue p.timelineTime := by
  rw [Difference.exists_mem_changedRegions (tiling_flattenTimeline validOld).apart
      (tiling_flattenTimeline validNew).apart,
    payloadAt?_flattenTimeline validOld, payloadAt?_flattenTimeline validNew]
  by_cases inside : p.OffTimeline ∧ p.timelineTime ∈ Span.full
  · simp [ChangesAt, inside]
  · simp only [inside, ChangesAt]
    tauto

end Update

namespace TimedPermission

def first? (permissions : List TimedPermission) (t : Nat) : Option TimedPermission :=
  permissions.find? fun q => Spans.contains q.timelineTimes t

def ForbiddenAt (permissions : List TimedPermission) (now t : Nat) : Prop :=
  ∃ q, first? permissions t = some q ∧ Spans.Mem now q.windows.forbidden

def PermittedAt (permissions : List TimedPermission) (now t : Nat) : Prop :=
  ∃ q, first? permissions t = some q ∧ Spans.Mem now q.windows.permitted

variable {permissions : List TimedPermission} {resolve : Resolver}
  {declarations : List Declaration} {now : Nat} {p : Point}

theorem exists_first?_iff (h : Permission.toDeclarations resolve permissions = .ok declarations)
    (off : p.OffTimeline) (holds : Windows → Prop) :
    (∃ d, declarations.find? (p ∈ ·) = some d ∧ holds d.windows) ↔
      ∃ q, first? permissions p.timelineTime = some q ∧ holds q.windows := by
  have covers (q : TimedPermission) :
      decide (LawfulPermission.Covers q resolve p) = Spans.contains q.timelineTimes p.timelineTime := by
    rw [Bool.eq_iff_iff, decide_eq_true_eq, Spans.contains_eq_true]
    simp [LawfulPermission.Covers, Covers, off.1, off.2.1, off.2.2]
  rw [Permission.exists_find?_iff h p holds]
  simp only [covers]
  rfl

theorem forbiddenAt_iff (h : Permission.toDeclarations resolve permissions = .ok declarations)
    (off : p.OffTimeline) :
    BadgeRights.ForbiddenAt declarations now p ↔ ForbiddenAt permissions now p.timelineTime :=
  exists_first?_iff h off (Spans.Mem now ·.forbidden)

theorem permittedAt_iff (h : Permission.toDeclarations resolve permissions = .ok declarations)
    (off : p.OffTimeline) :
    BadgeRights.PermittedAt declarations now p ↔ PermittedAt permissions now p.timelineTime :=
  exists_first?_iff h off (Spans.Mem now ·.permitted)

end TimedPermission

namespace Update

variable {V : Type} {field : UpdateField} {kind : PermissionKind} {old new : Timeline V}
  {permissions : List TimedPermission} {empty : V} {toValue : V → FieldValue} {stance : Stance}

theorem timeline_eq_ok {verdict : Verdict} :
    timeline field kind old new permissions empty toValue stance = .ok verdict ↔
      Timeline.validate old = .ok () ∧ Timeline.validate new = .ok () ∧
        ∃ declarations, Permission.declare kind Resolver.reserved permissions = .ok declarations ∧
          checkRegions field
            (Difference.changedRegions (flattenTimeline old empty toValue)
              (flattenTimeline new empty toValue)) declarations stance = verdict := by
  unfold timeline
  simp only [Checked.bind_eq_ok, Checked.mapError_eq_ok, Checked.pure_eq_ok]
  constructor
  · intro h
    rcases h with ⟨_, validOld, _, validNew, declarations, declared, h⟩
    exact ⟨validOld, validNew, declarations, declared, h⟩
  · intro h
    rcases h with ⟨validOld, validNew, declarations, declared, h⟩
    exact ⟨(), validOld, (), validNew, declarations, declared, h⟩

theorem timeline_judged {verdict : Verdict}
    (h : timeline field kind old new permissions empty toValue stance = .ok verdict) :
    ∃ changed declarations,
      Permission.toDeclarations Resolver.reserved permissions = .ok declarations ∧
      Judged field changed declarations stance verdict ∧
      (∀ r ∈ changed, ∃ p : Point, p ∈ r) ∧
      ∀ p : Point, (∃ r ∈ changed, p ∈ r) ↔
        p.OffTimeline ∧ ChangesAt old new empty toValue p.timelineTime := by
  obtain ⟨validOld, validNew, declarations, declared, rfl⟩ := timeline_eq_ok.1 h
  obtain ⟨declared, _⟩ := Permission.declare_eq_ok.1 declared
  have tilingOld : Detail.Tiling (flattenTimeline old empty toValue) :=
    tiling_flattenTimeline validOld
  have tilingNew : Detail.Tiling (flattenTimeline new empty toValue) :=
    tiling_flattenTimeline validNew
  refine ⟨_, declarations, declared, checkRegions_judged field _ declarations stance ?_ ?_, ?_, ?_⟩
  · exact Difference.ordered_of_mem_changedRegions tilingOld tilingNew
  · exact Permission.ordered_of_toDeclarations declared
  · rw [Difference.inhabited_changedRegions_iff tilingOld tilingNew, List.forall_mem_append]
    exact ⟨inhabited_flattenTimeline validOld, inhabited_flattenTimeline validNew⟩
  · exact exists_mem_changedTimeline validOld validNew

theorem exists_timeline (validOld : Timeline.validate old = .ok ())
    (validNew : Timeline.validate new = .ok ()) (wellFormed : ∀ q ∈ permissions, q.WellFormed) :
    ∃ verdict, timeline field kind old new permissions empty toValue stance = .ok verdict := by
  have declares : ∃ declarations,
      Permission.declare kind Resolver.reserved permissions = .ok declarations :=
    Permission.exists_declare kind wellFormed
  rcases declares with ⟨declarations, declared⟩
  exact ⟨_, timeline_eq_ok.2 ⟨validOld, validNew, declarations, declared, rfl⟩⟩

/-- Every update of valid timelines gets the verdict that the changed instants call for, each judged
by the first permission for it. -/
theorem timeline_decides (validOld : Timeline.validate old = .ok ())
    (validNew : Timeline.validate new = .ok ()) (wellFormed : ∀ q ∈ permissions, q.WellFormed) :
    let touched :=
      ∃ t, ChangesAt old new empty toValue t ∧ TimedPermission.ForbiddenAt permissions stance.now t
    let allPermitted :=
      ∀ t, ChangesAt old new empty toValue t → TimedPermission.PermittedAt permissions stance.now t
    ∃ verdict, timeline field kind old new permissions empty toValue stance = .ok verdict ∧
      ((∃ s, verdict = .denied ⟨field, .forbidden, s⟩) ↔ touched) ∧
      (¬touched → stance.unhandled = .neutral → verdict = .permitted) ∧
      (¬touched → stance.unhandled = .requirePermitted →
        (verdict = .permitted ↔ allPermitted) ∧
          (¬allPermitted → ∃ s, verdict = .denied ⟨field, .notPermitted, s⟩)) := by
  intro touched allPermitted
  obtain ⟨verdict, answered⟩ : ∃ verdict,
      timeline field kind old new permissions empty toValue stance = .ok verdict :=
    exists_timeline validOld validNew wellFormed
  obtain ⟨changed, declarations, declared, judged, inhabited, holds⟩ := timeline_judged answered
  have touches : (∃ p : Point, (p.OffTimeline ∧ ChangesAt old new empty toValue p.timelineTime) ∧
      ForbiddenAt declarations stance.now p) ↔ touched := by
    refine Iff.trans (exists_congr fun p => ?_) (Point.exists_offTimeline_iff _)
    rw [and_assoc]
    exact and_congr_right fun off => and_congr_right fun _ =>
      TimedPermission.forbiddenAt_iff declared off
  have permits : (∀ p : Point, p.OffTimeline ∧ ChangesAt old new empty toValue p.timelineTime →
      PermittedAt declarations stance.now p) ↔ allPermitted := by
    refine Iff.trans (forall_congr' fun p => ?_) (Point.forall_offTimeline_iff _)
    rw [and_imp]
    exact imp_congr_right fun off => imp_congr_right fun _ =>
      TimedPermission.permittedAt_iff declared off
  have decides := judged.decides holds
  simp only [touches, permits] at decides
  obtain ⟨forbidden, neutral, required⟩ := decides
  refine ⟨verdict, answered, forbidden, neutral, ?_⟩
  intro untouched policy
  obtain ⟨sound, complete, otherwise⟩ := required untouched policy
  refine ⟨⟨sound, complete inhabited⟩, ?_⟩
  intro refused
  exact otherwise fun accepted => refused (sound accepted)

section Handover

def aliceOnly : Timeline String := [⟨[⟨1, 100⟩], "alice"⟩]

def aliceThenBob : Timeline String := [⟨[⟨1, 10⟩], "alice"⟩, ⟨[⟨11, 100⟩], "bob"⟩]

def handoverLock : List TimedPermission :=
  [⟨[⟨1, 20⟩], ⟨[⟨1, 2000⟩], []⟩⟩, ⟨[⟨15, 50⟩], ⟨[], [.full]⟩⟩]

theorem handover_decides :
    Timeline.validate aliceOnly = .ok () ∧ Timeline.validate aliceThenBob = .ok () ∧
      (∀ q ∈ handoverLock, q.WellFormed) ∧
      ∃ s, manager aliceOnly aliceThenBob handoverLock ⟨1000, .neutral⟩ =
        .ok (.denied ⟨.manager, .forbidden, s⟩) := by
  have validOld : Timeline.validate aliceOnly = .ok () := rfl
  have validNew : Timeline.validate aliceThenBob = .ok () := rfl
  have wellFormed : ∀ q ∈ handoverLock, q.WellFormed := by decide
  have decides : ∃ verdict, manager aliceOnly aliceThenBob handoverLock ⟨1000, .neutral⟩ =
      .ok verdict ∧ _ := timeline_decides validOld validNew wellFormed
  obtain ⟨verdict, answered, forbidden, _⟩ := decides
  have touched : ∃ t, ChangesAt aliceOnly aliceThenBob "" .text t ∧
      TimedPermission.ForbiddenAt handoverLock 1000 t :=
    ⟨30, ⟨by decide, by decide⟩, ⟨[⟨15, 50⟩], ⟨[], [.full]⟩⟩, by decide, by decide⟩
  obtain ⟨s, rfl⟩ := forbidden.2 touched
  exact ⟨validOld, validNew, wellFormed, s, answered⟩

end Handover

end Update

end BadgeRights
