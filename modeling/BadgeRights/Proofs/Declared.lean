import BadgeRights.Proofs.Spans
import BadgeRights.Proofs.Terms

set_option autoImplicit false

namespace BadgeRights

def Windows.Valid (w : Windows) : Prop := Spans.Valid w.permitted ∧ Spans.Valid w.forbidden

structure Windows.Consistent (w : Windows) : Prop where
  permitted : Spans.Valid w.permitted
  forbidden : Spans.Valid w.forbidden
  apart : ∀ n, Spans.Mem n w.permitted → ¬Spans.Mem n w.forbidden

theorem Windows.consistent_iff (w : Windows) :
    w.Consistent ↔ Spans.Valid w.permitted ∧ Spans.Valid w.forbidden ∧
      Spans.intersection w.permitted w.forbidden = [] := by
  constructor
  · intro consistent
    refine ⟨consistent.permitted, consistent.forbidden, ?_⟩
    exact (Spans.intersection_eq_nil_iff consistent.permitted.ordered
      consistent.forbidden.ordered).2 consistent.apart
  · intro h
    rcases h with ⟨permitted, forbidden, none⟩
    exact ⟨permitted, forbidden,
      (Spans.intersection_eq_nil_iff permitted.ordered forbidden.ordered).1 none⟩

instance (w : Windows) : Decidable w.Consistent :=
  decidable_of_iff _ (Windows.consistent_iff w).symm

structure TimedPermission.WellFormed (q : TimedPermission) : Prop where
  timelineTimes : Spans.Valid q.timelineTimes
  windows : q.windows.Consistent

instance (q : TimedPermission) : Decidable q.WellFormed :=
  decidable_of_iff (Spans.Valid q.timelineTimes ∧ q.windows.Consistent)
    ⟨fun h => ⟨h.1, h.2⟩, fun h => ⟨h.timelineTimes, h.windows⟩⟩

structure BadgeTimedPermission.WellFormed (q : BadgeTimedPermission) : Prop where
  timelineTimes : Spans.Valid q.timelineTimes
  badgeIds : Spans.Valid q.badgeIds
  windows : q.windows.Consistent

instance (q : BadgeTimedPermission) : Decidable q.WellFormed :=
  decidable_of_iff (Spans.Valid q.timelineTimes ∧ Spans.Valid q.badgeIds ∧ q.windows.Consistent)
    ⟨fun h => ⟨h.1, h.2.1, h.2.2⟩, fun h => ⟨h.timelineTimes, h.badgeIds, h.windows⟩⟩

structure ApprovalPermission.WellFormed (q : ApprovalPermission) (resolve : Resolver) : Prop where
  badgeIds : Spans.Valid q.terms.badgeIds
  transferTimes : Spans.Valid q.terms.transferTimes
  ownershipTimes : Spans.Valid q.terms.ownershipTimes
  toList : ∃ l, resolve q.toListId = .ok l
  fromList : ∃ l, resolve q.fromListId = .ok l
  initiatedByList : ∃ l, resolve q.terms.initiatedByListId = .ok l
  windows : q.windows.Consistent

def TimedPermission.Covers (q : TimedPermission) (p : Point) : Prop :=
  p.badgeId ∈ Span.full ∧ Spans.Mem p.timelineTime q.timelineTimes ∧
    p.transferTime ∈ Span.full ∧ p.ownershipTime ∈ Span.full

def BadgeTimedPermission.Covers (q : BadgeTimedPermission) (p : Point) : Prop :=
  Spans.Mem p.badgeId q.badgeIds ∧ Spans.Mem p.timelineTime q.timelineTimes ∧
    p.transferTime ∈ Span.full ∧ p.ownershipTime ∈ Span.full

instance (q : TimedPermission) (p : Point) : Decidable (q.Covers p) :=
  inferInstanceAs (Decidable (_ ∧ _ ∧ _ ∧ _))

instance (q : BadgeTimedPermission) (p : Point) : Decidable (q.Covers p) :=
  inferInstanceAs (Decidable (_ ∧ _ ∧ _ ∧ _))

structure Declaration.States (d : Declaration) (covered : Point → Prop) (w : Windows) : Prop where
  ordered : d.Ordered
  mem_iff : ∀ p : Point, p ∈ d ↔ covered p
  windows : d.windows = w
  valid : w.Valid

class LawfulPermission (P : Type) [Permission P] where
  windows : P → Windows
  Covers : P → Resolver → Point → Prop
  decidableCovers (q : P) (resolve : Resolver) (p : Point) : Decidable (Covers q resolve p)
  WellFormed : P → Resolver → Prop
  consistent {q : P} {resolve : Resolver} : WellFormed q resolve → (windows q).Consistent
  declares {q : P} {resolve : Resolver} :
    WellFormed q resolve → ∃ d, Permission.toDeclaration resolve q = .ok d
  declared {q : P} {resolve : Resolver} {d : Declaration} :
    Permission.toDeclaration resolve q = .ok d → d.States (Covers q resolve) (windows q)

instance {P : Type} [Permission P] [LawfulPermission P] (q : P) (resolve : Resolver) (p : Point) :
    Decidable (LawfulPermission.Covers q resolve p) :=
  LawfulPermission.decidableCovers q resolve p

namespace Permission

theorem checkWindows_eq_ok {kind : PermissionKind} {w : Windows} :
    checkWindows kind w = .ok () ↔ Spans.intersection w.permitted w.forbidden = [] := by
  unfold checkWindows
  cases Spans.intersection w.permitted w.forbidden with
  | nil => simp
  | cons s rest => simp

theorem checkedSpans_of_valid {spans : List Span} (valid : Spans.Valid spans) :
    checkedSpans spans = .ok spans :=
  checkedSpans_eq_ok.2 ⟨valid, rfl⟩

theorem checkedWindows_of_consistent {w : Windows} (consistent : w.Consistent) :
    checkedWindows w = .ok w :=
  checkedWindows_eq_ok.2 ⟨⟨consistent.permitted, consistent.forbidden⟩, rfl⟩

end Permission

open Permission

instance : LawfulPermission ActionPermission where
  windows := ActionPermission.windows
  Covers _ _ p := p ∈ Region.universal
  decidableCovers _ _ _ := inferInstance
  WellFormed q _ := q.windows.Consistent
  consistent := id
  declares consistent :=
    ⟨_, Checked.bind_eq_ok.2 ⟨_, checkedWindows_of_consistent consistent, rfl⟩⟩
  declared h := by
    obtain ⟨_, hwindows, h⟩ := Checked.bind_eq_ok.1 h
    obtain ⟨valid, rfl⟩ := checkedWindows_eq_ok.1 hwindows
    obtain rfl := Checked.pure_eq_ok.1 h
    refine ⟨⟨Spans.full_ordered, Spans.full_ordered, Spans.full_ordered, Spans.full_ordered⟩, ?_,
      rfl, valid⟩
    intro p
    simp only [Declaration.mem_iff, Declaration.everywhere, Spans.mem_full, Region.mem_iff,
      Region.universal]

instance : LawfulPermission TimedPermission where
  windows := TimedPermission.windows
  Covers q _ p := q.Covers p
  decidableCovers _ _ _ := inferInstance
  WellFormed q _ := q.WellFormed
  consistent := TimedPermission.WellFormed.windows
  declares wellFormed :=
    ⟨_, Checked.bind_eq_ok.2 ⟨_, checkedSpans_of_valid wellFormed.timelineTimes,
      Checked.bind_eq_ok.2 ⟨_, checkedWindows_of_consistent wellFormed.windows, rfl⟩⟩⟩
  declared h := by
    obtain ⟨_, htimeline, h⟩ := Checked.bind_eq_ok.1 h
    obtain ⟨_, hwindows, h⟩ := Checked.bind_eq_ok.1 h
    obtain ⟨timeline, rfl⟩ := checkedSpans_eq_ok.1 htimeline
    obtain ⟨valid, rfl⟩ := checkedWindows_eq_ok.1 hwindows
    obtain rfl := Checked.pure_eq_ok.1 h
    refine ⟨⟨Spans.full_ordered, timeline.ordered, Spans.full_ordered, Spans.full_ordered⟩, ?_,
      rfl, valid⟩
    intro p
    simp [Declaration.mem_iff, Declaration.everywhere, TimedPermission.Covers]

instance : LawfulPermission BadgeTimedPermission where
  windows := BadgeTimedPermission.windows
  Covers q _ p := q.Covers p
  decidableCovers _ _ _ := inferInstance
  WellFormed q _ := q.WellFormed
  consistent := BadgeTimedPermission.WellFormed.windows
  declares wellFormed :=
    ⟨_, Checked.bind_eq_ok.2 ⟨_, checkedSpans_of_valid wellFormed.timelineTimes,
      Checked.bind_eq_ok.2 ⟨_, checkedSpans_of_valid wellFormed.badgeIds,
        Checked.bind_eq_ok.2 ⟨_, checkedWindows_of_consistent wellFormed.windows, rfl⟩⟩⟩⟩
  declared h := by
    obtain ⟨_, htimeline, h⟩ := Checked.bind_eq_ok.1 h
    obtain ⟨_, hbadge, h⟩ := Checked.bind_eq_ok.1 h
    obtain ⟨_, hwindows, h⟩ := Checked.bind_eq_ok.1 h
    obtain ⟨timeline, rfl⟩ := checkedSpans_eq_ok.1 htimeline
    obtain ⟨badge, rfl⟩ := checkedSpans_eq_ok.1 hbadge
    obtain ⟨valid, rfl⟩ := checkedWindows_eq_ok.1 hwindows
    obtain rfl := Checked.pure_eq_ok.1 h
    refine ⟨⟨badge.ordered, timeline.ordered, Spans.full_ordered, Spans.full_ordered⟩, ?_, rfl,
      valid⟩
    intro p
    simp [Declaration.mem_iff, Declaration.everywhere, BadgeTimedPermission.Covers]

def ApprovalPermission.declaration (q : ApprovalPermission)
    (fromList toList byList : AddressList) : Declaration :=
  { Declaration.everywhere .empty with
    badgeIds := q.terms.badgeIds
    transferTimes := q.terms.transferTimes
    ownershipTimes := q.terms.ownershipTimes
    toList, fromList, initiatedByList := byList
    approvalIdList := .ofId q.terms.approvalId
    amountTrackerIdList := .ofId q.terms.amountTrackerId
    challengeTrackerIdList := .ofId q.terms.challengeTrackerId
    windows := q.windows }

theorem ApprovalPermission.toDeclaration_eq_ok {q : ApprovalPermission} {resolve : Resolver}
    {d : Declaration} :
    toDeclaration resolve q = .ok d ↔
      Spans.Valid q.terms.badgeIds ∧ Spans.Valid q.terms.transferTimes ∧
        Spans.Valid q.terms.ownershipTimes ∧ q.windows.Valid ∧
        ∃ fromList toList byList, resolve q.fromListId = .ok fromList ∧
          resolve q.toListId = .ok toList ∧ resolve q.terms.initiatedByListId = .ok byList ∧
          q.declaration fromList toList byList = d := by
  constructor
  · intro h
    obtain ⟨_, hbadge, h⟩ := Checked.bind_eq_ok.1 h
    obtain ⟨_, htransfer, h⟩ := Checked.bind_eq_ok.1 h
    obtain ⟨_, hownership, h⟩ := Checked.bind_eq_ok.1 h
    obtain ⟨toList, hto, h⟩ := Checked.bind_eq_ok.1 h
    obtain ⟨fromList, hfrom, h⟩ := Checked.bind_eq_ok.1 h
    obtain ⟨byList, hby, h⟩ := Checked.bind_eq_ok.1 h
    obtain ⟨_, hwindows, h⟩ := Checked.bind_eq_ok.1 h
    obtain ⟨badge, rfl⟩ := checkedSpans_eq_ok.1 hbadge
    obtain ⟨transfer, rfl⟩ := checkedSpans_eq_ok.1 htransfer
    obtain ⟨ownership, rfl⟩ := checkedSpans_eq_ok.1 hownership
    obtain ⟨windows, rfl⟩ := checkedWindows_eq_ok.1 hwindows
    exact ⟨badge, transfer, ownership, windows, fromList, toList, byList, hfrom, hto, hby,
      Checked.pure_eq_ok.1 h⟩
  · intro h
    rcases h with ⟨badge, transfer, ownership, windows, fromList, toList, byList, hfrom, hto, hby,
      rfl⟩
    have checked : checkedWindows q.windows = .ok q.windows := checkedWindows_eq_ok.2 ⟨windows, rfl⟩
    simp only [toDeclaration, checkedSpans_of_valid badge, checkedSpans_of_valid transfer,
      checkedSpans_of_valid ownership, hto, hfrom, hby, checked]
    rfl

instance : LawfulPermission ApprovalPermission where
  windows := ApprovalPermission.windows
  Covers := ApprovalPermission.Covers
  decidableCovers _ _ _ := inferInstance
  WellFormed := ApprovalPermission.WellFormed
  consistent := ApprovalPermission.WellFormed.windows
  declares {q resolve} wellFormed := by
    obtain ⟨toList, hto⟩ := wellFormed.toList
    obtain ⟨fromList, hfrom⟩ := wellFormed.fromList
    obtain ⟨byList, hby⟩ := wellFormed.initiatedByList
    have windows : q.windows.Valid := ⟨wellFormed.windows.permitted, wellFormed.windows.forbidden⟩
    exact ⟨_, ApprovalPermission.toDeclaration_eq_ok.2 ⟨wellFormed.badgeIds,
      wellFormed.transferTimes, wellFormed.ownershipTimes, windows, _, _, _, hfrom, hto, hby, rfl⟩⟩
  declared h := by
    obtain ⟨badge, transfer, ownership, valid, _, _, _, hfrom, hto, hby, rfl⟩ :=
      ApprovalPermission.toDeclaration_eq_ok.1 h
    refine ⟨⟨badge.ordered, Spans.full_ordered, transfer.ordered, ownership.ordered⟩, ?_, rfl,
      valid⟩
    intro p
    simp only [Declaration.mem_iff, ApprovalPermission.declaration, Declaration.everywhere,
      Spans.mem_full, AddressList.mem_ofId, ApprovalPermission.Covers, TransferTerms.Cover,
      Resolver.holds_iff hto, Resolver.holds_iff hfrom, Resolver.holds_iff hby]

namespace Permission

section Declare

variable {P : Type} [Permission P] {kind : PermissionKind} {resolve : Resolver}
  {permissions : List P} {declarations : List Declaration}

theorem declare_eq_ok :
    declare kind resolve permissions = .ok declarations ↔
      toDeclarations resolve permissions = .ok declarations ∧
        ∀ d ∈ declarations, checkWindows kind d.windows = .ok () := by
  unfold declare
  rw [Checked.bind_eq_ok]
  constructor
  · intro h
    rcases h with ⟨ds, declared, h⟩
    obtain ⟨_, valid, h⟩ := Checked.bind_eq_ok.1 h
    obtain rfl := Checked.pure_eq_ok.1 h
    exact ⟨declared, Checked.forM_eq_ok.1 valid⟩
  · intro h
    exact ⟨declarations, h.1, Checked.bind_eq_ok.2 ⟨(), Checked.forM_eq_ok.2 h.2, rfl⟩⟩

variable [LawfulPermission P]

theorem ordered_of_toDeclarations (h : toDeclarations resolve permissions = .ok declarations) :
    ∀ d ∈ declarations, d.Ordered := by
  intro d hd
  obtain ⟨q, _, hq⟩ := exists_left_of_forall₂ (Checked.mapM_eq_ok.1 h) hd
  exact (LawfulPermission.declared hq).ordered

theorem ordered_of_declare (h : declare kind resolve permissions = .ok declarations) :
    ∀ d ∈ declarations, d.Ordered :=
  ordered_of_toDeclarations (declare_eq_ok.1 h).1

theorem exists_find?_iff (h : toDeclarations resolve permissions = .ok declarations) (p : Point)
    (holds : Windows → Prop) :
    (∃ d, declarations.find? (p ∈ ·) = some d ∧ holds d.windows) ↔
      ∃ q, permissions.find? (fun q => LawfulPermission.Covers q resolve p) = some q ∧
        holds (LawfulPermission.windows q) := by
  refine (exists_find?_iff_of_forall₂ (Checked.mapM_eq_ok.1 h) ?_ ?_).symm
  · intro q d hq
    simp [(LawfulPermission.declared hq).mem_iff p]
  · intro q d hq
    rw [(LawfulPermission.declared hq).windows]

theorem exists_declare (kind : PermissionKind)
    (wellFormed : ∀ q ∈ permissions, LawfulPermission.WellFormed q resolve) :
    ∃ declarations, declare kind resolve permissions = .ok declarations := by
  obtain ⟨declarations, declared⟩ := Checked.exists_mapM_eq_ok.2
    fun q hq => LawfulPermission.declares (wellFormed q hq)
  refine ⟨declarations, declare_eq_ok.2 ⟨declared, fun d hd => ?_⟩⟩
  obtain ⟨q, hq, hd⟩ := exists_left_of_forall₂ (Checked.mapM_eq_ok.1 declared) hd
  have consistent := (Windows.consistent_iff _).1 (LawfulPermission.consistent (wellFormed q hq))
  rw [(LawfulPermission.declared hd).windows, checkWindows_eq_ok]
  exact consistent.2.2

end Declare

end Permission

end BadgeRights
