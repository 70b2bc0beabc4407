import BadgeRights.Region
import BadgeRights.Criteria
import BadgeRights.Field
import BadgeRights.Span.Set

set_option autoImplicit false

namespace BadgeRights

structure ApprovalValue where
  approvalId : String
  uri : String
  customData : String
  approvalCriteria : Criteria
  deriving DecidableEq

inductive Payload where
  | empty
  | value (v : FieldValue)
  | approval (v : ApprovalValue)
  | criteria (stack : CriteriaStack)
  deriving DecidableEq

/-- What holds where a declaration with the payload `later` follows one with `earlier`; `none`
where the earlier payload stands. -/
def Payload.mergeOverlap : (earlier later : Payload) → Option Payload
  | .criteria earlier, .criteria later => some (.criteria (earlier.stacked later))
  | _, _ => none

/-- When changes are permitted for good, and when they are forbidden for good. -/
structure Windows where
  permitted : List Span
  forbidden : List Span
  deriving DecidableEq

namespace Windows

def none : Windows := ⟨[], []⟩

def permits (w : Windows) (now : Nat) : Bool := Spans.contains w.permitted now

def forbids (w : Windows) (now : Nat) : Bool := Spans.contains w.forbidden now

def isNone (w : Windows) : Bool := w.permitted.isEmpty && w.forbidden.isEmpty

def keptIn (w later : Windows) : Bool :=
  Spans.isSubset w.permitted later.permitted && Spans.isSubset w.forbidden later.forbidden

end Windows

structure Detail where
  region : Region
  windows : Windows
  payload : Payload
  deriving DecidableEq

namespace Detail

instance : Membership Point Detail := ⟨fun d p => p ∈ d.region⟩

theorem mem_def (p : Point) (d : Detail) : p ∈ d ↔ p ∈ d.region := Iff.rfl

instance (p : Point) (d : Detail) : Decidable (p ∈ d) :=
  inferInstanceAs (Decidable (p ∈ d.region))

def onRegion (d : Detail) (r : Region) : Detail := { d with region := r }

def carve (handled : Region) (details : List Detail) : List Detail :=
  details.flatMap fun d => (d.region.cut handled).outside.map d.onRegion

theorem mem_carve (handled : Region) (details : List Detail) (p : Point) :
    (∃ d ∈ carve handled details, p ∈ d) ↔ (∃ d ∈ details, p ∈ d) ∧ ¬p ∈ handled := by
  simp only [carve, List.mem_flatMap, List.mem_map]
  constructor
  · rintro ⟨_, ⟨d, hd, r, hr, rfl⟩, hp⟩
    obtain ⟨inside, out⟩ := (d.region.cut_exactAt handled p).1.1 ⟨r, hr, hp⟩
    exact ⟨⟨d, hd, inside⟩, out⟩
  · rintro ⟨⟨d, hd, hp⟩, out⟩
    obtain ⟨r, hr, hp⟩ := (d.region.cut_exactAt handled p).1.2 ⟨hp, out⟩
    exact ⟨d.onRegion r, ⟨d, hd, r, hr, rfl⟩, hp⟩

def carveAll (handled details : List Detail) : List Detail :=
  handled.foldl (fun left h => carve h.region left) details

theorem mem_carveAll (handled details : List Detail) (p : Point) :
    (∃ d ∈ carveAll handled details, p ∈ d) ↔
      (∃ d ∈ details, p ∈ d) ∧ ∀ h ∈ handled, ¬p ∈ h := by
  unfold carveAll
  induction handled generalizing details with
  | nil => simp
  | cons h rest ih =>
      rw [List.foldl_cons, ih, mem_carve]
      simp [and_assoc, mem_def]

end Detail

structure Declaration where
  badgeIds : List Span
  timelineTimes : List Span
  transferTimes : List Span
  ownershipTimes : List Span
  toList : AddressList
  fromList : AddressList
  initiatedByList : AddressList
  approvalIdList : AddressList
  amountTrackerIdList : AddressList
  challengeTrackerIdList : AddressList
  windows : Windows
  payload : Payload
  deriving DecidableEq

namespace Declaration

def everywhere (payload : Payload) : Declaration :=
  { badgeIds := [.full], timelineTimes := [.full], transferTimes := [.full],
    ownershipTimes := [.full], toList := .everyone, fromList := .everyone,
    initiatedByList := .everyone, approvalIdList := .everyone, amountTrackerIdList := .everyone,
    challengeTrackerIdList := .everyone, windows := .none, payload }

instance : Membership Point Declaration :=
  ⟨fun d p =>
    Spans.Mem p.badgeId d.badgeIds ∧ Spans.Mem p.timelineTime d.timelineTimes ∧
      Spans.Mem p.transferTime d.transferTimes ∧ Spans.Mem p.ownershipTime d.ownershipTimes ∧
      p.recipient ∈ d.toList ∧ p.sender ∈ d.fromList ∧ p.initiator ∈ d.initiatedByList ∧
      p.approvalId ∈ d.approvalIdList ∧ p.amountTrackerId ∈ d.amountTrackerIdList ∧
      p.challengeTrackerId ∈ d.challengeTrackerIdList⟩

theorem mem_iff (p : Point) (d : Declaration) :
    p ∈ d ↔
      Spans.Mem p.badgeId d.badgeIds ∧ Spans.Mem p.timelineTime d.timelineTimes ∧
        Spans.Mem p.transferTime d.transferTimes ∧ Spans.Mem p.ownershipTime d.ownershipTimes ∧
        p.recipient ∈ d.toList ∧ p.sender ∈ d.fromList ∧ p.initiator ∈ d.initiatedByList ∧
        p.approvalId ∈ d.approvalIdList ∧ p.amountTrackerId ∈ d.amountTrackerIdList ∧
        p.challengeTrackerId ∈ d.challengeTrackerIdList := Iff.rfl

instance (p : Point) (d : Declaration) : Decidable (p ∈ d) :=
  decidable_of_iff _ (mem_iff p d).symm

def region (d : Declaration) (badge timeline transfer ownership : Span) : Region :=
  ⟨badge, timeline, transfer, ownership, d.toList, d.fromList, d.initiatedByList,
    d.approvalIdList, d.amountTrackerIdList, d.challengeTrackerIdList⟩

def regions (d : Declaration) : List Region :=
  d.badgeIds.flatMap fun badge =>
    d.timelineTimes.flatMap fun timeline =>
      d.transferTimes.flatMap fun transfer =>
        d.ownershipTimes.map fun ownership => d.region badge timeline transfer ownership

def details (d : Declaration) : List Detail :=
  d.regions.map fun r => ⟨r, d.windows, d.payload⟩

def Ordered (d : Declaration) : Prop :=
  Spans.Ordered d.badgeIds ∧ Spans.Ordered d.timelineTimes ∧ Spans.Ordered d.transferTimes ∧
    Spans.Ordered d.ownershipTimes

instance (d : Declaration) : Decidable d.Ordered := inferInstanceAs (Decidable (_ ∧ _ ∧ _ ∧ _))

theorem mem_regions (d : Declaration) (p : Point) : (∃ r ∈ d.regions, p ∈ r) ↔ p ∈ d := by
  constructor
  · rintro ⟨r, hr, hp⟩
    simp only [regions, List.mem_flatMap, List.mem_map] at hr
    obtain ⟨badge, hb, timeline, ht, transfer, hx, ownership, ho, rfl⟩ := hr
    obtain ⟨pb, pt, px, po, lists⟩ := hp
    exact ⟨⟨badge, hb, pb⟩, ⟨timeline, ht, pt⟩, ⟨transfer, hx, px⟩, ⟨ownership, ho, po⟩, lists⟩
  · rintro ⟨⟨badge, hb, pb⟩, ⟨timeline, ht, pt⟩, ⟨transfer, hx, px⟩, ⟨ownership, ho, po⟩, lists⟩
    refine ⟨d.region badge timeline transfer ownership, ?_, pb, pt, px, po, lists⟩
    simp only [regions, List.mem_flatMap, List.mem_map]
    exact ⟨badge, hb, timeline, ht, transfer, hx, ownership, ho, rfl⟩

end Declaration

end BadgeRights
