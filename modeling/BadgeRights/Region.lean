import BadgeRights.Axis
import BadgeRights.Address.List
import BadgeRights.Fault

set_option autoImplicit false

namespace BadgeRights

instance : Axis Span Nat where
  cut value handled :=
    let (outside, shared) := value.remove handled
    ⟨outside, shared⟩

instance : LawfulAxis Span where
  exact value handled x :=
    ⟨Span.mem_remove_left value handled x, Span.mem_remove_right value handled x⟩

namespace AddressList

/-- Cuts a list. Where nothing is cut off, the shared part is the list itself, with its id. -/
def cut (value handled : AddressList) : Cut AddressList :=
  let (outside, common) := value.subtract handled
  let shared := if common.sameMembers value then value else common
  ⟨if outside.isEmpty then [] else [outside], if shared.isEmpty then none else some shared⟩

theorem cut_exactAt (value handled : AddressList) (a : String) :
    (value.cut handled).ExactAt value handled a := by
  have outside := mem_subtract_left value handled a
  have common := mem_subtract_right value handled a
  unfold cut
  generalize value.subtract handled = pieces at outside common
  obtain ⟨left, right⟩ := pieces
  have kept : a ∈ (if right.sameMembers value then value else right) ↔ a ∈ right := by
    split
    · rename_i same
      exact (mem_of_sameMembers right value same a).symm
    · exact Iff.rfl
  constructor
  · rw [← outside]
    by_cases none : left.isEmpty = true
    · simp [none, not_mem_of_isEmpty left none a]
    · simp [none]
  · rw [← common, ← kept]
    by_cases none : (if right.sameMembers value then value else right).isEmpty = true
    · simp [none, not_mem_of_isEmpty _ none a]
    · simp [none]

end AddressList

instance : Axis AddressList String where
  cut := AddressList.cut

instance : LawfulAxis AddressList where
  exact := AddressList.cut_exactAt

structure Point where
  badgeId : Nat
  timelineTime : Nat
  transferTime : Nat
  ownershipTime : Nat
  recipient : String
  sender : String
  initiator : String
  approvalId : String
  amountTrackerId : String
  challengeTrackerId : String
  deriving DecidableEq

namespace Point

abbrev Coordinates :=
  Nat × Nat × Nat × Nat × String × String × String × String × String × String

def coordinates (p : Point) : Coordinates :=
  (p.badgeId, p.timelineTime, p.transferTime, p.ownershipTime, p.recipient, p.sender,
    p.initiator, p.approvalId, p.amountTrackerId, p.challengeTrackerId)

end Point

structure Region where
  badgeIds : Span
  timelineTimes : Span
  transferTimes : Span
  ownershipTimes : Span
  toList : AddressList
  fromList : AddressList
  initiatedByList : AddressList
  approvalIdList : AddressList
  amountTrackerIdList : AddressList
  challengeTrackerIdList : AddressList
  deriving DecidableEq

namespace Region

abbrev Axes :=
  Span × Span × Span × Span × AddressList × AddressList × AddressList × AddressList ×
    AddressList × AddressList

def axes (r : Region) : Axes :=
  (r.badgeIds, r.timelineTimes, r.transferTimes, r.ownershipTimes, r.toList, r.fromList,
    r.initiatedByList, r.approvalIdList, r.amountTrackerIdList, r.challengeTrackerIdList)

def ofAxes : Axes → Region
  | (badgeIds, timelineTimes, transferTimes, ownershipTimes, toList, fromList, initiatedByList,
      approvalIdList, amountTrackerIdList, challengeTrackerIdList) =>
      ⟨badgeIds, timelineTimes, transferTimes, ownershipTimes, toList, fromList, initiatedByList,
        approvalIdList, amountTrackerIdList, challengeTrackerIdList⟩

instance : Membership Point Region := ⟨fun r p => p.coordinates ∈ r.axes⟩

theorem mem_iff (p : Point) (r : Region) :
    p ∈ r ↔
      p.badgeId ∈ r.badgeIds ∧ p.timelineTime ∈ r.timelineTimes ∧
        p.transferTime ∈ r.transferTimes ∧ p.ownershipTime ∈ r.ownershipTimes ∧
        p.recipient ∈ r.toList ∧ p.sender ∈ r.fromList ∧ p.initiator ∈ r.initiatedByList ∧
        p.approvalId ∈ r.approvalIdList ∧ p.amountTrackerId ∈ r.amountTrackerIdList ∧
        p.challengeTrackerId ∈ r.challengeTrackerIdList := Iff.rfl

instance (p : Point) (r : Region) : Decidable (p ∈ r) :=
  decidable_of_iff _ (mem_iff p r).symm

def universal : Region :=
  ⟨.full, .full, .full, .full, .everyone, .everyone, .everyone, .everyone, .everyone, .everyone⟩

def cut (value handled : Region) : Cut Region :=
  (Axis.cut value.axes handled.axes).map ofAxes

theorem cut_exactAt (value handled : Region) (p : Point) :
    (value.cut handled).ExactAt value handled p := by
  obtain ⟨outside, shared⟩ := LawfulAxis.exact value.axes handled.axes p.coordinates
  constructor
  · refine Iff.trans ?_ outside
    simp only [cut, Cut.map, List.mem_map]
    constructor
    · rintro ⟨_, ⟨a, ha, rfl⟩, hp⟩
      exact ⟨a, ha, hp⟩
    · rintro ⟨a, ha, hp⟩
      exact ⟨ofAxes a, ⟨a, ha, rfl⟩, hp⟩
  · refine Iff.trans ?_ shared
    simp only [cut, Cut.map, Option.mem_def, Option.map_eq_some_iff] at *
    constructor
    · rintro ⟨_, ⟨a, ha, rfl⟩, hp⟩
      exact ⟨a, ha, hp⟩
    · rintro ⟨a, ha, hp⟩
      exact ⟨ofAxes a, ⟨a, ha, rfl⟩, hp⟩

def overlaps (value handled : Region) : Bool :=
  (value.cut handled).shared.isSome

def carve (handled : Region) (pieces : List Region) : List Region :=
  pieces.flatMap fun piece => (piece.cut handled).outside

theorem mem_carve (handled : Region) (pieces : List Region) (p : Point) :
    (∃ r ∈ carve handled pieces, p ∈ r) ↔ (∃ r ∈ pieces, p ∈ r) ∧ ¬p ∈ handled := by
  simp only [carve, List.mem_flatMap]
  constructor
  · rintro ⟨r, ⟨piece, hpiece, hr⟩, hp⟩
    obtain ⟨inside, out⟩ := (piece.cut_exactAt handled p).1.1 ⟨r, hr, hp⟩
    exact ⟨⟨piece, hpiece, inside⟩, out⟩
  · rintro ⟨⟨piece, hpiece, hp⟩, out⟩
    obtain ⟨r, hr, hp⟩ := (piece.cut_exactAt handled p).1.2 ⟨hp, out⟩
    exact ⟨r, ⟨piece, hpiece, hr⟩, hp⟩

def uncovered (r : Region) (handled : List Region) : List Region :=
  handled.foldl (fun pieces h => carve h pieces) [r]

theorem mem_uncovered (r : Region) (handled : List Region) (p : Point) :
    (∃ piece ∈ r.uncovered handled, p ∈ piece) ↔ p ∈ r ∧ ∀ h ∈ handled, ¬p ∈ h := by
  have general (pieces : List Region) :
      (∃ piece ∈ handled.foldl (fun pieces h => carve h pieces) pieces, p ∈ piece) ↔
        (∃ piece ∈ pieces, p ∈ piece) ∧ ∀ h ∈ handled, ¬p ∈ h := by
    induction handled generalizing pieces with
    | nil => simp
    | cons h rest ih =>
        rw [List.foldl_cons, ih, mem_carve]
        simp [and_assoc]
  simpa [uncovered] using general [r]

def Ordered (r : Region) : Prop :=
  r.badgeIds.Ordered ∧ r.timelineTimes.Ordered ∧ r.transferTimes.Ordered ∧
    r.ownershipTimes.Ordered

instance (r : Region) : Decidable r.Ordered := inferInstanceAs (Decidable (_ ∧ _ ∧ _ ∧ _))

def spanTexts (r : Region) : List String :=
  [("badgeIds", r.badgeIds), ("timelineTimes", r.timelineTimes),
    ("transferTimes", r.transferTimes), ("ownershipTimes", r.ownershipTimes)].filterMap
    fun (name, s) => if s = Span.full then none else some (name ++ " " ++ spansText [s])

def listTexts (r : Region) : List String :=
  [("toList", r.toList), ("fromList", r.fromList), ("initiatedByList", r.initiatedByList),
    ("approvalId", r.approvalIdList), ("amountTrackerId", r.amountTrackerIdList),
    ("challengeTrackerId", r.challengeTrackerIdList)].filterMap
    fun (name, l) => if l.isUniversal then none else some (name ++ " " ++ l.describe)

def text (r : Region) : String :=
  match r.spanTexts ++ r.listTexts with
  | [] => "all values"
  | parts => String.intercalate ", " parts

end Region

end BadgeRights
