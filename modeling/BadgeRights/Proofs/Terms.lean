import BadgeRights.Proofs.Checked
import BadgeRights.Proofs.Region
import BadgeRights.Permission

set_option autoImplicit false

namespace BadgeRights

def Resolver.Holds (resolve : Resolver) (id address : String) : Prop :=
  ∃ l ∈ (resolve id).toOption, address ∈ l

instance (resolve : Resolver) (id address : String) : Decidable (resolve.Holds id address) :=
  inferInstanceAs (Decidable (∃ l ∈ (resolve id).toOption, address ∈ l))

theorem Resolver.holds_iff {resolve : Resolver} {id : String} {l : AddressList}
    (h : resolve id = .ok l) (address : String) : resolve.Holds id address ↔ address ∈ l := by
  simp [Holds, h, Except.toOption]

def Resolver.Empty (resolve : Resolver) (id : String) : Prop :=
  ∃ l ∈ (resolve id).toOption, l.isEmpty = true

instance (resolve : Resolver) (id : String) : Decidable (resolve.Empty id) :=
  inferInstanceAs (Decidable (∃ l ∈ (resolve id).toOption, l.isEmpty = true))

theorem Resolver.not_empty_iff {resolve : Resolver} {id : String} {l : AddressList}
    (h : resolve id = .ok l) : ¬resolve.Empty id ↔ ∃ a, a ∈ l := by
  simp [Empty, h, Except.toOption, AddressList.exists_mem_iff]
def IdCovers (id text : String) : Prop := id = "" ∨ id = anyId ∨ text = id

instance (id text : String) : Decidable (IdCovers id text) :=
  inferInstanceAs (Decidable (_ ∨ _ ∨ _))

@[simp] theorem AddressList.mem_everyone (a : String) : a ∈ everyone := by
  simp [mem_def, everyone, allBut, withId]

@[simp] theorem AddressList.mem_only (ids : List String) (a : String) : a ∈ only ids ↔ a ∈ ids := Iff.rfl

@[simp] theorem AddressList.mem_ofId (id text : String) : text ∈ ofId id ↔ IdCovers id text := by
  unfold ofId IdCovers
  split
  · rename_i any
    exact ⟨fun _ => any.elim .inl fun h => .inr (.inl h), fun _ => mem_everyone text⟩
  · rename_i own
    rw [mem_only, List.mem_singleton]
    constructor
    · exact fun same => .inr (.inr same)
    · intro covers
      rcases covers with unset | all | same
      · exact absurd (.inl unset) own
      · exact absurd (.inr all) own
      · exact same

theorem AddressList.exists_mem_ofId (id : String) : ∃ text, text ∈ ofId id :=
  ⟨id, (mem_ofId id id).2 (.inr (.inr rfl))⟩

theorem Spans.full_ordered : Ordered [.full] := by decide

@[simp] theorem Spans.mem_full (n : Nat) : Mem n [.full] ↔ n ∈ Span.full := by
  simp [Mem]

def TransferTerms.Cover (terms : TransferTerms) (resolve : Resolver)
    (fromListId toListId : String) (p : Point) : Prop :=
  Spans.Mem p.badgeId terms.badgeIds ∧ p.timelineTime ∈ Span.full ∧
    Spans.Mem p.transferTime terms.transferTimes ∧
    Spans.Mem p.ownershipTime terms.ownershipTimes ∧
    resolve.Holds toListId p.recipient ∧ resolve.Holds fromListId p.sender ∧
    resolve.Holds terms.initiatedByListId p.initiator ∧
    IdCovers terms.approvalId p.approvalId ∧
    IdCovers terms.amountTrackerId p.amountTrackerId ∧
    IdCovers terms.challengeTrackerId p.challengeTrackerId

instance (terms : TransferTerms) (resolve : Resolver) (fromListId toListId : String) (p : Point) :
    Decidable (terms.Cover resolve fromListId toListId p) :=
  inferInstanceAs (Decidable (_ ∧ _ ∧ _ ∧ _ ∧ _ ∧ _ ∧ _ ∧ _ ∧ _ ∧ _))

namespace ApprovalPermission

def listIds (q : ApprovalPermission) : List String :=
  [q.fromListId, q.toListId, q.terms.initiatedByListId]

def Covers (q : ApprovalPermission) (resolve : Resolver) (p : Point) : Prop :=
  q.terms.Cover resolve q.fromListId q.toListId p

instance (q : ApprovalPermission) (resolve : Resolver) (p : Point) :
    Decidable (q.Covers resolve p) :=
  inferInstanceAs (Decidable (q.terms.Cover _ _ _ _))

end ApprovalPermission

namespace Permission

theorem checkedSpans_eq_ok {spans others : List Span} :
    checkedSpans spans = .ok others ↔ Spans.Valid spans ∧ spans = others :=
  Spans.validate_then_eq_ok

theorem checkedWindows_eq_ok {w v : Windows} :
    checkedWindows w = .ok v ↔ (Spans.Valid w.permitted ∧ Spans.Valid w.forbidden) ∧ w = v := by
  unfold checkedWindows
  simp only [Checked.bind_eq_ok, checkedSpans_eq_ok, Checked.pure_eq_ok]
  constructor
  · intro h
    rcases h with ⟨_, ⟨permitted, rfl⟩, _, ⟨forbidden, rfl⟩, rfl⟩
    exact ⟨⟨permitted, forbidden⟩, rfl⟩
  · intro h
    rcases h with ⟨⟨permitted, forbidden⟩, rfl⟩
    exact ⟨_, ⟨permitted, rfl⟩, _, ⟨forbidden, rfl⟩, rfl⟩

end Permission

end BadgeRights
