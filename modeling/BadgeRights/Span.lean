import BadgeRights.Text.Numeral

set_option autoImplicit false

namespace BadgeRights

def maxValue : Nat := 18446744073709551615

/-- The naturals from `start` to `stop`; there are none if `start` lies above `stop`. -/
structure Span where
  start : Nat
  stop : Nat
  deriving DecidableEq, Inhabited

namespace Span

instance : Membership Nat Span := ⟨fun s x => s.start ≤ x ∧ x ≤ s.stop⟩

@[simp] theorem mem_def (x : Nat) (s : Span) : x ∈ s ↔ s.start ≤ x ∧ x ≤ s.stop := Iff.rfl

instance (x : Nat) (s : Span) : Decidable (x ∈ s) :=
  decidable_of_iff _ (mem_def x s).symm

def full : Span := ⟨1, maxValue⟩

def single (x : Nat) : Span := ⟨x, x⟩

def contains (s : Span) (x : Nat) : Bool :=
  decide (s.start ≤ x) && decide (x ≤ s.stop)

@[simp] theorem contains_eq_true (s : Span) (x : Nat) : s.contains x = true ↔ x ∈ s := by
  simp [contains]

/-- Compares the ends only; for spans with a member it says that some member is shared. -/
def overlaps (s t : Span) : Bool :=
  decide (s.start ≤ t.stop) && decide (t.start ≤ s.stop)

def inter? (s t : Span) : Option Span :=
  if s.overlaps t then some ⟨max s.start t.start, min s.stop t.stop⟩ else none

def outside (s cut : Span) : List Span :=
  (if s.start < cut.start then [⟨s.start, cut.start - 1⟩] else []) ++
    (if cut.stop < s.stop then [⟨cut.stop + 1, s.stop⟩] else [])

def remove (s handled : Span) : List Span × Option Span :=
  match s.inter? handled with
  | none => ([s], none)
  | some cut => (s.outside cut, some cut)

def Ordered (s : Span) : Prop := s.start ≤ s.stop

def Valid (s : Span) : Prop := 1 ≤ s.start ∧ s.start ≤ s.stop ∧ s.stop ≤ maxValue

instance (s : Span) : Decidable s.Ordered := inferInstanceAs (Decidable (_ ≤ _))

instance (s : Span) : Decidable s.Valid := inferInstanceAs (Decidable (_ ∧ _ ∧ _))

theorem mem_inter? (s t cut : Span) (h : s.inter? t = some cut) (x : Nat) :
    x ∈ cut ↔ x ∈ s ∧ x ∈ t := by
  unfold inter? at h
  split at h
  · cases h
    simp only [mem_def]
    omega
  · cases h

theorem inter?_none (s t : Span) (h : s.inter? t = none) (x : Nat) :
    ¬(x ∈ s ∧ x ∈ t) := by
  unfold inter? at h
  split at h
  · cases h
  · simp_all only [overlaps, Bool.and_eq_true, decide_eq_true_eq, mem_def]
    omega

theorem mem_remove_left (s handled : Span) (x : Nat) :
    (∃ piece ∈ (s.remove handled).1, x ∈ piece) ↔ x ∈ s ∧ ¬x ∈ handled := by
  unfold remove inter?
  by_cases meet : s.overlaps handled
  · simp only [meet, if_true, outside]
    simp only [overlaps, Bool.and_eq_true, decide_eq_true_eq] at meet
    by_cases front : s.start < max s.start handled.start <;>
      by_cases back : min s.stop handled.stop < s.stop <;>
      simp [front, back] <;> omega
  · have h := inter?_none s handled (by simp [inter?, meet]) x
    simp only [meet, Bool.false_eq_true, if_false, List.mem_singleton, exists_eq_left]
    exact ⟨fun hx => ⟨hx, fun hh => h ⟨hx, hh⟩⟩, And.left⟩

theorem mem_remove_right (s handled : Span) (x : Nat) :
    (∃ cut ∈ (s.remove handled).2, x ∈ cut) ↔ x ∈ s ∧ x ∈ handled := by
  unfold remove
  cases h : s.inter? handled with
  | none => simpa using inter?_none s handled h x
  | some cut => simpa using mem_inter? s handled cut h x

def text (s : Span) : String :=
  if s.start = s.stop then Text.decimal s.start
  else if s.stop = maxValue then Text.decimal s.start ++ "-max"
  else Text.decimal s.start ++ "-" ++ Text.decimal s.stop

end Span

end BadgeRights
