import BadgeRights.Span.Set
import BadgeRights.Fault

set_option autoImplicit false

namespace BadgeRights

namespace Span

def make (start stop : Nat) : Checked Span :=
  if start ≤ stop then .ok ⟨start, stop⟩ else refuse (.reversed start stop)

def validate (s : Span) : Checked Unit :=
  if s.stop < s.start then refuse (.reversed s.start s.stop)
  else if s.start = 0 then refuse (.startsAtZero s)
  else if maxValue < s.stop then refuse (.beyondMaximum s)
  else .ok ()

theorem validate_eq_ok (s : Span) : s.validate = .ok () ↔ s.Valid := by
  unfold validate refuse Valid
  split
  · simp; omega
  · split
    · simp; omega
    · split <;> simp <;> omega

end Span

namespace Spans

def validate (spans : List Span) : Checked Unit :=
  spans.forM Span.validate

def separate : List Span → Checked Unit
  | s :: t :: rest => if s.overlaps t then refuse (.overlapping s t) else separate (t :: rest)
  | _ => .ok ()

def validateDisjoint (spans : List Span) : Checked Unit := do
  validate spans
  separate (sort spans)

end Spans

def subtract? (a b : Nat) : Checked Nat :=
  if b ≤ a then .ok (a - b) else refuse (.underflow a b)

def readNatural (text : String) : Checked Nat :=
  match Text.numeral? text with
  | some n => .ok n
  | none => refuse (.notUnsigned text)

end BadgeRights
