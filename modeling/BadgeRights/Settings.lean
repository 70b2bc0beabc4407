import BadgeRights.Span.Check

set_option autoImplicit false

namespace BadgeRights

inductive UnhandledPolicy where
  | requirePermitted
  | neutral
  deriving DecidableEq, Inhabited

namespace UnhandledPolicy

def name : UnhandledPolicy → String
  | requirePermitted => "require_permitted"
  | neutral => "neutral"

def ofName? : String → Option UnhandledPolicy
  | "require_permitted" => some requirePermitted
  | "neutral" => some neutral
  | _ => none

@[simp] theorem ofName?_name (p : UnhandledPolicy) : ofName? p.name = some p := by
  cases p <;> rfl

def read (text : String) : Checked UnhandledPolicy :=
  let trimmed := Text.trim text
  match ofName? trimmed with
  | some p => .ok p
  | none => refuse (.unknownPolicy trimmed)

end UnhandledPolicy

structure Stance where
  now : Nat
  unhandled : UnhandledPolicy
  deriving DecidableEq

structure Settings where
  /-- The pinned instant; without one the clock decides. -/
  evaluationTime : Option Nat := none
  unhandled : UnhandledPolicy := .requirePermitted
  deriving DecidableEq, Inhabited

namespace Settings

def atTime (instant : Nat) : Settings := { evaluationTime := some instant }

def now (s : Settings) (clock : Nat) : Nat := s.evaluationTime.getD clock

def stance (s : Settings) (clock : Nat) : Stance := ⟨s.now clock, s.unhandled⟩

def validate (s : Settings) : Checked Unit :=
  match s.evaluationTime with
  | none => .ok ()
  | some t => if 1 ≤ t ∧ t ≤ maxValue then .ok () else refuse (.instantOutside t)

def timeVariable : String := "BADGES_EVALUATION_TIME"

def policyVariable : String := "BADGES_UNHANDLED_REGIONS"

def withTime (s : Settings) : Option String → Checked Settings
  | none => .ok s
  | some text =>
      match Text.numeral? text with
      | some t => .ok { s with evaluationTime := some t }
      | none => refuse (.timeVariable text)

def withPolicy (s : Settings) : Option String → Checked Settings
  | none => .ok s
  | some text => do return { s with unhandled := ← UnhandledPolicy.read text }

/-- Assigns the variables that are set, first the instant and then the policy, and validates the
outcome. Settings assigned before a fault stay assigned. -/
def override (s : Settings) (lookup : String → Option String) : Settings × Checked Unit :=
  match s.withTime (lookup timeVariable) with
  | .error f => (s, .error f)
  | .ok timed =>
      match timed.withPolicy (lookup policyVariable) with
      | .error f => (timed, .error f)
      | .ok assigned => (assigned, assigned.validate)

end Settings

end BadgeRights
