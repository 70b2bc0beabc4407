import BadgeRights.Span.Check

set_option autoImplicit false

namespace BadgeRights

structure TimelineItem (V : Type) where
  times : List Span
  value : V
  deriving DecidableEq

abbrev Timeline (V : Type) := List (TimelineItem V)

namespace Timeline

variable {V : Type}

def always (value : V) : TimelineItem V := ⟨[.full], value⟩

def isActive (instant : Nat) (item : TimelineItem V) : Bool :=
  Spans.contains item.times instant

def indexAt? (timeline : Timeline V) (instant : Nat) : Option Nat :=
  timeline.findIdx? (isActive instant)

def itemAt? (timeline : Timeline V) (instant : Nat) : Option (TimelineItem V) :=
  timeline.find? (isActive instant)

def allTimes (timeline : Timeline V) : List Span :=
  timeline.flatMap TimelineItem.times

def declaredTimes (timeline : Timeline V) : List Span :=
  Spans.merge (allTimes timeline)

def filled (timeline : Timeline V) (empty : V) (last : Nat) : Timeline V :=
  match Spans.complement (declaredTimes timeline) 1 last with
  | [] => timeline
  | unset => timeline ++ [⟨unset, empty⟩]

def validate (timeline : Timeline V) : Checked Unit := do
  timeline.forM fun item => Spans.validate item.times
  match Spans.validateDisjoint (allTimes timeline) with
  | .ok () => .ok ()
  | .error f => refuse (.ambiguousTimeline f)

end Timeline

end BadgeRights
