import BadgeRights.Span
import BadgeRights.Permission.Kind
import BadgeRights.Text.Quoted

set_option autoImplicit false

namespace BadgeRights

inductive FaultClass where
  | invalid
  | invalidOldValue
  | invalidNewValue
  | notFound
  | permissionDenied
  | internal
  deriving DecidableEq, Inhabited

namespace FaultClass

def heading : FaultClass → String
  | invalid => "Invalid"
  | invalidOldValue => "InvalidOldValue"
  | invalidNewValue => "InvalidNewValue"
  | notFound => "Not found"
  | permissionDenied => "Permission denied"
  | internal => "Internal error"

/-- Only faults of the input are relabelled for a side. -/
def onSide (cls side : FaultClass) : FaultClass :=
  match cls with
  | invalid | notFound => side
  | _ => cls

end FaultClass

structure Fault where
  cls : FaultClass
  message : String
  deriving DecidableEq, Inhabited

namespace Fault

def text (f : Fault) : String :=
  f.cls.heading ++ ": " ++ f.message

def inOld (f : Fault) : Fault :=
  { f with cls := f.cls.onSide .invalidOldValue }

def inNew (f : Fault) : Fault :=
  { f with cls := f.cls.onSide .invalidNewValue }

def isDenial (f : Fault) : Bool :=
  f.cls == .permissionDenied

end Fault

inductive SystemError where
  | notFound
  | permissionDenied
  | other
  deriving DecidableEq

namespace SystemError

def cls : SystemError → FaultClass
  | notFound => .notFound
  | permissionDenied => .permissionDenied
  | other => .internal

def fault (e : SystemError) (message : String) : Fault := ⟨e.cls, message⟩

end SystemError

inductive ReadFailure where
  | missing
  | notText
  deriving DecidableEq

inductive DocumentFormat where
  | json
  | toml
  deriving DecidableEq

inductive Cause where
  | notUnsigned (text : String)
  | underflow (minuend subtrahend : Nat)
  | reversed (start stop : Nat)
  | startsAtZero (s : Span)
  | beyondMaximum (s : Span)
  | overlapping (s t : Span)
  | ambiguousTimeline (inner : Fault)
  | emptyListId
  | reservedListId (id : String)
  | unknownList (id : String)
  | bothWays (kind : PermissionKind) (times : List Span)
  | approvalIdNotAllowed (id : String)
  | duplicateApprovalId (id : String)
  | unknownPolicy (text : String)
  | timeVariable (text : String)
  | instantOutside (instant : Nat)
  | unreadable (failure : ReadFailure)
  | unsupportedFormat
  | malformed (format : DocumentFormat)
  | denied (denial : String)
  deriving DecidableEq

def spansText (spans : List Span) : String :=
  "[" ++ String.intercalate ", " (spans.map Span.text) ++ "]"

namespace Cause

def cls : Cause → FaultClass
  | unknownList _ => .notFound
  | unreadable _ => .internal
  | denied _ => .permissionDenied
  | _ => .invalid

def message : Cause → String
  | notUnsigned text => "not an unsigned integer: " ++ Text.quote text
  | underflow a b => "underflow subtracting " ++ Text.decimal b ++ " from " ++ Text.decimal a
  | reversed start stop =>
      "range start " ++ Text.decimal start ++ " is greater than end " ++ Text.decimal stop
  | startsAtZero s => "range " ++ s.text ++ " starts at zero"
  | beyondMaximum s => "range " ++ s.text ++ " exceeds the maximum " ++ Text.decimal maxValue
  | overlapping s t => "ranges " ++ s.text ++ " and " ++ t.text ++ " overlap"
  | ambiguousTimeline inner => "timeline times overlap: " ++ inner.text
  | emptyListId => "address list id is empty"
  | reservedListId id => "address list id " ++ Text.quote id ++ " is reserved"
  | unknownList id => "address list " ++ Text.quote id
  | bothWays kind times =>
      kind.name ++ ": times " ++ spansText times ++ " are both permitted and forbidden"
  | approvalIdNotAllowed id => "approval id " ++ Text.quote id ++ " is not allowed"
  | duplicateApprovalId id => "duplicate approval id " ++ Text.quote id
  | unknownPolicy text => "unknown unhandled region policy " ++ Text.quote text
  | timeVariable text => "Invalid time in BADGES_EVALUATION_TIME: " ++ Text.quote text
  | instantOutside t =>
      "evaluation time " ++ Text.decimal t ++ " is outside [1, " ++ Text.decimal maxValue ++ "]"
  | unreadable .missing =>
      "Failed to read config file: No such file or directory (os error 2)"
  | unreadable .notText =>
      "Failed to read config file: stream did not contain valid UTF-8"
  | unsupportedFormat => "Unsupported config file format"
  | malformed .json => "Invalid JSON"
  | malformed .toml => "Invalid TOML"
  | denied denial => denial

def fault (c : Cause) : Fault := ⟨c.cls, c.message⟩

end Cause

abbrev Checked (α : Type) := Except Fault α

def refuse {α : Type} (c : Cause) : Checked α := .error c.fault

end BadgeRights
