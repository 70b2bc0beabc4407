import BadgeRights.Codec.Settings
import BadgeRights.Json.Reader
import BadgeRights.Toml.Reader

set_option autoImplicit false

namespace BadgeRights.Settings

/-- How texts become documents. Loading takes any readers; a program runs with `Readers.standard`. -/
structure Readers where
  json? : String → Option Json
  toml? : String → Option Toml.Entries

def Readers.standard : Readers := ⟨Json.read?, Toml.read?⟩

def isUnambiguous (entries : List (String × Json)) : Bool :=
  [Codec.timeKey, Codec.policyKey].all fun key => (entries.filter (·.1 == key)).length ≤ 1

def ofJson? (document : Json) : Option Settings := do
  match document with
  | .object entries => if isUnambiguous entries then pure () else none
  | _ => pure ()
  (decode document : Decoded Settings).toOption

def timeOfToml? : Toml → Option Nat
  | .integer n => (Codec.ofInteger n).toOption
  | .text s => Text.numeral? s
  | _ => none

/-- A policy by its name, or by the only key of a table that holds something empty. -/
def policyOfToml? : Toml → Option UnhandledPolicy
  | .text s => UnhandledPolicy.ofName? s
  | t =>
      match t.entries? with
      | some [(name, content)] =>
          if content.isEmptyContainer then UnhandledPolicy.ofName? name else none
      | _ => none

def settingOfToml? {α : Type} (read? : Toml → Option α) (missing : α) (value : Option Toml) :
    Option α :=
  match value with
  | none => some missing
  | some v => read? v

def ofToml? (entries : Toml.Entries) : Option Settings := do
  let evaluationTime ←
    settingOfToml? (fun v => (timeOfToml? v).map some) none (entries.lookup Codec.timeKey)
  let unhandled ←
    settingOfToml? policyOfToml? .requirePermitted (entries.lookup Codec.policyKey)
  return { evaluationTime, unhandled }

def Readers.settings? (readers : Readers) (text : String) : DocumentFormat → Option Settings
  | .json => (readers.json? text).bind ofJson?
  | .toml => (readers.toml? text).bind ofToml?

def parse (readers : Readers) (format : DocumentFormat) (text : String) : Checked Settings :=
  match readers.settings? text format with
  | some s => .ok s
  | none => refuse (.malformed format)

def ending? (name : String) : Option String :=
  match name.toList.reverse.span (· != '.') with
  | (endingReversed, _ :: _ :: _) => some (String.ofList endingReversed.reverse)
  | _ => none

def formatOfEnding? : String → Option DocumentFormat
  | "toml" => some .toml
  | "json" => some .json
  | _ => none

def formatOf? (name : String) : Option DocumentFormat := (ending? name).bind formatOfEnding?

/-- The settings in a file, given by its name and its bytes; `none` stands for a file that is not
there. The file is read before its ending is looked at. -/
def load (readers : Readers) (name : String) (bytes : Option ByteArray) : Checked Settings :=
  match bytes with
  | none => refuse (.unreadable .missing)
  | some bytes =>
      match String.fromUTF8? bytes with
      | none => refuse (.unreadable .notText)
      | some text => do
          let settings ←
            match formatOf? name with
            | some format => parse readers format text
            | none => refuse .unsupportedFormat
          settings.validate
          return settings

end BadgeRights.Settings
