import Mathlib.Data.List.TakeDrop
import BadgeRights.Settings.File
import BadgeRights.Proofs.Documents
import BadgeRights.Proofs.Faults
import BadgeRights.Proofs.Overriding

set_option autoImplicit false

namespace BadgeRights.Settings

open Codec

theorem fromUTF8?_toUTF8 (text : String) : String.fromUTF8? text.toUTF8 = some text := by
  simp only [String.fromUTF8?, String.toUTF8_eq_toByteArray, dif_pos text.isValidUTF8]
  rfl

theorem ending?_append {stem ending : String} (named : stem ≠ "") (plain : '.' ∉ ending.toList) :
    ending? (stem ++ "." ++ ending) = some ending := by
  have plainToo : ∀ c ∈ ending.toList.reverse, (c != '.') = true := by
    intro c hc
    rw [bne_iff_ne]
    rintro rfl
    exact plain (List.mem_reverse.1 hc)
  obtain ⟨c, rest, front⟩ : ∃ c rest, stem.toList.reverse = c :: rest :=
    List.exists_cons_of_ne_nil (by simpa using named)
  have split : (stem ++ "." ++ ending).toList.reverse.span (· != '.') =
      (ending.toList.reverse, '.' :: c :: rest) := by
    rw [List.span_eq_takeWhile_dropWhile]
    simp [List.takeWhile_append_of_pos plainToo, List.dropWhile_append_of_pos plainToo, front]
  rw [ending?, split]
  simp

variable {readers : Readers} {stem name text : String} {bytes : Option ByteArray}
  {format : DocumentFormat} {s : Settings}

theorem parse_eq_ok :
    parse readers format text = .ok s ↔ readers.settings? text format = some s := by
  unfold parse
  cases readers.settings? text format <;> simp

theorem failsAs_parse : (parse readers format text).FailsAs .invalid := by
  unfold parse
  split
  · exact Checked.failsAs_ok _
  · exact Checked.failsAs_refuse _

theorem failsAs_validate (s : Settings) : s.validate.FailsAs .invalid := by
  unfold validate
  split
  · exact Checked.failsAs_ok ()
  · split
    · exact Checked.failsAs_ok ()
    · exact Checked.failsAs_refuse _

inductive Loaded (readers : Readers) (name : String) (bytes : Option ByteArray) :
    Checked Settings → Prop where
  | unreadable (failure : ReadFailure) (unread : bytes.bind String.fromUTF8? = none) :
      Loaded readers name bytes (refuse (.unreadable failure))
  | unnamed (text : String) (read : bytes.bind String.fromUTF8? = some text)
      (unnamed : formatOf? name = none) : Loaded readers name bytes (refuse .unsupportedFormat)
  | parsed (text : String) (format : DocumentFormat)
      (read : bytes.bind String.fromUTF8? = some text) (named : formatOf? name = some format) :
      Loaded readers name bytes (do
        let s ← parse readers format text
        s.validate
        return s)

theorem loaded (readers : Readers) (name : String) (bytes : Option ByteArray) :
    Loaded readers name bytes (load readers name bytes) := by
  unfold load
  cases bytes with
  | none => exact .unreadable .missing rfl
  | some content =>
      dsimp only
      split
      · rename_i unread
        exact .unreadable .notText unread
      · rename_i text read
        split
        · rename_i format named
          exact .parsed text format read named
        · rename_i unnamed
          exact .unnamed text read unnamed

theorem load_eq_ok :
    load readers name bytes = .ok s ↔
      ∃ text format, bytes.bind String.fromUTF8? = some text ∧ formatOf? name = some format ∧
        readers.settings? text format = some s ∧ s.validate = .ok () := by
  have outcome := loaded readers name bytes
  generalize load readers name bytes = answer at outcome ⊢
  cases outcome with
  | unreadable failure unread => simp [unread]
  | unnamed text read unnamed => simp [unnamed]
  | parsed text format read named =>
      simp only [Checked.bind_eq_ok, Checked.pure_eq_ok, parse_eq_ok, read, named]
      constructor
      · rintro ⟨s, parsed, _, valid, rfl⟩
        exact ⟨text, format, rfl, rfl, parsed, valid⟩
      · rintro ⟨_, _, ⟨⟩, ⟨⟩, parsed, valid⟩
        exact ⟨s, parsed, (), valid, rfl⟩

/-- Only a file that cannot be read is a fault of the system; all others are faults of the input. -/
theorem cls_of_load {f : Fault} (failed : load readers name bytes = .error f) :
    f.cls = if bytes.bind String.fromUTF8? = none then .internal else .invalid := by
  have outcome := loaded readers name bytes
  generalize load readers name bytes = answer at failed outcome
  cases outcome with
  | unreadable failure unread =>
      obtain rfl := Except.error.inj failed
      rw [if_pos unread]
      rfl
  | unnamed text read unnamed =>
      obtain rfl := Except.error.inj failed
      rw [read, if_neg nofun]
      rfl
  | parsed text format read named =>
      rw [read, if_neg nofun]
      refine Checked.FailsAs.bind failsAs_parse (fun s => ?_) f failed
      exact (failsAs_validate s).bind fun _ => Checked.failsAs_ok s

theorem load_of_text {ending : String} (named : stem ≠ "") (plain : '.' ∉ ending.toList)
    (known : formatOfEnding? ending = some format)
    (parsed : readers.settings? text format = some s) (valid : s.validate = .ok ()) :
    load readers (stem ++ "." ++ ending) (some text.toUTF8) = .ok s := by
  refine load_eq_ok.2 ⟨text, format, fromUTF8?_toUTF8 text, ?_, parsed, valid⟩
  rw [formatOf?, ending?_append named plain, Option.bind_some, known]

theorem isUnambiguous_of_nodup {entries : Fields} (distinct : (entries.map Prod.fst).Nodup) :
    isUnambiguous entries = true := by
  have once (key : String) : (entries.filter (·.1 == key)).length ≤ 1 := by
    have counted := List.nodup_iff_count_le_one.1 distinct key
    rwa [List.count, List.countP_map, List.countP_eq_length_filter] at counted
  simp [isUnambiguous, once]

theorem ofJson?_of_allows {j : Json} (allowed : (outline s).Allows j) : ofJson? j = some s := by
  have decoded : (decode j : Decoded Settings) = .ok s := decode_of_allows allowed
  have distinct := RecordCodec.nodup_outlined s
  obtain ⟨entries, rfl, _⟩ := Outline.shows_of_allows distinct allowed
  have clear := isUnambiguous_of_nodup (Outline.nodup_of_allows distinct allowed)
  simp only [ofJson?, clear, decoded]
  rfl

/-- Valid settings are loaded from a file that holds any document of theirs. -/
theorem load_of_json {j : Json} (named : stem ≠ "") (read : readers.json? text = some j)
    (allowed : (outline s).Allows j) (valid : s.validate = .ok ()) :
    load readers (stem ++ "." ++ "json") (some text.toUTF8) = .ok s := by
  refine load_of_text named (by decide) rfl ?_ valid
  rw [Readers.settings?, read, Option.bind_some, ofJson?_of_allows allowed]

inductive TellsInstant : Option Toml → Option Nat → Prop where
  | missing : TellsInstant none none
  | integer (t : Nat) : TellsInstant (some (.integer t)) (some t)
  | numeral (t : Nat) : TellsInstant (some (.text (Text.decimal t))) (some t)

inductive TellsPolicy : Option Toml → UnhandledPolicy → Prop where
  | missing : TellsPolicy none .requirePermitted
  | name (p : UnhandledPolicy) : TellsPolicy (some (.text p.name)) p

theorem TellsInstant.read {value : Option Toml} {instant : Option Nat}
    (told : TellsInstant value instant) :
    settingOfToml? (fun v => (timeOfToml? v).map some) none value = some instant := by
  cases told with
  | missing => rfl
  | integer t => rfl
  | numeral t => simp [settingOfToml?, timeOfToml?]

theorem TellsPolicy.read {value : Option Toml} {policy : UnhandledPolicy}
    (told : TellsPolicy value policy) :
    settingOfToml? policyOfToml? .requirePermitted value = some policy := by
  cases told with
  | missing => rfl
  | name => exact policy.ofName?_name

theorem load_of_toml {entries : Toml.Entries} (named : stem ≠ "")
    (read : readers.toml? text = some entries)
    (instant : TellsInstant (entries.lookup timeKey) s.evaluationTime)
    (policy : TellsPolicy (entries.lookup policyKey) s.unhandled) (valid : s.validate = .ok ()) :
    load readers (stem ++ "." ++ "toml") (some text.toUTF8) = .ok s := by
  refine load_of_text named (by decide) rfl ?_ valid
  simp only [Readers.settings?, read, Option.bind_some, ofToml?, instant.read, policy.read]
  rfl

example :
    load .standard "engine.toml" (some "evaluation_time = 42\n".toUTF8) = .ok (atTime 42) := by
  decide +kernel

example :
    load .standard "engine.json" (some "\x7b\"evaluation_time\": \"42\"\x7d".toUTF8) =
      .ok (atTime 42) := by
  decide +kernel

end BadgeRights.Settings
