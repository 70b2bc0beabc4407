import BadgeRights.Settings
import BadgeRights.Proofs.Checked

set_option autoImplicit false

namespace BadgeRights.Settings

abbrev Lookup := String → Option String

section Variables

variable {α : Type}

def Readable (read : String → Option α) (set : Option String) : Prop :=
  ∀ text ∈ set, (read text).isSome = true

instance (read : String → Option α) (set : Option String) : Decidable (Readable read set) :=
  inferInstanceAs (Decidable (∀ text ∈ set, _))

theorem readable_cases {read : String → Option α} {set : Option String} (h : Readable read set) :
    set = none ∨ ∃ text a, set = some text ∧ read text = some a := by
  cases set with
  | none => exact .inl rfl
  | some text =>
      obtain ⟨a, reads⟩ := Option.isSome_iff_exists.1 (h text rfl)
      exact .inr ⟨text, a, rfl, reads⟩

theorem not_readable {read : String → Option α} {set : Option String} (h : ¬Readable read set) :
    ∃ text, set = some text ∧ read text = none := by
  cases set with
  | none => exact absurd nofun h
  | some text => exact ⟨text, rfl, by simpa [Readable] using h⟩

end Variables

def policyOf? (text : String) : Option UnhandledPolicy :=
  UnhandledPolicy.ofName? (Text.trim text)

def ReadsInstant (lookup : Lookup) : Prop := Readable Text.numeral? (lookup timeVariable)

def ReadsPolicy (lookup : Lookup) : Prop := Readable policyOf? (lookup policyVariable)

instance (lookup : Lookup) : Decidable (ReadsInstant lookup) :=
  inferInstanceAs (Decidable (Readable _ _))

instance (lookup : Lookup) : Decidable (ReadsPolicy lookup) :=
  inferInstanceAs (Decidable (Readable _ _))

def instant? (lookup : Lookup) : Option Nat := (lookup timeVariable).bind Text.numeral?

def policy? (lookup : Lookup) : Option UnhandledPolicy := (lookup policyVariable).bind policyOf?

/-- The policy that is assigned, which is not read where the instant cannot be. -/
def assignedPolicy? (lookup : Lookup) : Option UnhandledPolicy :=
  if ReadsInstant lookup then policy? lookup else none

def assign (s : Settings) (instant : Option Nat) (policy : Option UnhandledPolicy) : Settings :=
  ⟨instant.or s.evaluationTime, policy.getD s.unhandled⟩

def afterOverrides (s : Settings) (lookups : List Lookup) : Settings :=
  lookups.foldl (fun s lookup => (s.override lookup).1) s

variable {s : Settings} {lookup : Lookup}

theorem validate_eq_ok : s.validate = .ok () ↔ ∀ t ∈ s.evaluationTime, t ∈ Span.full := by
  unfold validate
  cases s.evaluationTime with
  | none => simp
  | some t =>
      by_cases inside : 1 ≤ t ∧ t ≤ maxValue <;>
        simp [inside, Span.full]

inductive Overridden (s : Settings) (lookup : Lookup) : Settings × Checked Unit → Prop where
  | unreadInstant (text : String) (unread : ¬ReadsInstant lookup) :
      Overridden s lookup (s, refuse (.timeVariable text))
  | unreadPolicy (text : String) (instant : ReadsInstant lookup) (unread : ¬ReadsPolicy lookup) :
      Overridden s lookup (s.assign (instant? lookup) none, refuse (.unknownPolicy text))
  | validated (instant : ReadsInstant lookup) (policy : ReadsPolicy lookup) :
      Overridden s lookup (s.assign (instant? lookup) (policy? lookup),
        (s.assign (instant? lookup) (policy? lookup)).validate)

theorem withTime_of_readsInstant (reads : ReadsInstant lookup) :
    s.withTime (lookup timeVariable) = .ok (s.assign (instant? lookup) none) := by
  unfold instant?
  rcases readable_cases reads with unset | ⟨text, t, set, numeral⟩
  · rw [unset]
    rfl
  · simp [withTime, assign, set, numeral]

theorem withPolicy_of_readsPolicy (reads : ReadsPolicy lookup) (instant : Option Nat) :
    (s.assign instant none).withPolicy (lookup policyVariable) =
      .ok (s.assign instant (policy? lookup)) := by
  unfold policy?
  rcases readable_cases reads with unset | ⟨text, policy, set, name⟩
  · rw [unset]
    rfl
  · rw [policyOf?] at name
    simp only [withPolicy, UnhandledPolicy.read, set, name, Option.bind_some, policyOf?]
    rfl

theorem overridden (s : Settings) (lookup : Lookup) : Overridden s lookup (s.override lookup) := by
  unfold override
  by_cases instant : ReadsInstant lookup
  · rw [withTime_of_readsInstant instant]
    dsimp only
    by_cases policy : ReadsPolicy lookup
    · rw [withPolicy_of_readsPolicy policy]
      exact .validated instant policy
    · obtain ⟨text, set, unknown⟩ := not_readable policy
      rw [policyOf?] at unknown
      simp only [withPolicy, UnhandledPolicy.read, set, unknown]
      exact .unreadPolicy (Text.trim text) instant policy
  · obtain ⟨text, set, unread⟩ := not_readable instant
    simp only [withTime, set, unread]
    exact .unreadInstant text instant

theorem evaluationTime_override (s : Settings) (lookup : Lookup) :
    (s.override lookup).1.evaluationTime = (instant? lookup).or s.evaluationTime := by
  have outcome := overridden s lookup
  generalize s.override lookup = merged at outcome ⊢
  cases outcome with
  | unreadInstant text unread =>
      obtain ⟨text, set, unread⟩ := not_readable unread
      simp [instant?, set, unread]
  | unreadPolicy text instant unread => rfl
  | validated instant policy => rfl

theorem unhandled_override (s : Settings) (lookup : Lookup) :
    (s.override lookup).1.unhandled = (assignedPolicy? lookup).getD s.unhandled := by
  have outcome := overridden s lookup
  generalize s.override lookup = merged at outcome ⊢
  unfold assignedPolicy?
  cases outcome with
  | unreadInstant text unread => rw [if_neg unread, Option.getD_none]
  | unreadPolicy text instant unread =>
      obtain ⟨text, set, unknown⟩ := not_readable unread
      simp [instant, policy?, assign, set, unknown]
  | validated instant policy =>
      rw [if_pos instant]
      rfl

-- Of several writes to a part of a state the last one counts.
theorem part_foldl {σ α β : Type} {part : σ → Option β} {step : σ → α → σ} {write : α → Option β}
    (writes : ∀ s x, part (step s x) = (write x).or (part s)) (s : σ) (xs : List α) :
    part (xs.foldl step s) = (xs.filterMap write).getLast?.or (part s) := by
  induction xs generalizing s with
  | nil => rfl
  | cons x rest ih =>
      rw [List.foldl_cons, ih, writes]
      cases written : write x with
      | none => simp [written]
      | some b =>
          cases later : (rest.filterMap write).getLast? <;>
            simp [written, later, List.getLast?_cons]

theorem evaluationTime_afterOverrides (s : Settings) (lookups : List Lookup) :
    (s.afterOverrides lookups).evaluationTime =
      (lookups.filterMap instant?).getLast?.or s.evaluationTime :=
  part_foldl evaluationTime_override s lookups

theorem unhandled_afterOverrides (s : Settings) (lookups : List Lookup) :
    (s.afterOverrides lookups).unhandled =
      (lookups.filterMap assignedPolicy?).getLast?.getD s.unhandled := by
  have writes : ∀ (s : Settings) (lookup : Lookup),
      some (s.override lookup).1.unhandled = (assignedPolicy? lookup).or (some s.unhandled) := by
    intro s lookup
    rw [unhandled_override, Option.or_some]
  have last : some (s.afterOverrides lookups).unhandled =
      (lookups.filterMap assignedPolicy?).getLast?.or (some s.unhandled) :=
    @part_foldl _ _ _ (fun s => some s.unhandled) _ _ writes s lookups
  rw [Option.or_some] at last
  exact Option.some.inj last

-- The instant decides alone, as every policy is valid.
theorem validate_assign (valid : s.validate = .ok ()) (instant : Option Nat)
    (policy : Option UnhandledPolicy) :
    (s.assign instant policy).validate = .ok () ↔ ∀ t ∈ instant, t ∈ Span.full := by
  rw [validate_eq_ok] at valid ⊢
  cases instant with
  | none => simpa [assign] using valid
  | some t => simp [assign]

theorem validate_afterOverrides (valid : s.validate = .ok ()) (lookups : List Lookup) :
    (s.afterOverrides lookups).validate = .ok () ↔
      ∀ t ∈ (lookups.filterMap instant?).getLast?, t ∈ Span.full := by
  rw [← validate_assign valid _ none, validate_eq_ok, validate_eq_ok,
    evaluationTime_afterOverrides]
  rfl

/-- Overriding valid settings. Where it succeeds, the outcome holds what was read and is valid. Where
it fails, the outcome holds what had been read in front of the fault: nothing if the instant could not
be read, the instant alone if the policy could not, and both if it was the instant's bounds that
failed. After a run, whatever its single overridings answered, the instant is the last one that was
read and the policy the last one that was assigned; the settings are valid again exactly if that
instant lies within the bounds or none was read. -/
theorem overriding_keeps_what_was_read (valid : s.validate = .ok ()) :
    (∀ lookup : Lookup,
      ((s.override lookup).2 = .ok () →
        ReadsInstant lookup ∧ ReadsPolicy lookup ∧
          (s.override lookup).1 = s.assign (instant? lookup) (policy? lookup) ∧
          (s.override lookup).1.validate = .ok ()) ∧
      (∀ fault, (s.override lookup).2 = .error fault →
        (¬ReadsInstant lookup ∧ (s.override lookup).1 = s) ∨
        (ReadsInstant lookup ∧ ¬ReadsPolicy lookup ∧
          (s.override lookup).1 = s.assign (instant? lookup) none) ∨
        (ReadsInstant lookup ∧ ReadsPolicy lookup ∧
          (s.override lookup).1 = s.assign (instant? lookup) (policy? lookup) ∧
          ∃ t, instant? lookup = some t ∧ t ∉ Span.full))) ∧
    ∀ lookups : List Lookup,
      (s.afterOverrides lookups).evaluationTime =
        (lookups.filterMap instant?).getLast?.or s.evaluationTime ∧
      (s.afterOverrides lookups).unhandled =
        (lookups.filterMap assignedPolicy?).getLast?.getD s.unhandled ∧
      ((s.afterOverrides lookups).validate = .ok () ↔
        ∀ t ∈ (lookups.filterMap instant?).getLast?, t ∈ Span.full) := by
  refine ⟨fun lookup => ?_, fun lookups => ⟨evaluationTime_afterOverrides s lookups,
    unhandled_afterOverrides s lookups, validate_afterOverrides valid lookups⟩⟩
  have outcome := overridden s lookup
  generalize s.override lookup = merged at outcome ⊢
  cases outcome with
  | unreadInstant text unread =>
      exact ⟨fun ok => absurd ok Checked.refuse_ne_ok, fun _ _ => .inl ⟨unread, rfl⟩⟩
  | unreadPolicy text instant unread =>
      exact ⟨fun ok => absurd ok Checked.refuse_ne_ok,
        fun _ _ => .inr (.inl ⟨instant, unread, rfl⟩)⟩
  | validated instant policy =>
      refine ⟨fun ok => ⟨instant, policy, rfl, ok⟩,
        fun fault failed => .inr (.inr ⟨instant, policy, rfl, ?_⟩)⟩
      by_contra inside
      have kept : (s.assign (instant? lookup) (policy? lookup)).validate = .ok () :=
        (validate_assign valid _ _).2 (by simpa using inside)
      simp [kept] at failed

def environment (instant policy : Option String) : Lookup
  | "BADGES_EVALUATION_TIME" => instant
  | "BADGES_UNHANDLED_REGIONS" => policy
  | _ => none

theorem pinned_then_overridden :
    (atTime 1000).validate = .ok () ∧
      ((atTime 1000).override (environment (some " 5 ") (some "neutral"))).1 =
        { evaluationTime := some 5, unhandled := .neutral } ∧
      ((atTime 1000).afterOverrides
        [environment (some "5") none, environment (some "now") (some "neutral")]).validate =
          .ok () := by
  have valid : (atTime 1000).validate = .ok () := rfl
  obtain ⟨single, run⟩ := overriding_keeps_what_was_read valid
  have assigned := ((single (environment (some " 5 ") (some "neutral"))).1 (by decide +kernel)).2.2.1
  exact ⟨valid, assigned.trans (by decide +kernel), (run _).2.2.2 (by decide +kernel)⟩

theorem refused_overriding_moves_instant :
    (atTime 1000).validate = .ok () ∧ atTime 5 ≠ atTime 1000 ∧
      (atTime 1000).override (environment (some "5") (some "sometimes")) =
        (atTime 5, refuse (.unknownPolicy "sometimes")) ∧
      (atTime 1000).override (environment (some "0") none) =
        (atTime 0, refuse (.instantOutside 0)) ∧
      (atTime 0).validate ≠ .ok () := by
  refine ⟨rfl, ?_, ?_, ?_, ?_⟩ <;> decide +kernel

end BadgeRights.Settings
