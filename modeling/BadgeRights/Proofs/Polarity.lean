import BadgeRights.Proofs.Region

set_option autoImplicit false

namespace BadgeRights.AddressList

theorem isEmpty_iff (l : AddressList) : l.isEmpty = true ↔ ∀ a, ¬a ∈ l := by
  rw [← not_exists, exists_mem_iff, Bool.not_eq_false]

theorem isUniversal_iff (l : AddressList) : l.isUniversal = true ↔ ∀ a, a ∈ l := by
  have opposite : l.isUniversal = l.inverted.isEmpty := by
    cases polarity : l.whitelist <;> simp [isUniversal, isEmpty, inverted, polarity]
  simp [opposite, isEmpty_iff]

theorem sameMembers_iff (l m : AddressList) : l.sameMembers m = true ↔ ∀ a, a ∈ l ↔ a ∈ m := by
  constructor
  · exact mem_of_sameMembers l m
  · intro same
    -- A text that neither list names is a member of the one that names what it leaves out.
    obtain ⟨a, unnamed⟩ := exists_notMem (l.addresses ++ m.addresses)
    have polarity := same a
    simp only [List.mem_append, not_or] at unnamed
    cases hl : l.whitelist <;> cases hm : m.whitelist <;>
      simp_all [sameMembers, mem_def, not_iff_not]

section Cut

variable {value handled : AddressList}

theorem mem_shared {s : AddressList} (h : s ∈ (value.cut handled).shared) (a : String) :
    a ∈ s ↔ a ∈ value ∧ a ∈ handled := by
  rw [← (cut_exactAt value handled a).2]
  simp [Option.mem_def.1 h]

theorem mem_outside {piece : AddressList} (h : piece ∈ (value.cut handled).outside) (a : String) :
    a ∈ piece ↔ a ∈ value ∧ ¬a ∈ handled := by
  rw [(mem_cut_outside.1 h).2, mem_subtract_left]

theorem shared_isSome_iff :
    (value.cut handled).shared.isSome = true ↔ ∃ a, a ∈ value ∧ a ∈ handled := by
  constructor
  · intro given
    obtain ⟨s, hs⟩ := Option.isSome_iff_exists.1 given
    obtain ⟨a, ha⟩ := inhabited_of_mem_shared value handled s hs
    exact ⟨a, (mem_shared hs a).1 ha⟩
  · intro common
    rcases common with ⟨a, ha⟩
    obtain ⟨s, hs, _⟩ := (cut_exactAt value handled a).2.2 ha
    exact Option.isSome_of_mem hs

theorem outside_ne_nil_iff :
    (value.cut handled).outside ≠ [] ↔ ∃ a, a ∈ value ∧ ¬a ∈ handled := by
  constructor
  · intro given
    obtain ⟨piece, hpiece⟩ := List.exists_mem_of_ne_nil _ given
    obtain ⟨a, ha⟩ := inhabited_of_mem_outside value handled piece hpiece
    exact ⟨a, (mem_outside hpiece a).1 ha⟩
  · intro left
    rcases left with ⟨a, ha⟩
    obtain ⟨piece, hpiece, _⟩ := (cut_exactAt value handled a).1.2 ha
    exact List.ne_nil_of_mem hpiece

-- Where nothing is cut off, the list stays as it is, under its own id.
theorem shared_eq_of_outside_eq_nil (whole : (value.cut handled).outside = []) :
    ∀ s ∈ (value.cut handled).shared, s = value := by
  have inside : ∀ a, a ∈ value → a ∈ handled := by
    intro a ha
    by_contra outside
    exact outside_ne_nil_iff.2 ⟨a, ha, outside⟩ whole
  have same : (value.subtract handled).2.sameMembers value = true := by
    rw [sameMembers_iff]
    intro a
    rw [mem_subtract_right]
    exact ⟨And.left, fun ha => ⟨ha, inside a ha⟩⟩
  intro s hs
  have kept := (mem_cut_shared.1 hs).2
  rwa [if_pos same] at kept

end Cut

/-- Whatever the polarities of two lists, subtraction leaves the members that the other list lacks and
removes those that both have. A list is empty or universal as it has no member or all. So a cut has a
shared part and a rest just where these have members, and both have exactly their members, also where
nothing is cut off and the list stays as it is. -/
theorem subtraction_respects_polarity (value handled : AddressList) :
    (∀ a, (value.subtract handled).1.contains a = (value.contains a && !handled.contains a) ∧
        (value.subtract handled).2.contains a = (value.contains a && handled.contains a)) ∧
      (∀ l : AddressList, (l.isEmpty = true ↔ ∀ a, l.contains a = false) ∧
        (l.isUniversal = true ↔ ∀ a, l.contains a = true)) ∧
      ((value.cut handled).shared.isSome = true ↔
        ∃ a, value.contains a = true ∧ handled.contains a = true) ∧
      ((value.cut handled).outside ≠ [] ↔
        ∃ a, value.contains a = true ∧ handled.contains a = false) ∧
      (∀ s ∈ (value.cut handled).shared, ∀ a,
        s.contains a = (value.contains a && handled.contains a)) ∧
      (∀ piece ∈ (value.cut handled).outside, ∀ a,
        piece.contains a = (value.contains a && !handled.contains a)) ∧
      (value.cut handled).outside.length ≤ 1 ∧
      ((value.cut handled).outside = [] → ∀ s ∈ (value.cut handled).shared, s = value) := by
  have left (l : AddressList) (h : ∀ a, a ∈ l ↔ a ∈ value ∧ ¬a ∈ handled) (a : String) :
      l.contains a = (value.contains a && !handled.contains a) := by
    rw [Bool.eq_iff_iff]
    simpa [← Bool.not_eq_true] using h a
  have common (l : AddressList) (h : ∀ a, a ∈ l ↔ a ∈ value ∧ a ∈ handled) (a : String) :
      l.contains a = (value.contains a && handled.contains a) := by
    rw [Bool.eq_iff_iff]
    simpa using h a
  refine ⟨?_, ?_, ?_, ?_, ?_, ?_, ?_, shared_eq_of_outside_eq_nil⟩
  · intro a
    exact ⟨left _ (mem_subtract_left value handled) a, common _ (mem_subtract_right value handled) a⟩
  · intro l
    simp only [← Bool.not_eq_true, contains_eq_true]
    exact ⟨isEmpty_iff l, isUniversal_iff l⟩
  · simpa only [contains_eq_true] using shared_isSome_iff
  · simpa only [← Bool.not_eq_true, contains_eq_true] using outside_ne_nil_iff
  · intro s hs
    exact common s (mem_shared hs)
  · intro piece hpiece
    exact left piece (mem_outside hpiece)
  · simp only [cut]
    split <;> simp

-- Lists that leave addresses out always meet, and what one leaves out and the other does not is left.
example : cut (allBut ["a", "a"]) (allBut ["b"]) = ⟨[only ["b"]], some (allBut ["a", "a", "b"])⟩ := by
  decide

end BadgeRights.AddressList
