import BadgeRights.Proofs.Checked
import BadgeRights.Proofs.Reserved

set_option autoImplicit false

namespace BadgeRights.ListStore

open Reserved

inductive Call where
  | insert (l : AddressList)
  | replace (lists : List AddressList)

def perform (store : ListStore) (call : Call) : ListStore :=
  let attempt := match call with
    | .insert l => store.insert l
    | .replace lists => ofList lists
  match attempt with
  | .ok next => next
  | .error _ => store

def after (calls : List Call) : ListStore := calls.foldl perform {}

variable {store next : ListStore} {id inner : String} {l : AddressList}

section Sound

def Sound (store : ListStore) : Prop :=
  ∀ l ∈ store.lists, l.listId ≠ "" ∧ isTaken l.listId = false

theorem insert_eq_ok : store.insert l = .ok next ↔
    (l.listId ≠ "" ∧ isTaken l.listId = false) ∧ next = ⟨l :: store.lists⟩ := by
  unfold insert
  split
  · rename_i empty
    simp [empty]
  · split
    · rename_i taken
      simp [taken]
    · rename_i named free
      simp [named, free, eq_comm]

theorem Sound.insert (sound : store.Sound) (h : store.insert l = .ok next) : next.Sound := by
  obtain ⟨admitted, rfl⟩ := insert_eq_ok.1 h
  exact List.forall_mem_cons.2 ⟨admitted, sound⟩

theorem Sound.foldlM (sound : store.Sound) {lists : List AddressList}
    (h : lists.foldlM ListStore.insert store = .ok next) : next.Sound := by
  induction lists generalizing store with
  | nil =>
      obtain rfl := Checked.pure_eq_ok.1 h
      exact sound
  | cons l rest ih =>
      rw [List.foldlM_cons] at h
      obtain ⟨grown, inserted, h⟩ := Checked.bind_eq_ok.1 h
      exact ih (sound.insert inserted) h

theorem sound_empty : ({} : ListStore).Sound := nofun

theorem Sound.perform (sound : store.Sound) (call : Call) : (store.perform call).Sound := by
  unfold ListStore.perform
  dsimp only
  split
  · rename_i next done
    cases call with
    | insert l => exact sound.insert done
    | replace lists => exact sound_empty.foldlM done
  · exact sound

theorem sound_after (calls : List Call) : (after calls).Sound := by
  have general (store : ListStore) (sound : store.Sound) :
      (calls.foldl ListStore.perform store).Sound := by
    induction calls generalizing store with
    | nil => exact sound
    | cons call rest ih => exact ih (store.perform call) (sound.perform call)
  exact general {} sound_empty

theorem Sound.get?_of_isTaken (sound : store.Sound) (taken : isTaken id = true) :
    store.get? id = none := by
  rw [get?, List.find?_eq_none]
  intro l hl same
  have free := (sound l hl).2
  rw [beq_iff_eq.1 same, taken] at free
  cases free

end Sound

section Negation

def known? (store : ListStore) (id : String) : Option AddressList :=
  (list? id).or (store.get? id)

theorem isTaken_of_negated? (h : negated? id = some inner) : isTaken id = true := by
  unfold negated? at h
  split at h
  · rename_i same
    simp [isTaken, same]
  · cases h

theorem resolve_of_known? (h : store.known? id = some l) : store.resolve id = .ok l := by
  unfold resolve
  rcases Option.or_eq_some_iff.1 h with reserved | ⟨free, stored⟩
  · rw [reserved]
  · rw [free, stored]

theorem Sound.resolve_of_negated? (sound : store.Sound) (h : negated? id = some inner) :
    store.resolve id = match store.known? inner with
      | some l => .ok (l.inverted.withId id)
      | none => refuse (.unknownList id) := by
  -- No stored id begins like a negation, so that only the negation itself is left to answer.
  unfold resolve known?
  rw [list?_of_negated? h, sound.get?_of_isTaken (isTaken_of_negated? h), h]
  cases list? inner with
  | some l => rfl
  | none => rfl

-- An id that has an answer without being known is a negation.
theorem exists_negated?_of_resolve (h : store.resolve id = .ok l) (unknown : store.known? id = none) :
    ∃ inner, negated? id = some inner := by
  obtain ⟨free, unstored⟩ := Option.or_eq_none_iff.1 unknown
  unfold resolve at h
  rw [free, unstored] at h
  cases negation : negated? id with
  | some inner => exact ⟨inner, rfl⟩
  | none => simp [negation] at h

theorem ne_group_of_negated? (h : negated? id = some inner) : ∀ name, id ≠ "(" ++ name ++ ")" := by
  rintro name rfl
  simp [negated?] at h

theorem negated?_bang_of_ne (h : ∀ inner, id ≠ "(" ++ inner ++ ")") :
    negated? ("!" ++ id) = some id := by
  refine negated?_bang ?_
  rcases unwrap_cases id.toList with plain | group
  · exact plain
  · exact absurd (String.toList_inj.1 (group.trans (by simp))) (h (String.ofList (unwrap id.toList)))

def Opposes (store : ListStore) (id : String) (l : AddressList) : Prop :=
  ∃ m, store.resolve id = .ok m ∧ ∀ a, m.contains a = !l.contains a

theorem Sound.opposes (sound : store.Sound) (h : negated? id = some inner)
    (known : store.known? inner = some l) : store.Opposes id l := by
  refine ⟨l.inverted.withId id, ?_, l.contains_inverted⟩
  rw [sound.resolve_of_negated? h, known]

theorem Sound.refuses (sound : store.Sound) (h : negated? id = some inner)
    (unknown : store.known? inner = none) : store.resolve id = refuse (.unknownList id) := by
  rw [sound.resolve_of_negated? h, unknown]

theorem Sound.opposes_of_reserved (sound : store.Sound) (h : list? id = some l) :
    ∀ negation ∈ ["!" ++ id, "!(" ++ id ++ ")"],
      (list? negation).isSome = true ∧ store.Opposes negation l := by
  have known : store.known? id = some l := by simp [known?, h]
  obtain ⟨r, rfl⟩ := list?_isSome_iff.1 (Option.isSome_of_mem h)
  simp only [List.forall_mem_cons]
  refine ⟨⟨?_, ?_⟩, ⟨?_, ?_⟩, nofun⟩
  · exact list?_isSome_iff.2 ⟨.negated r, rfl⟩
  · exact sound.opposes (negated?_bang (unwrap_text r)) known
  · exact list?_isSome_iff.2 ⟨.negatedGroup r, rfl⟩
  · exact sound.opposes (negated?_group r.text) known

/-- The negations of an id that has an answer. Reserved and stored ids have both, with the opposite
members, except that a stored id in parentheses is taken for what the parentheses hold; an id that is
itself the negation of a stored list has none. Negations of reserved ids are reserved, and so they have
negations in turn. -/
theorem negation_reaches_known_ids (calls : List Call) (h : (after calls).resolve id = .ok l) :
    let store := after calls
    ((store.known? id).isSome = true → store.Opposes ("!(" ++ id ++ ")") l ∧
        ((∀ inner, id ≠ "(" ++ inner ++ ")") → store.Opposes ("!" ++ id) l)) ∧
      ((store.known? id).isSome = false → ∀ negation ∈ ["!" ++ id, "!(" ++ id ++ ")"],
        store.resolve negation = refuse (.unknownList negation)) ∧
      (∀ inner, id = "(" ++ inner ++ ")" →
        (∀ m, store.known? inner = some m → store.Opposes ("!" ++ id) m) ∧
          (store.known? inner = none →
            store.resolve ("!" ++ id) = refuse (.unknownList ("!" ++ id)))) ∧
      ((list? id).isSome = true → ∀ negation ∈ ["!" ++ id, "!(" ++ id ++ ")"],
        (list? negation).isSome = true ∧ store.Opposes negation l) := by
  intro store
  have sound : store.Sound := sound_after calls
  have known {m : AddressList} (given : store.known? id = some m) : m = l :=
    Except.ok.inj ((resolve_of_known? given).symm.trans h)
  refine ⟨?_, ?_, ?_, ?_⟩
  · intro given
    obtain ⟨m, given⟩ := Option.isSome_iff_exists.1 given
    obtain rfl := known given
    exact ⟨sound.opposes (negated?_group id) given,
      fun plain => sound.opposes (negated?_bang_of_ne plain) given⟩
  · intro unknown
    rw [Option.isSome_eq_false_iff, Option.isNone_iff_eq_none] at unknown
    -- The id is a negation, which begins with no parenthesis.
    obtain ⟨inner, negation⟩ := exists_negated?_of_resolve h unknown
    have plain := ne_group_of_negated? negation
    simp only [List.forall_mem_cons]
    exact ⟨sound.refuses (negated?_bang_of_ne plain) unknown,
      sound.refuses (negated?_group id) unknown, nofun⟩
  · rintro inner rfl
    have group : "!" ++ ("(" ++ inner ++ ")") = "!(" ++ inner ++ ")" := by
      rw [← String.toList_inj]
      simp
    rw [group]
    exact ⟨fun m => sound.opposes (negated?_group inner), sound.refuses (negated?_group inner)⟩
  · intro reserved
    obtain ⟨m, reserved⟩ := Option.isSome_iff_exists.1 reserved
    obtain rfl := known (Option.or_eq_some_iff.2 (.inl reserved))
    exact sound.opposes_of_reserved reserved

section Friends

def friends : AddressList :=
  .withId (.only ["0x1111111111111111111111111111111111111111"]) "friends"

def club : AddressList := .withId (.allBut [Address.mint]) "(club)"

-- The insertion fails, for a list may not be stored under a reserved id.
def friendly : List Call := [.replace [friends, club], .insert (friends.withId "!Mint")]

theorem friends_negated_once :
    let store := after friendly
    store.resolve "friends" = .ok friends ∧ store.Opposes "!friends" friends ∧
      store.Opposes "!(friends)" friends ∧ store.Opposes "!((club))" club ∧
      store.resolve "!(!friends)" = refuse (.unknownList "!(!friends)") := by
  intro store
  have stored : store.resolve "friends" = .ok friends := by decide +kernel
  have storedClub : store.resolve "(club)" = .ok club := by decide +kernel
  have negated : store.resolve "!friends" = .ok (friends.inverted.withId "!friends") := by
    decide +kernel
  obtain ⟨opposite, _⟩ := negation_reaches_known_ids friendly stored
  obtain ⟨oppositeClub, _⟩ := negation_reaches_known_ids friendly storedClub
  obtain ⟨_, refused, _⟩ := negation_reaches_known_ids friendly negated
  obtain ⟨grouped, bare⟩ := opposite (by decide +kernel)
  have plain : ∀ inner, "friends" ≠ "(" ++ inner ++ ")" := by
    intro inner same
    simpa using congrArg String.toList same
  refine ⟨stored, bare plain, grouped, (oppositeClub (by decide +kernel)).1, ?_⟩
  exact refused (by decide +kernel) _ (by decide)

theorem friends_not_negated_twice :
    let store := after friendly
    (∃ l, store.resolve "!friends" = .ok l ∧ ¬store.Opposes "!!friends" l) ∧
      ∃ l, store.resolve "(club)" = .ok l ∧ ¬store.Opposes "!(club)" l := by
  intro store
  have sound : store.Sound := sound_after friendly
  have unknown : store.known? "!friends" = none ∧ store.known? "club" = none := by decide +kernel
  refine ⟨⟨friends.inverted.withId "!friends", by decide +kernel, ?_⟩, ⟨club, by decide +kernel, ?_⟩⟩
  · rintro ⟨m, answered, _⟩
    have refused := sound.refuses (by decide : negated? "!!friends" = some "!friends") unknown.1
    exact Checked.refuse_ne_ok (refused.symm.trans answered)
  · rintro ⟨m, answered, _⟩
    have refused := sound.refuses (by decide : negated? "!(club)" = some "club") unknown.2
    exact Checked.refuse_ne_ok (refused.symm.trans answered)

end Friends

end Negation

end BadgeRights.ListStore
