import BadgeRights.Proofs.ListStore

set_option autoImplicit false

namespace BadgeRights.ListStore

open Reserved

def added (store : ListStore) : List AddressList → List AddressList
  | [] => []
  | l :: rest =>
      match store.insert l with
      | .ok next => l :: added next rest
      | .error _ => added store rest

def afterInserts (inserts : List AddressList) : ListStore := after (inserts.map .insert)

def lastAdded? (inserts : List AddressList) (id : String) : Option AddressList :=
  ((added {} inserts).filter fun l => l.listId == id).getLast?

variable {store : ListStore} {inserts : List AddressList} {id : String} {l : AddressList}

theorem exists_insert_iff :
    (∃ next, store.insert l = .ok next) ↔ l.listId ≠ "" ∧ isTaken l.listId = false := by
  simp only [insert_eq_ok, exists_and_left, exists_eq, and_true]

theorem exists_insert_congr (store other : ListStore) (l : AddressList) :
    (∃ next, store.insert l = .ok next) ↔ ∃ next, other.insert l = .ok next :=
  exists_insert_iff.trans exists_insert_iff.symm

theorem perform_of_insert {next : ListStore} (h : store.insert l = .ok next) :
    store.perform (.insert l) = next := by
  simp only [perform, h]

theorem perform_of_refused (h : ∀ next, store.insert l ≠ .ok next) :
    store.perform (.insert l) = store := by
  cases attempt : store.insert l with
  | ok next => exact absurd attempt (h next)
  | error fault => simp only [perform, attempt]

theorem lists_foldl_perform (store : ListStore) (inserts : List AddressList) :
    ((inserts.map Call.insert).foldl perform store).lists =
      (added store inserts).reverse ++ store.lists := by
  induction inserts generalizing store with
  | nil => rfl
  | cons l rest ih =>
      rw [List.map_cons, List.foldl_cons, ih]
      cases attempt : store.insert l with
      | ok next =>
          obtain ⟨_, rfl⟩ := insert_eq_ok.1 attempt
          simp [added, attempt, perform_of_insert attempt]
      | error fault =>
          have refused : ∀ next, store.insert l ≠ .ok next := by simp [attempt]
          simp [added, attempt, perform_of_refused refused]

theorem get?_afterInserts (inserts : List AddressList) (id : String) :
    (afterInserts inserts).get? id = lastAdded? inserts id := by
  have newest : (afterInserts inserts).lists = (added {} inserts).reverse :=
    (lists_foldl_perform {} inserts).trans (List.append_nil _)
  rw [get?, newest, lastAdded?, List.getLast?_eq_head?_reverse, ← List.filter_reverse,
    List.head?_filter]

-- Only a negation is looked up under another id than its own.
theorem resolve_of_plain (free : list? id = none) (plain : id.toList.head? ≠ some '!') :
    store.resolve id = match store.get? id with
      | some l => .ok l
      | none => refuse (.unknownList id) := by
  have noNegation : negated? id = none := by
    cases negation : negated? id with
    | none => rfl
    | some inner =>
        obtain ⟨rest, same⟩ : ∃ rest, id.toList = '!' :: rest := by
          unfold negated? at negation
          split at negation
          · exact ⟨_, by assumption⟩
          · cases negation
        exact absurd (by rw [same, List.head?_cons]) plain
  unfold resolve
  rw [free, noNegation]
  rfl

theorem afterInserts_of_refused {before rest : List AddressList}
    (refused : ∀ next, (afterInserts before).insert l ≠ .ok next) :
    afterInserts (before ++ l :: rest) = afterInserts (before ++ rest) := by
  simp only [afterInserts, after, List.map_append, List.map_cons, List.foldl_append,
    List.foldl_cons]
  exact congrArg (fun store => List.foldl perform store (rest.map Call.insert))
    (perform_of_refused refused)

-- Whether a list can be inserted does not depend on what is stored, and so the run goes on with the
-- store that it has reached.
theorem foldlM_insert_eq_ok {built : ListStore} :
    inserts.foldlM insert store = .ok built ↔
      (∀ l ∈ inserts, ∃ next, insert {} l = .ok next) ∧
        built = (inserts.map Call.insert).foldl perform store := by
  induction inserts generalizing store with
  | nil =>
      rw [List.foldlM_nil, Checked.pure_eq_ok]
      simp [eq_comm]
  | cons l rest ih =>
      rw [List.foldlM_cons, Checked.bind_eq_ok, List.forall_mem_cons, List.map_cons,
        List.foldl_cons, and_assoc]
      constructor
      · intro h
        rcases h with ⟨next, inserted, h⟩
        obtain ⟨others, same⟩ := ih.1 h
        have single := (exists_insert_congr store {} l).1 ⟨next, inserted⟩
        exact ⟨single, others, by rw [same, perform_of_insert inserted]⟩
      · intro h
        rcases h with ⟨single, others, same⟩
        obtain ⟨next, inserted⟩ := (exists_insert_congr {} store l).1 single
        rw [perform_of_insert inserted] at same
        exact ⟨next, inserted, ih.2 ⟨others, same⟩⟩

theorem ofList_eq_ok {built : ListStore} :
    ofList inserts = .ok built ↔
      (∀ l ∈ inserts, ∃ next, insert {} l = .ok next) ∧ built = afterInserts inserts :=
  foldlM_insert_eq_ok

/-- Whatever is inserted, a reserved id keeps its list, and any other id that does not begin like a
negation has the list of the last insertion under it that succeeds. Failed insertions leave no trace,
and a store can be made of lists at once exactly if each of them can be inserted by itself. -/
theorem insertions_answer_by_id (inserts : List AddressList) (id : String) :
    let store := afterInserts inserts
    let plain := id.toList.head? ≠ some '!'
    (∀ l, list? id = some l → store.resolve id = .ok l) ∧
      (list? id = none → plain →
        (∀ l, lastAdded? inserts id = some l → store.resolve id = .ok l) ∧
          (lastAdded? inserts id = none → store.resolve id = refuse (.unknownList id))) ∧
      (∀ l, list? id = some l ∨ (list? id = none ∧ plain ∧ lastAdded? inserts id = some l) →
        ∀ a, (store.resolve id).map (fun answer => answer.contains a) = .ok (decide (a ∈ l))) ∧
      (∀ before l rest, inserts = before ++ l :: rest →
        (∀ next, (afterInserts before).insert l ≠ .ok next) →
          (afterInserts (before ++ rest)).resolve id = store.resolve id) ∧
      ((∃ built, ofList inserts = .ok built) ↔ ∀ l ∈ inserts, ∃ next, insert {} l = .ok next) := by
  intro store plain
  have reserved (l : AddressList) (h : list? id = some l) : store.resolve id = .ok l :=
    resolve_of_known? (Option.or_eq_some_iff.2 (.inl h))
  have stored (free : list? id = none) (named : plain) :
      store.resolve id = match lastAdded? inserts id with
        | some l => .ok l
        | none => refuse (.unknownList id) := by
    rw [resolve_of_plain free named, get?_afterInserts]
  refine ⟨reserved, ?_, ?_, ?_, ?_⟩
  · intro free named
    rw [stored free named]
    exact ⟨fun l last => by rw [last], fun none => by rw [none]⟩
  · intro l given a
    have answered : store.resolve id = .ok l := by
      rcases given with h | ⟨free, named, last⟩
      · exact reserved l h
      · rw [stored free named, last]
    have contains : l.contains a = decide (a ∈ l) := by
      rw [Bool.eq_iff_iff, AddressList.contains_eq_true, decide_eq_true_eq]
    rw [answered, ← contains]
    rfl
  · rintro before l rest rfl refused
    exact congrArg (fun s => resolve s id) (afterInserts_of_refused refused).symm
  · simp only [ofList_eq_ok, exists_and_left, exists_eq, and_true]

section Shadowing

def strangers : AddressList := .withId (.allBut friends.addresses) "friends"

def shadowing : List AddressList :=
  [friends, friends.withId "Mint", strangers, friends.withId "!friends", friends.withId ""]

theorem mint_not_shadowed :
    let store := afterInserts shadowing
    store.resolve "Mint" = .ok .mintOnly ∧ store.resolve "friends" = .ok strangers ∧
      (store.resolve "friends").map (fun answer => answer.contains Address.mint) = .ok true ∧
      store.resolve "" = refuse (.unknownList "") ∧ ¬∃ built, ofList shadowing = .ok built := by
  intro store
  have last : list? "friends" = none ∧ lastAdded? shadowing "friends" = some strangers := by
    decide +kernel
  have unset : list? "" = none ∧ lastAdded? shadowing "" = none := by decide +kernel
  obtain ⟨mint, _, _, _, atOnce⟩ := insertions_answer_by_id shadowing "Mint"
  obtain ⟨_, stored, members, _⟩ := insertions_answer_by_id shadowing "friends"
  obtain ⟨_, unnamed, _⟩ := insertions_answer_by_id shadowing ""
  refine ⟨mint _ (by decide +kernel), (stored last.1 (by decide)).1 _ last.2, ?_, ?_, ?_⟩
  · exact members strangers (.inr ⟨last.1, by decide, last.2⟩) Address.mint
  · exact (unnamed unset.1 (by decide)).2 unset.2
  · intro built
    have mintAlone := atOnce.1 built (friends.withId "Mint") (by decide)
    exact absurd (exists_insert_iff.1 mintAlone).2 (by decide +kernel)

end Shadowing

end BadgeRights.ListStore
