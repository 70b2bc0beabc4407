import Mathlib.Data.List.TakeDrop
import BadgeRights.Address.Resolver

set_option autoImplicit false

namespace BadgeRights

namespace Address

theorem eq_of_atLastSeparator? {cs hrp data : List Char}
    (h : atLastSeparator? cs = some (hrp, data)) : cs = hrp ++ '1' :: data := by
  have first := List.head?_dropWhile_not (· != '1') cs.reverse
  rw [atLastSeparator?, List.span_eq_takeWhile_dropWhile] at h
  cases behind : cs.reverse.dropWhile (· != '1') with
  | nil => simp [behind] at h
  | cons c front =>
      simp only [behind, Option.some.injEq, Prod.mk.injEq] at h
      simp only [behind, List.head?_cons, bne_eq_false_iff_eq] at first
      rcases h with ⟨rfl, rfl⟩
      calc cs
        _ = (cs.reverse.takeWhile (· != '1') ++ c :: front).reverse := by
          rw [← behind, List.takeWhile_append_dropWhile, List.reverse_reverse]
        _ = front.reverse ++ '1' :: (cs.reverse.takeWhile (· != '1')).reverse := by simp [first]

theorem isWellFormedChars_cases {cs : List Char} (h : isWellFormedChars cs = true) :
    cs = mint.toList ∨ (∃ hex, cs = '0' :: 'x' :: hex ∧ ∀ c ∈ hex, isHexDigit c = true) ∨
      ∃ hrp data, cs = hrp ++ '1' :: data ∧ hrp ≠ [] ∧ (∀ c ∈ hrp, isLowercase c = true) ∧
        ∀ c ∈ data, c ∈ base32 := by
  unfold isWellFormedChars at h
  split at h
  · left
    assumption
  · right
    split at h
    · rename_i hex _
      simp only [isHex, Bool.and_eq_true, List.all_eq_true] at h
      exact .inl ⟨hex, rfl, h.2⟩
    · right
      unfold isBech32 at h
      split at h
      · cases h
      · rename_i hrp data separated
        simp only [Bool.and_eq_true, List.all_eq_true, Bool.not_eq_true', List.isEmpty_eq_false_iff,
          List.contains_iff_mem] at h
        exact ⟨hrp, data, eq_of_atLastSeparator? separated, h.1.1.1, h.1.1.2, h.2⟩

-- What ids have around and between addresses.
def punctuation : List Char := [':', '!', '(', ')']

theorem notMem_of_punctuation {cs : List Char} (h : isWellFormedChars cs = true) :
    ∀ c ∈ punctuation, c ∉ cs := by
  have none : ∀ c ∈ punctuation, c ∉ mint.toList ∧ c ≠ '0' ∧ c ≠ 'x' ∧ c ≠ '1' ∧
      isHexDigit c = false ∧ isLowercase c = false ∧ c ∉ base32 := by
    simp only [punctuation, List.forall_mem_cons]
    exact ⟨by decide, by decide, by decide, by decide, nofun⟩
  intro c hc
  -- In each of the three forms every character is of a class that lacks `c`.
  obtain ⟨notMint, notZero, notX, notOne, notHex, notLower, notBase⟩ := none c hc
  rcases isWellFormedChars_cases h with rfl | ⟨hex, rfl, digits⟩ | ⟨hrp, data, rfl, _, lower, base⟩
  · exact notMint
  · intro here
    simp only [List.mem_cons, notZero, notX, false_or] at here
    simp [digits c here] at notHex
  · intro here
    simp only [List.mem_append, List.mem_cons, notOne, false_or] at here
    rcases here with inName | inData
    · simp [lower c inName] at notLower
    · exact notBase (base c inData)

-- No address begins like the fixed names that begin with `All`.
theorem exists_head {cs : List Char} (h : isWellFormedChars cs = true) :
    ∃ c rest, cs = c :: rest ∧ c ≠ 'A' := by
  rcases isWellFormedChars_cases h with rfl | ⟨hex, rfl, _⟩ | ⟨hrp, data, rfl, named, lower, _⟩
  · exact ⟨'M', _, rfl, by decide⟩
  · exact ⟨'0', _, rfl, by decide⟩
  · cases hrp with
    | nil => exact absurd rfl named
    | cons c rest =>
        refine ⟨c, _, rfl, ?_⟩
        rintro rfl
        exact absurd (lower 'A' List.mem_cons_self) (by decide)

end Address

namespace Reserved

theorem splitColons_eq_splitOn (cs : List Char) : splitColons cs = cs.splitOn ':' := by
  fun_induction splitColons cs with
  | case1 => rfl
  | case2 rest ih => simp [List.splitOn_cons_eq_if_modifyHead, ih]
  | case3 c rest _ empty ih => exact absurd (ih.symm.trans empty) (List.splitOn_ne_nil ':' rest)
  | case4 c rest other part parts split ih =>
      have tail := ih.symm.trans split
      have plain : (c == ':') = false := by simpa using other
      simp [List.splitOn_cons_eq_if_modifyHead, tail, plain]

theorem addresses?_eq_some_iff {cs : List Char} {names : List String} :
    addresses? cs = some names ↔
      names ≠ [] ∧ (∀ a ∈ names, Address.isWellFormed a = true) ∧
        (String.intercalate ":" names).toList = cs := by
  unfold addresses?
  rw [splitColons_eq_splitOn]
  constructor
  · intro h
    simp only [Option.ite_none_right_eq_some, Option.some.injEq, List.all_eq_true] at h
    rcases h with ⟨wellFormed, rfl⟩
    refine ⟨by simp, ?_, ?_⟩
    · simpa [Address.isWellFormed] using wellFormed
    · simp [Function.comp_def]
  · intro h
    rcases h with ⟨nonempty, wellFormed, rfl⟩
    -- No address has the separator in it, so that splitting gives back what was joined.
    have plain : ∀ part ∈ names.map String.toList, ':' ∉ part := by
      intro part hpart
      obtain ⟨a, ha, rfl⟩ := List.mem_map.1 hpart
      exact Address.notMem_of_punctuation (wellFormed a ha) ':' (by decide)
    have parts : (String.intercalate ":" names).toList.splitOn ':' = names.map String.toList := by
      rw [String.toList_intercalate]
      exact List.splitOn_intercalate ':' plain (by simpa using nonempty)
    simp only [parts]
    rw [if_pos (by simpa [Address.isWellFormed] using wellFormed)]
    simp [Function.comp_def]

theorem exists_head_of_addresses? {cs : List Char} {names : List String}
    (h : addresses? cs = some names) :
    ∃ c rest, cs = c :: rest ∧ c ≠ 'A' ∧ c ≠ '!' ∧ c ≠ '(' := by
  obtain ⟨nonempty, wellFormed, rfl⟩ := addresses?_eq_some_iff.1 h
  cases names with
  | nil => exact absurd rfl nonempty
  | cons a others =>
      have first := wellFormed a List.mem_cons_self
      obtain ⟨c, rest, same, other⟩ := Address.exists_head first
      have outer : ∀ mark ∈ Address.punctuation, c ≠ mark := by
        intro mark hmark
        rintro rfl
        exact Address.notMem_of_punctuation first c hmark (by simp [same])
      have begins : ∃ rest, (String.intercalate ":" (a :: others)).toList = c :: rest := by
        cases others <;> simp [same]
      obtain ⟨rest, same⟩ := begins
      exact ⟨c, rest, same, other, outer '!' (by decide), outer '(' (by decide)⟩

section Unwrap

theorem unwrap_cases (cs : List Char) : unwrap cs = cs ∨ cs = '(' :: unwrap cs ++ [')'] := by
  unfold unwrap
  split
  · rename_i rest
    split
    · rename_i closed
      obtain ⟨inner, rfl⟩ := List.getLast?_eq_some_iff.1 closed
      right
      simp
    · exact .inl rfl
  · exact .inl rfl

theorem unwrap_group (cs : List Char) : unwrap ('(' :: cs ++ [')']) = cs := by
  simp [unwrap]

theorem unwrap_of_ne {c : Char} {rest : List Char} (h : c ≠ '(') : unwrap (c :: rest) = c :: rest := by
  unfold unwrap
  split
  · rename_i same
    exact absurd (List.cons.inj same).1 h
  · rfl

theorem negated?_group (id : String) : ListStore.negated? ("!(" ++ id ++ ")") = some id := by
  have group : ("!(" ++ id ++ ")").toList = '!' :: ('(' :: id.toList ++ [')']) := by simp
  simp only [ListStore.negated?, group, unwrap_group, String.ofList_toList]

theorem negated?_bang {id : String} (plain : unwrap id.toList = id.toList) :
    ListStore.negated? ("!" ++ id) = some id := by
  have bang : ("!" ++ id).toList = '!' :: id.toList := by simp
  simp only [ListStore.negated?, bang, plain, String.ofList_toList]

theorem list?_of_negated? {id inner : String} (h : ListStore.negated? id = some inner) :
    list? id = (list? inner).map fun l => l.inverted.withId id := by
  unfold ListStore.negated? at h
  split at h
  · rename_i rest same
    obtain rfl := Option.some.inj h
    simp only [list?, same, members?, String.toList_ofList, Option.map_map]
    rfl
  · cases h

end Unwrap

section Plain

variable {cs : List Char} {names : List String}

def fixedNames : List String := ["Mint", "All", "AllWithMint", "AllWithoutMint", "None"]

theorem plain?_of_ne (h : ∀ name ∈ fixedNames, cs ≠ name.toList) :
    plain? cs = if allWithout.isPrefixOf cs then
        (addresses? (cs.drop allWithout.length)).map AddressList.allBut
      else (addresses? cs).map AddressList.only := by
  simp only [fixedNames, List.forall_mem_cons] at h
  obtain ⟨mint, all, allWithMint, allWithoutMint, none, _⟩ := h
  simp only [plain?, mint, all, allWithMint, allWithoutMint, none, if_false, decide_false,
    Bool.or_false, Bool.false_eq_true]

theorem plain?_of_addresses (h : addresses? cs = some names) (id : String) :
    (plain? cs).map (fun l => l.withId id) = some ((AddressList.only names).withId id) := by
  by_cases mint : cs = "Mint".toList
  · subst mint
    have alone : addresses? "Mint".toList = some ["Mint"] := by decide
    obtain rfl := Option.some.inj (alone.symm.trans h)
    rfl
  · -- The mint apart, a fixed name is no address, so that `cs` is none of them.
    have refused : ∀ name ∈ fixedNames, name = "Mint" ∨ addresses? name.toList = none := by decide
    have other : ∀ name ∈ fixedNames, cs ≠ name.toList := by
      rintro name hname rfl
      rcases refused name hname with rfl | none
      · exact mint rfl
      · exact Option.some_ne_none _ (h.symm.trans none)
    have begins : ¬allWithout.isPrefixOf cs = true := by
      rw [List.isPrefixOf_iff_prefix]
      rintro ⟨tail, same⟩
      obtain ⟨c, rest, rfl, different, _⟩ := exists_head_of_addresses? h
      exact different (List.cons.inj same).1.symm
    rw [plain?_of_ne other, if_neg begins, h]
    rfl

theorem plain?_allWithout (h : addresses? cs = some names) (id : String) :
    (plain? (allWithout ++ cs)).map (fun l => l.withId id) =
      some ((AddressList.allBut names).withId id) := by
  by_cases mint : cs = "Mint".toList
  · subst mint
    have alone : addresses? "Mint".toList = some ["Mint"] := by decide
    obtain rfl := Option.some.inj (alone.symm.trans h)
    rfl
  · -- Only one fixed name goes on behind `AllWithout`, and what follows there is the mint.
    have short : ∀ name ∈ fixedNames,
        name = "AllWithoutMint" ∨ ¬allWithout <+: name.toList := by decide
    have other : ∀ name ∈ fixedNames, allWithout ++ cs ≠ name.toList := by
      intro name hname same
      rcases short name hname with rfl | begins
      · exact mint (List.append_cancel_left (same : allWithout ++ cs = allWithout ++ "Mint".toList))
      · exact begins (same ▸ List.prefix_append allWithout cs)
    have begins : allWithout.isPrefixOf (allWithout ++ cs) = true := by simp
    rw [plain?_of_ne other, if_pos begins, List.drop_left, h]
    rfl

end Plain

structure Addresses where
  names : List String
  nonempty : names ≠ []
  wellFormed : ∀ a ∈ names, Address.isWellFormed a = true

inductive Reading where
  | mint
  | all
  | allWithMint
  | allWithoutMint
  | none
  | only (addresses : Addresses)
  | allBut (addresses : Addresses)
  | negated (inner : Reading)
  | negatedGroup (inner : Reading)

namespace Reading

def text : Reading → String
  | mint => "Mint"
  | all => "All"
  | allWithMint => "AllWithMint"
  | allWithoutMint => "AllWithoutMint"
  | none => "None"
  | only addresses => String.intercalate ":" addresses.names
  | allBut addresses => "AllWithout" ++ String.intercalate ":" addresses.names
  | negated inner => "!" ++ inner.text
  | negatedGroup inner => "!(" ++ inner.text ++ ")"

def Holds (a : String) : Reading → Prop
  | mint => a = Address.mint
  | all | allWithMint => True
  | allWithoutMint => a ≠ Address.mint
  | none => False
  | only addresses => a ∈ addresses.names
  | allBut addresses => a ∉ addresses.names
  | negated inner | negatedGroup inner => ¬inner.Holds a

def list : Reading → AddressList
  | mint => .only [Address.mint]
  | all | allWithMint => .allBut []
  | allWithoutMint => .allBut [Address.mint]
  | none => .only []
  | only addresses => .only addresses.names
  | allBut addresses => .allBut addresses.names
  | negated inner | negatedGroup inner => inner.list.inverted

theorem mem_list (r : Reading) (a : String) : a ∈ r.list ↔ r.Holds a := by
  induction r with
  | negated inner ih => rw [list, AddressList.mem_inverted, ih, Holds]
  | negatedGroup inner ih => rw [list, AddressList.mem_inverted, ih, Holds]
  | _ => simp [list, Holds, AddressList.mem_def, AddressList.only, AddressList.allBut]

end Reading

theorem addresses?_text (addresses : Addresses) :
    addresses? (String.intercalate ":" addresses.names).toList = some addresses.names :=
  addresses?_eq_some_iff.2 ⟨addresses.nonempty, addresses.wellFormed, rfl⟩

theorem unwrap_text (r : Reading) : unwrap r.text.toList = r.text.toList := by
  have begins : ∃ c rest, r.text.toList = c :: rest ∧ c ≠ '(' := by
    cases r with
    | only addresses =>
        obtain ⟨c, rest, same, _, _, outer⟩ := exists_head_of_addresses? (addresses?_text addresses)
        exact ⟨c, rest, same, outer⟩
    | _ => simp [Reading.text]
  obtain ⟨c, rest, same, outer⟩ := begins
  rw [same, unwrap_of_ne outer]

theorem list?_of_plain {id : String} (h : ∀ rest, id.toList ≠ '!' :: rest) :
    list? id = (plain? id.toList).map fun l => l.withId id := by
  unfold list? members?
  split
  · rename_i rest same
    exact absurd same (h rest)
  · rfl

theorem exists_text_of_addresses? {cs : List Char} (h : (addresses? cs).isSome = true) :
    ∃ addresses : Addresses, (String.intercalate ":" addresses.names).toList = cs := by
  obtain ⟨names, read⟩ := Option.isSome_iff_exists.1 h
  obtain ⟨nonempty, wellFormed, text⟩ := addresses?_eq_some_iff.1 read
  exact ⟨⟨names, nonempty, wellFormed⟩, text⟩

theorem exists_text_of_plain? {cs : List Char} (h : (plain? cs).isSome = true) :
    ∃ r : Reading, r.text.toList = cs := by
  by_cases fixed : ∃ name ∈ fixedNames, cs = name.toList
  · obtain ⟨name, hname, rfl⟩ := fixed
    have named : ∀ name ∈ fixedNames, ∃ r ∈ [Reading.mint, .all, .allWithMint, .allWithoutMint, .none],
        r.text = name := by decide
    obtain ⟨r, _, rfl⟩ := named name hname
    exact ⟨r, rfl⟩
  · simp only [not_exists, not_and] at fixed
    rw [plain?_of_ne fixed] at h
    split at h
    · rename_i begins
      obtain ⟨joined, rfl⟩ := List.isPrefixOf_iff_prefix.1 begins
      rw [List.drop_left, Option.isSome_map] at h
      obtain ⟨addresses, rfl⟩ := exists_text_of_addresses? h
      exact ⟨.allBut addresses, String.toList_append⟩
    · rw [Option.isSome_map] at h
      obtain ⟨addresses, rfl⟩ := exists_text_of_addresses? h
      exact ⟨.only addresses, rfl⟩

theorem list?_text (r : Reading) : list? r.text = some (r.list.withId r.text) := by
  -- By induction on the negations: what stands behind them is read as a plain id.
  induction r with
  | only addresses =>
      have read := addresses?_text addresses
      obtain ⟨c, rest, same, _, other, _⟩ := exists_head_of_addresses? read
      have plain : ∀ rest, (Reading.only addresses).text.toList ≠ '!' :: rest := by
        intro _ negation
        exact other (List.cons.inj (same.symm.trans negation)).1
      rw [list?_of_plain plain]
      exact plain?_of_addresses read _
  | allBut addresses =>
      have text : (Reading.allBut addresses).text.toList =
          allWithout ++ (String.intercalate ":" addresses.names).toList := String.toList_append
      have plain : ∀ rest, (Reading.allBut addresses).text.toList ≠ '!' :: rest := by
        intro _ negation
        exact absurd (List.cons.inj (text.symm.trans negation)).1 (by decide)
      rw [list?_of_plain plain, text]
      exact plain?_allWithout (addresses?_text addresses) _
  | negated inner ih =>
      rw [Reading.text, list?_of_negated? (negated?_bang (unwrap_text inner)), ih]
      rfl
  | negatedGroup inner ih =>
      rw [Reading.text, list?_of_negated? (negated?_group inner.text), ih]
      rfl
  | _ =>
      rw [list?_of_plain (by simp [Reading.text])]
      rfl

theorem exists_text_of_members? {cs : List Char} (h : (members? cs).isSome = true) :
    ∃ r : Reading, r.text.toList = cs := by
  fun_induction members? cs with
  | case1 rest ih =>
      -- The reading of what is negated is one level deeper, inside the parentheses if there are two.
      rw [Option.isSome_map] at h
      obtain ⟨inner, text⟩ := ih h
      rcases unwrap_cases rest with same | group
      · exact ⟨.negated inner, by simp [Reading.text, text, same]⟩
      · exact ⟨.negatedGroup inner, by rw [group]; simp [Reading.text, text]⟩
  | case2 cs plain => exact exists_text_of_plain? h

theorem list?_isSome_iff {id : String} : (list? id).isSome = true ↔ ∃ r : Reading, r.text = id := by
  constructor
  · intro reserved
    rw [list?, Option.isSome_map] at reserved
    obtain ⟨r, text⟩ := exists_text_of_members? reserved
    exact ⟨r, String.toList_inj.1 text⟩
  · intro readable
    rcases readable with ⟨r, rfl⟩
    rw [list?_text]
    rfl

/-- The reserved ids are those that can be read by the grammar. Each stands for a list with that id, whose
members are those of every reading of the id, and its negations, with parentheses or without, stand for
lists of all other texts. -/
theorem list?_follows_grammar (id : String) :
    ((list? id).isSome = true ↔ ∃ r : Reading, r.text = id) ∧
      (∀ r s : Reading, r.text = id → s.text = id → ∀ a, r.Holds a ↔ s.Holds a) ∧
      ∀ l, list? id = some l →
        l.listId = id ∧ (∀ r : Reading, r.text = id → ∀ a, l.contains a = true ↔ r.Holds a) ∧
          ∀ negation ∈ ["!" ++ id, "!(" ++ id ++ ")"],
            ∃ m, list? negation = some m ∧ ∀ a, m.contains a = !l.contains a := by
  have members (l : AddressList) (reserved : list? id = some l) (r : Reading) (text : r.text = id)
      (a : String) : l.contains a = true ↔ r.Holds a := by
    have same := list?_text r
    rw [text, reserved] at same
    rw [Option.some.inj same, AddressList.contains_eq_true, AddressList.mem_withId, r.mem_list]
  refine ⟨list?_isSome_iff, ?_, fun l reserved => ?_⟩
  · rintro r s rfl text a
    -- Both readings say what the list of the id holds.
    rw [← members _ (list?_text r) r rfl, members _ (list?_text r) s text]
  obtain ⟨r, rfl⟩ := list?_isSome_iff.1 (Option.isSome_of_mem reserved)
  refine ⟨?_, members l reserved, ?_⟩
  · rw [Option.some.inj (reserved.symm.trans (list?_text r))]
    rfl
  · obtain rfl := Option.some.inj (reserved.symm.trans (list?_text r))
    simp only [List.forall_mem_cons]
    refine ⟨?_, ?_, nofun⟩
    · exact ⟨_, list?_text (.negated r), AddressList.contains_inverted r.list⟩
    · exact ⟨_, list?_text (.negatedGroup r), AddressList.contains_inverted r.list⟩

theorem nested_negation_read :
    let id := "!(!AllWithoutMint:0x1111111111111111111111111111111111111111)"
    (∃ l, list? id = some l ∧ l.listId = id ∧ l.contains "Mint" = false ∧ l.contains "Alice" = true ∧
        ∃ m, list? ("!" ++ id) = some m ∧ m.contains "Mint" = true) ∧
      ¬∃ r : Reading, r.text = "!(Mint" := by
  intro id
  let pair : Addresses :=
    ⟨["Mint", "0x1111111111111111111111111111111111111111"], by decide, by decide⟩
  let r : Reading := .negatedGroup (.negated (.allBut pair))
  have text : r.text = id := by decide
  obtain ⟨readable, _, described⟩ := list?_follows_grammar id
  obtain ⟨l, reserved⟩ := Option.isSome_iff_exists.1 (readable.2 ⟨r, text⟩)
  obtain ⟨named, members, negations⟩ := described l reserved
  obtain ⟨m, negated, opposite⟩ := negations ("!" ++ id) List.mem_cons_self
  have without : l.contains "Mint" = false := by
    rw [← Bool.not_eq_true, members r text]
    simp [r, pair, Reading.Holds]
  have held : l.contains "Alice" = true := by
    rw [members r text]
    simp [r, pair, Reading.Holds]
  have unread : ¬(list? "!(Mint").isSome = true := by decide +kernel
  refine ⟨⟨l, reserved, named, without, held, m, negated, ?_⟩, mt (list?_follows_grammar _).1.2 unread⟩
  rw [opposite, without]
  rfl

-- An address is the id of the list of itself.
theorem list?_of_isWellFormed {address : String} (h : Address.isWellFormed address = true) :
    list? address = some ((AddressList.only [address]).withId address) := by
  have alone : ∀ a ∈ [address], Address.isWellFormed a = true := List.forall_mem_singleton.2 h
  have read := list?_text (.only ⟨[address], List.cons_ne_nil _ _, alone⟩)
  rwa [Reading.text, String.intercalate_singleton] at read

end Reserved

inductive Resolver.IsStandard : Resolver → Prop where
  | reserved : IsStandard Resolver.reserved
  | stored (store : ListStore) : IsStandard store.resolve

theorem Resolver.IsStandard.resolve_address {resolve : Resolver} (standard : resolve.IsStandard)
    {address : String} (h : Address.isWellFormed address = true) :
    resolve address = .ok ((AddressList.only [address]).withId address) := by
  have reserved := Reserved.list?_of_isWellFormed h
  cases standard with
  | reserved => simp [Resolver.reserved, reserved]
  | stored store => simp [ListStore.resolve, reserved]

end BadgeRights
