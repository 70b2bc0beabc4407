import BadgeRights.Proofs.Tiling
import BadgeRights.Flattening

set_option autoImplicit false

namespace BadgeRights

def CriteriaStack.ofAll (parts : List CriteriaStack) : CriteriaStack :=
  ⟨parts.flatMap CriteriaStack.criteria, parts.all CriteriaStack.isApproved⟩

theorem CriteriaStack.stacked_ofAll (parts : List CriteriaStack) (next : CriteriaStack) :
    (ofAll parts).stacked next = ofAll (parts ++ [next]) := by
  simp [ofAll, stacked]

namespace Payload

def criteria? : Payload → Option CriteriaStack
  | .criteria stack => some stack
  | _ => none

/-- The payload of a point: the first one stated there, on which all later criteria stack if it is
criteria itself. -/
def stackedWith (first : Payload) (later : List Payload) : Payload :=
  match first with
  | .criteria stack => .criteria (CriteriaStack.ofAll (stack :: later.filterMap criteria?))
  | other => other

theorem stackedWith_nil (first : Payload) : first.stackedWith [] = first := by
  cases first <;> simp [stackedWith, CriteriaStack.ofAll]

theorem stackedWith_of_plain (first : Payload) (later : List Payload)
    (plain : first.criteria? = none) : first.stackedWith later = first := by
  cases first with
  | criteria stack => cases plain
  | empty | value | approval => rfl

theorem mergeOverlap_stackedWith (first next : Payload) (later : List Payload) :
    ((first.stackedWith later).mergeOverlap next).getD (first.stackedWith later) =
      first.stackedWith (later ++ [next]) := by
  cases first with
  | criteria stack =>
      cases next with
      | criteria added =>
          simp [stackedWith, mergeOverlap, criteria?, CriteriaStack.stacked_ofAll]
      | empty | value | approval =>
          simp [stackedWith, mergeOverlap, List.filterMap_cons, criteria?]
  | empty | value | approval => rfl

end Payload

namespace Flattening

open Detail

theorem mem_of_mem_stackOn {existing candidate d : Detail} (h : d ∈ stackOn existing candidate)
    (p : Point) (hp : p ∈ d) :
    p ∈ existing ∧ d.windows = existing.windows ∧
      d.payload = if p ∈ candidate then
        (existing.payload.mergeOverlap candidate.payload).getD existing.payload
      else existing.payload := by
  unfold stackOn at h
  split at h
  · rename_i alone
    obtain rfl := List.mem_singleton.1 h
    simp [alone, hp]
  · rename_i merged hmerged
    dsimp only at h
    split at h
    · rename_i apart
      obtain rfl := List.mem_singleton.1 h
      have outside : ¬p ∈ candidate := fun hc => Region.not_shared apart p ⟨hp, hc⟩
      simp [outside, hp]
    · rename_i shared meet
      rcases List.mem_append.1 h with h | h
      · obtain ⟨r, hr, rfl⟩ := List.mem_map.1 h
        obtain ⟨inside, outside⟩ := Region.mem_of_mem_outside hr hp
        have outside : ¬p ∈ candidate := outside
        exact ⟨inside, rfl, by simp [outside, onRegion]⟩
      · obtain rfl := List.mem_singleton.1 h
        obtain ⟨inside, handled⟩ := (Region.mem_shared meet p).1 hp
        have handled : p ∈ candidate := handled
        exact ⟨inside, rfl, by simp [handled, hmerged]⟩

theorem exists_mem_stackOn {existing : Detail} (candidate : Detail) {p : Point}
    (hp : p ∈ existing) : ∃ d ∈ stackOn existing candidate, p ∈ d := by
  unfold stackOn
  split
  · exact ⟨existing, List.mem_singleton_self _, hp⟩
  · rename_i merged _
    dsimp only
    split
    · exact ⟨existing, List.mem_singleton_self _, hp⟩
    · rename_i shared meet
      by_cases here : p ∈ candidate
      · refine ⟨{ existing.onRegion shared with payload := merged }, ?_, ?_⟩
        · exact List.mem_append_right _ (List.mem_singleton_self _)
        · exact (Region.mem_shared meet p).2 ⟨hp, here⟩
      · obtain ⟨r, hr, inPiece⟩ :=
          (existing.region.cut_exactAt candidate.region p).1.2 ⟨hp, here⟩
        exact ⟨existing.onRegion r, List.mem_append_left _ (List.mem_map_of_mem hr), inPiece⟩

theorem tiling_stackOn (existing candidate : Detail) (ordered : existing.region.Ordered)
    (orderedCandidate : candidate.region.Ordered) : Tiling (stackOn existing candidate) := by
  unfold stackOn
  split
  · exact Tiling.single existing ordered
  · dsimp only
    split
    · exact Tiling.single existing ordered
    · rename_i merged _ shared meet
      have tidy := Region.cut_tidy existing.region candidate.region ordered orderedCandidate
      have pieces := Tiling.outside existing candidate.region ordered orderedCandidate
      -- The pieces lie outside the candidate, the part that stacks inside it.
      refine pieces.append (Tiling.single _ (tidy.shared_ordered shared meet)) ?_
      intro piece hpiece stacked hstacked p inPiece inStacked
      obtain ⟨r, hr, rfl⟩ := List.mem_map.1 hpiece
      obtain rfl := List.mem_singleton.1 hstacked
      exact (Region.mem_of_mem_outside hr inPiece).2 ((Region.mem_shared meet p).1 inStacked).2

theorem exists_mem_claim (claimed : List Detail) (candidate : Detail) (p : Point) :
    (∃ d ∈ claim claimed candidate, p ∈ d) ↔ (∃ d ∈ claimed, p ∈ d) ∨ p ∈ candidate := by
  constructor
  · intro h
    rcases h with ⟨d, hd, hp⟩
    rcases List.mem_append.1 hd with hd | hd
    · obtain ⟨existing, he, hd⟩ := List.mem_flatMap.1 hd
      exact .inl ⟨existing, he, (mem_of_mem_stackOn hd p hp).1⟩
    · obtain ⟨whole, hwhole, fragment⟩ := fragment_of_mem_carveAll hd
      rw [List.mem_singleton.1 hwhole] at fragment
      exact .inr (fragment.inside p hp)
  · intro h
    by_cases held : ∃ existing ∈ claimed, p ∈ existing
    · rcases held with ⟨existing, he, hp⟩
      obtain ⟨d, hd, hp⟩ := exists_mem_stackOn candidate hp
      exact ⟨d, List.mem_append_left _ (List.mem_flatMap.2 ⟨existing, he, hd⟩), hp⟩
    · have unclaimed : ∀ e ∈ claimed, ¬p ∈ e := fun e he hp => held ⟨e, he, hp⟩
      have here : p ∈ candidate := h.resolve_left held
      rcases (mem_carveAll claimed [candidate] p).2
        ⟨⟨candidate, List.mem_singleton_self _, here⟩, unclaimed⟩ with ⟨d, hd, hp⟩
      exact ⟨d, List.mem_append_right _ hd, hp⟩

theorem exists_stackOn_of_mem_claim {claimed : List Detail} {candidate d : Detail} {p : Point}
    (held : ∃ e ∈ claimed, p ∈ e) (hd : d ∈ claim claimed candidate) (hp : p ∈ d) :
    ∃ existing ∈ claimed, d ∈ stackOn existing candidate := by
  rcases held with ⟨holder, hholder, held⟩
  rcases List.mem_append.1 hd with hd | hd
  · exact List.mem_flatMap.1 hd
  · exact absurd hp (apart_of_mem_carveAll hd holder hholder p held)

theorem fragment_of_mem_claim {claimed : List Detail} {candidate d : Detail} {p : Point}
    (unclaimed : ∀ e ∈ claimed, ¬p ∈ e) (hd : d ∈ claim claimed candidate) (hp : p ∈ d) :
    Fragment d candidate := by
  rcases List.mem_append.1 hd with hd | hd
  · obtain ⟨existing, he, hd⟩ := List.mem_flatMap.1 hd
    exact absurd (mem_of_mem_stackOn hd p hp).1 (unclaimed existing he)
  · obtain ⟨whole, hwhole, fragment⟩ := fragment_of_mem_carveAll hd
    rwa [List.mem_singleton.1 hwhole] at fragment

theorem tiling_claim {claimed : List Detail} (tiling : Tiling claimed) (candidate : Detail)
    (ordered : candidate.region.Ordered) : Tiling (claim claimed candidate) := by
  have stacked : Tiling (claimed.flatMap fun existing => stackOn existing candidate) := by
    refine tiling.flatMap _ ?_ ?_
    · intro existing he
      exact tiling_stackOn existing candidate (tiling.ordered existing he) ordered
    · intro existing _ d hd p hp
      exact (mem_of_mem_stackOn hd p hp).1
  -- Stacking only splits what was claimed, so that the carved candidate stays apart from it.
  refine stacked.append ((Tiling.single candidate ordered).carveAll claimed tiling.ordered) ?_
  intro d hd e he p hp
  obtain ⟨existing, hexisting, hd⟩ := List.mem_flatMap.1 hd
  exact apart_of_mem_carveAll he existing hexisting p (mem_of_mem_stackOn hd p hp).1

theorem tiling_claimAll (candidates : List Detail) (ordered : ∀ d ∈ candidates, d.region.Ordered) :
    Tiling (claimAll candidates) := by
  -- Whatever is claimed at any time is a tiling.
  have general (claimed : List Detail) (tiling : Tiling claimed) :
      Tiling (candidates.foldl claim claimed) := by
    induction candidates generalizing claimed with
    | nil => exact tiling
    | cons candidate rest ih =>
        refine ih (fun d hd => ordered d (List.mem_cons_of_mem _ hd)) (claim claimed candidate) ?_
        exact tiling_claim tiling candidate (ordered candidate List.mem_cons_self)
  exact general [] ⟨by simp, List.Pairwise.nil⟩

/-- Of the details `stated` in order, those at `p` decide what `claimed` says there: the first one
its windows, and the first one with all later criteria its payload. Where nothing is stated, nothing
is claimed. -/
def ResolvedAt (p : Point) (stated claimed : List Detail) : Prop :=
  match stated.filter (p ∈ ·) with
  | [] => ∀ d ∈ claimed, ¬p ∈ d
  | first :: later =>
      (∃ d ∈ claimed, p ∈ d) ∧
        ∀ d ∈ claimed, p ∈ d →
          d.windows = first.windows ∧
            d.payload = first.payload.stackedWith (later.map Detail.payload)

theorem ResolvedAt.congr {p : Point} {stated claimed others : List Detail}
    (same : ∀ d, d ∈ others ↔ d ∈ claimed) (h : ResolvedAt p stated claimed) :
    ResolvedAt p stated others := by
  simpa only [ResolvedAt, same] using h

theorem ResolvedAt.exists_mem_iff {p : Point} {stated claimed : List Detail}
    (h : ResolvedAt p stated claimed) : (∃ d ∈ claimed, p ∈ d) ↔ ∃ d ∈ stated, p ∈ d := by
  unfold ResolvedAt at h
  cases covering : stated.filter (p ∈ ·) with
  | nil =>
      simp only [covering] at h
      have unstated : ∀ d ∈ stated, ¬p ∈ d := by simpa [List.filter_eq_nil_iff] using covering
      constructor
      · intro ⟨d, hd, hp⟩
        exact absurd hp (h d hd)
      · intro ⟨d, hd, hp⟩
        exact absurd hp (unstated d hd)
  | cons first later =>
      simp only [covering] at h
      have hfirst : first ∈ stated.filter (p ∈ ·) := by simp [covering]
      obtain ⟨hd, hp⟩ := List.mem_filter.1 hfirst
      exact ⟨fun _ => ⟨first, hd, by simpa using hp⟩, fun _ => h.1⟩

theorem ResolvedAt.exists_find? {p : Point} {stated claimed : List Detail}
    (h : ResolvedAt p stated claimed) {d : Detail} (hd : d ∈ claimed) (hp : p ∈ d) :
    ∃ first, stated.find? (p ∈ ·) = some first ∧ d.windows = first.windows ∧
      (first.payload.criteria? = none → d.payload = first.payload) := by
  unfold ResolvedAt at h
  rw [← List.head?_filter]
  cases covering : stated.filter (p ∈ ·) with
  | nil =>
      simp only [covering] at h
      exact absurd hp (h d hd)
  | cons first later =>
      simp only [covering] at h
      obtain ⟨windows, payload⟩ := h.2 d hd hp
      refine ⟨first, List.head?_cons, windows, ?_⟩
      intro plain
      rw [payload, Payload.stackedWith_of_plain _ _ plain]

theorem resolvedAt_claim {p : Point} {stated claimed : List Detail}
    (h : ResolvedAt p stated claimed) (candidate : Detail) :
    ResolvedAt p (stated ++ [candidate]) (claim claimed candidate) := by
  unfold ResolvedAt at h ⊢
  rw [List.filter_append]
  cases before : stated.filter (p ∈ ·) with
  | nil =>
      -- Nothing was claimed at `p`: what is there now is left of the candidate.
      simp only [before] at h
      by_cases here : p ∈ candidate
      · simp only [here, List.filter_cons, decide_true, if_true, List.filter_nil, List.nil_append,
          List.map_nil, Payload.stackedWith_nil]
        refine ⟨(exists_mem_claim claimed candidate p).2 (.inr here), ?_⟩
        intro d hd hp
        have fragment := fragment_of_mem_claim h hd hp
        exact ⟨fragment.windows, fragment.payload⟩
      · simp only [here, List.filter_cons, decide_false, Bool.false_eq_true, if_false,
          List.filter_nil, List.append_nil]
        intro d hd hp
        exact here ((fragment_of_mem_claim h hd hp).inside p hp)
  | cons first later =>
      -- The claim at `p` stands; the candidate can only stack on it.
      simp only [before] at h
      rcases h with ⟨held, said⟩
      have covered : ∃ d ∈ claim claimed candidate, p ∈ d :=
        (exists_mem_claim claimed candidate p).2 (.inl held)
      have kept : ∀ d ∈ claim claimed candidate, p ∈ d →
          d.windows = first.windows ∧
            d.payload = if p ∈ candidate then
              first.payload.stackedWith (later.map Detail.payload ++ [candidate.payload])
            else first.payload.stackedWith (later.map Detail.payload) := by
        intro d hd hp
        obtain ⟨existing, he, hd⟩ := exists_stackOn_of_mem_claim held hd hp
        obtain ⟨inside, windows, payload⟩ := mem_of_mem_stackOn hd p hp
        obtain ⟨windowsBefore, payloadBefore⟩ := said existing he inside
        rw [payloadBefore, Payload.mergeOverlap_stackedWith] at payload
        exact ⟨windows.trans windowsBefore, payload⟩
      by_cases here : p ∈ candidate
      · simp only [here, if_true] at kept
        simpa [here] using ⟨covered, kept⟩
      · simp only [here, if_false] at kept
        simpa [here] using ⟨covered, kept⟩

theorem resolvedAt_claimAll (p : Point) (candidates : List Detail) :
    ResolvedAt p candidates (claimAll candidates) := by
  -- At any time, the details taken so far decide what is claimed.
  have general (stated claimed : List Detail) (h : ResolvedAt p stated claimed) :
      ResolvedAt p (stated ++ candidates) (candidates.foldl claim claimed) := by
    induction candidates generalizing stated claimed with
    | nil => simpa using h
    | cons candidate rest ih =>
        have next := ih (stated ++ [candidate]) (claim claimed candidate)
          (resolvedAt_claim h candidate)
        simpa using next
  exact general [] [] (by simp [ResolvedAt])

theorem before_total (d e : Detail) : before d e = true ∨ before e d = true := by
  simp only [before, decide_eq_true_eq]
  omega

theorem before_trans (d e f : Detail) (de : before d e = true) (ef : before e f = true) :
    before d f = true := by
  simp only [before, decide_eq_true_eq] at *
  omega

end Flattening

section Declarations

variable (declarations : List Declaration)

theorem Declaration.ordered_of_mem_details {declaration : Declaration}
    (ordered : declaration.Ordered) : ∀ d ∈ declaration.details, d.region.Ordered := by
  intro d hd
  rcases ordered with ⟨badgeOrdered, timelineOrdered, transferOrdered, ownershipOrdered⟩
  simp only [details, regions, List.mem_map, List.mem_flatMap] at hd
  rcases hd with ⟨_, ⟨badge, hb, timeline, ht, transfer, hx, ownership, ho, rfl⟩, rfl⟩
  exact ⟨badgeOrdered badge hb, timelineOrdered timeline ht, transferOrdered transfer hx,
    ownershipOrdered ownership ho⟩

theorem Declaration.exists_mem_details (declaration : Declaration) (p : Point) :
    (∃ d ∈ declaration.details, p ∈ d) ↔ p ∈ declaration := by
  rw [← mem_regions]
  constructor
  · intro h
    rcases h with ⟨d, hd, hp⟩
    obtain ⟨r, hr, rfl⟩ := List.mem_map.1 hd
    exact ⟨r, hr, hp⟩
  · intro h
    rcases h with ⟨r, hr, hp⟩
    exact ⟨_, List.mem_map_of_mem hr, hp⟩

theorem Declaration.said_of_mem_details {declaration : Declaration} {d : Detail}
    (hd : d ∈ declaration.details) :
    d.windows = declaration.windows ∧ d.payload = declaration.payload := by
  obtain ⟨r, _, rfl⟩ := List.mem_map.1 hd
  exact ⟨rfl, rfl⟩

theorem find?_details {p : Point} {d : Detail}
    (h : (declarations.flatMap Declaration.details).find? (p ∈ ·) = some d) :
    ∃ declaration, declarations.find? (p ∈ ·) = some declaration ∧ d ∈ declaration.details := by
  induction declarations with
  | nil => simp at h
  | cons declaration rest ih =>
      rw [List.flatMap_cons, List.find?_append] at h
      -- The details of a declaration come in front of those of the later ones.
      cases here : declaration.details.find? (p ∈ ·) with
      | some e =>
          simp only [here, Option.some_or, Option.some.injEq] at h
          subst h
          have member := List.mem_of_find?_eq_some here
          have covered : p ∈ declaration :=
            (declaration.exists_mem_details p).1 ⟨e, member, by simpa using List.find?_some here⟩
          exact ⟨declaration, by simp [covered], member⟩
      | none =>
          simp only [here, Option.none_or] at h
          obtain ⟨later, hlater, member⟩ := ih h
          have uncovered : ¬p ∈ declaration := by
            rw [← declaration.exists_mem_details p]
            intro h
            rcases h with ⟨e, he, hp⟩
            exact absurd hp (by simpa using List.find?_eq_none.1 here e he)
          exact ⟨later, by simpa [uncovered] using hlater, member⟩

theorem flatten_perm :
    (flatten declarations).Perm
      (Flattening.claimAll (declarations.flatMap Declaration.details)) :=
  Order.sortBy_perm _ _

theorem flatten_resolvedAt (p : Point) :
    Flattening.ResolvedAt p (declarations.flatMap Declaration.details) (flatten declarations) :=
  (Flattening.resolvedAt_claimAll p _).congr fun _ => (flatten_perm declarations).mem_iff

theorem tiling_flatten (ordered : ∀ d ∈ declarations, d.Ordered) :
    Detail.Tiling (flatten declarations) := by
  have orderedDetails : ∀ d ∈ declarations.flatMap Declaration.details, d.region.Ordered := by
    intro d hd
    obtain ⟨declaration, hdeclaration, hd⟩ := List.mem_flatMap.1 hd
    exact Declaration.ordered_of_mem_details (ordered declaration hdeclaration) d hd
  have tiling := Flattening.tiling_claimAll _ orderedDetails
  constructor
  · intro d hd
    exact tiling.ordered d ((flatten_perm declarations).mem_iff.1 hd)
  · exact ((flatten_perm declarations).pairwise_iff Apart.symm).2 tiling.apart

theorem exists_mem_flatten (p : Point) :
    (∃ d ∈ flatten declarations, p ∈ d) ↔ ∃ d ∈ declarations, p ∈ d := by
  rw [(flatten_resolvedAt declarations p).exists_mem_iff]
  simp only [← Declaration.exists_mem_details, List.mem_flatMap]
  constructor
  · intro h
    rcases h with ⟨d, ⟨declaration, hdeclaration, hd⟩, hp⟩
    exact ⟨declaration, hdeclaration, d, hd, hp⟩
  · intro h
    rcases h with ⟨declaration, hdeclaration, d, hd, hp⟩
    exact ⟨d, ⟨declaration, hdeclaration, hd⟩, hp⟩

theorem find?_of_mem_flatten {p : Point} {d : Detail} (hd : d ∈ flatten declarations)
    (hp : p ∈ d) :
    ∃ declaration, declarations.find? (p ∈ ·) = some declaration ∧
      d.windows = declaration.windows ∧
      (declaration.payload.criteria? = none → d.payload = declaration.payload) := by
  rcases (flatten_resolvedAt declarations p).exists_find? hd hp with
    ⟨first, found, windowsHere, payloadHere⟩
  obtain ⟨declaration, hdeclaration, member⟩ := find?_details declarations found
  obtain ⟨windows, payload⟩ := Declaration.said_of_mem_details member
  rw [windows] at windowsHere
  rw [payload] at payloadHere
  exact ⟨declaration, hdeclaration, windowsHere, payloadHere⟩

theorem exists_mem_flatten_of_find? {p : Point} {declaration : Declaration}
    (h : declarations.find? (p ∈ ·) = some declaration) :
    ∃ d ∈ flatten declarations, p ∈ d ∧ d.windows = declaration.windows ∧
      (declaration.payload.criteria? = none → d.payload = declaration.payload) := by
  have covered : ∃ e ∈ declarations, p ∈ e :=
    ⟨declaration, List.mem_of_find?_eq_some h, by simpa using List.find?_some h⟩
  obtain ⟨d, hd, hp⟩ := (exists_mem_flatten declarations p).2 covered
  obtain ⟨found, hfound, windows, payload⟩ := find?_of_mem_flatten declarations hd hp
  obtain rfl : declaration = found := Option.some.inj (h.symm.trans hfound)
  exact ⟨d, hd, hp, windows, payload⟩

theorem payloadAt?_flatten (plain : ∀ d ∈ declarations, d.payload.criteria? = none) (p : Point) :
    Detail.payloadAt? (flatten declarations) p =
      (declarations.find? (p ∈ ·)).map Declaration.payload := by
  unfold Detail.payloadAt?
  cases found : (flatten declarations).find? (p ∈ ·) with
  | none =>
      have uncovered : ¬∃ d ∈ declarations, p ∈ d := by
        rw [← exists_mem_flatten]
        simpa using found
      have missing : declarations.find? (p ∈ ·) = none := by simpa using uncovered
      simp [missing]
  | some d =>
      obtain ⟨declaration, hdeclaration, _, payload⟩ := find?_of_mem_flatten declarations
        (List.mem_of_find?_eq_some found) (by simpa using List.find?_some found)
      have said := payload (plain declaration (List.mem_of_find?_eq_some hdeclaration))
      simp [hdeclaration, said]

/-- First match wins. Where a point is covered, the details at that point have the windows of the
first detail stated there, and its payload unless that is criteria; criteria stated there stack in
their order. -/
theorem flatten_first_match (p : Point) :
    match (declarations.flatMap Declaration.details).filter (p ∈ ·) with
    | [] => ∀ d ∈ flatten declarations, ¬p ∈ d
    | first :: later =>
        let parts := (first :: later).filterMap fun d => d.payload.criteria?
        (∃ d ∈ flatten declarations, p ∈ d) ∧
          ∀ d ∈ flatten declarations, p ∈ d →
            d.windows = first.windows ∧
              d.payload = match first.payload with
                | .criteria _ =>
                    .criteria ⟨parts.flatMap CriteriaStack.criteria,
                      parts.all CriteriaStack.isApproved⟩
                | other => other := by
  have resolved := flatten_resolvedAt declarations p
  unfold Flattening.ResolvedAt at resolved
  split
  · rename_i covering
    simpa only [covering] using resolved
  · rename_i first later covering
    simp only [covering] at resolved
    refine ⟨resolved.1, ?_⟩
    intro d hd hp
    obtain ⟨windows, payload⟩ := resolved.2 d hd hp
    refine ⟨windows, payload.trans ?_⟩
    cases stated : first.payload with
    | criteria stack =>
        simp [Payload.stackedWith, CriteriaStack.ofAll, Payload.criteria?, stated,
          List.filterMap_map, Function.comp_def]
    | empty | value | approval => rfl

/-- The details tile what is declared: a declared point lies in exactly one of them and every other
point in none, no span of theirs is reversed, and they come in the order of their badge ids. -/
theorem flatten_tiles (ordered : ∀ d ∈ declarations, d.Ordered) :
    (∀ p : Point, (flatten declarations).countP (p ∈ ·) =
        if ∃ d ∈ declarations, p ∈ d then 1 else 0) ∧
      (∀ d ∈ flatten declarations, d.region.Ordered) ∧
      (flatten declarations).Pairwise fun d e =>
        d.region.badgeIds.start ≤ e.region.badgeIds.start := by
  have tiling := tiling_flatten declarations ordered
  refine ⟨?_, tiling.ordered, ?_⟩
  · intro p
    split
    · rename_i covered
      exact Detail.countP_mem_eq_one tiling.apart p ((exists_mem_flatten declarations p).2 covered)
    · rename_i uncovered
      refine Detail.countP_mem_eq_zero p fun covered => uncovered ?_
      exact (exists_mem_flatten declarations p).1 covered
  · have sorted := Order.pairwise_sortBy Flattening.before Flattening.before_total
      Flattening.before_trans (Flattening.claimAll (declarations.flatMap Declaration.details))
    exact sorted.imp of_decide_eq_true

end Declarations

section Stacking

def criteriaOn (badgeIds : List Span) : Declaration :=
  { Declaration.everywhere (.criteria (.single default)) with badgeIds }

def stackingDeclarations : List Declaration := [criteriaOn [⟨1, 10⟩], criteriaOn [⟨5, 15⟩]]

def mintPoint (badgeId : Nat) : Point := ⟨badgeId, 1, 1, 1, "Alice", "Mint", "Alice", "mint", "", ""⟩

theorem stackingDeclarations_tile :
    (∀ d ∈ stackingDeclarations, d.Ordered) ∧
      (flatten stackingDeclarations).countP (mintPoint 7 ∈ ·) = 1 ∧
      (flatten stackingDeclarations).countP (mintPoint 20 ∈ ·) = 0 := by
  have ordered : ∀ d ∈ stackingDeclarations, d.Ordered := by decide
  have tiles := flatten_tiles stackingDeclarations ordered
  refine ⟨ordered, ?_, ?_⟩
  · rw [tiles.1, if_pos (by decide)]
  · rw [tiles.1, if_neg (by decide)]

end Stacking

end BadgeRights
