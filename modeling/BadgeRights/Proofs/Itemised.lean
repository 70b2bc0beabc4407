import BadgeRights.Proofs.Faults

set_option autoImplicit false

namespace BadgeRights

open Checked

theorem Spans.valid_append {spans others : List Span} :
    Valid (spans ++ others) ↔ Valid spans ∧ Valid others :=
  List.forall_mem_append

theorem Spans.validate_append (spans others : List Span) :
    validate (spans ++ others) = (do validate spans; validate others) :=
  List.forM_append

namespace Resolver

variable {resolve : Resolver}

def Knows (resolve : Resolver) (id : String) : Prop := ∃ l, resolve id = .ok l

def check (resolve : Resolver) (id : String) : Checked Unit := do
  let _ ← resolve id
  return ()

theorem check_eq_ok {id : String} : resolve.check id = .ok () ↔ resolve.Knows id := by
  simp only [check, bind_eq_ok, pure_eq_ok, and_true]
  rfl

theorem IsStandard.failsAs_check (standard : resolve.IsStandard) (id : String) :
    (resolve.check id).FailsAs .notFound :=
  (standard.failsAs id).bind fun _ => failsAs_ok ()

end Resolver

def checkItems (resolve : Resolver) (spans : List Span) (ids : List String) (w : Windows) :
    Checked Unit := do
  Spans.validate spans
  ids.forM resolve.check
  Spans.validate w.permitted
  Spans.validate w.forbidden

open Permission in
class ItemisedPermission (P : Type) [Permission P] extends LawfulPermission P where
  spans : P → List Span
  lookups : P → List String
  checks (resolve : Resolver) (q : P) :
    (do let _ ← toDeclaration resolve q; return ()) =
      checkItems resolve (spans q) (lookups q) (windows q)
  wellFormed_iff {q : P} {resolve : Resolver} :
    WellFormed q resolve ↔
      Spans.Valid (spans q) ∧ (∀ id ∈ lookups q, resolve.Knows id) ∧ (windows q).Consistent

section Kinds

open Permission

instance : ItemisedPermission ActionPermission where
  spans _ := []
  lookups _ := []
  checks resolve q := by
    simp [toDeclaration, checkedWindows, checkedSpans, checkItems, LawfulPermission.windows,
      Spans.validate]
  wellFormed_iff := by
    simp [LawfulPermission.WellFormed, LawfulPermission.windows, Spans.Valid]

instance : ItemisedPermission TimedPermission where
  spans := TimedPermission.timelineTimes
  lookups _ := []
  checks resolve q := by
    simp [toDeclaration, checkedWindows, checkedSpans, checkItems, LawfulPermission.windows]
  wellFormed_iff {q resolve} := by
    refine ⟨fun h => ⟨h.timelineTimes, nofun, h.windows⟩, fun h => ⟨h.1, h.2.2⟩⟩

instance : ItemisedPermission BadgeTimedPermission where
  spans q := q.timelineTimes ++ q.badgeIds
  lookups _ := []
  checks resolve q := by
    simp [toDeclaration, checkedWindows, checkedSpans, checkItems, LawfulPermission.windows,
      Spans.validate_append]
  wellFormed_iff {q resolve} := by
    rw [Spans.valid_append]
    exact ⟨fun h => ⟨⟨h.timelineTimes, h.badgeIds⟩, nofun, h.windows⟩,
      fun h => ⟨h.1.1, h.1.2, h.2.2⟩⟩

instance : ItemisedPermission ApprovalPermission where
  spans q := q.terms.badgeIds ++ q.terms.transferTimes ++ q.terms.ownershipTimes
  lookups q := [q.toListId, q.fromListId, q.terms.initiatedByListId]
  checks resolve q := by
    simp [toDeclaration, checkedWindows, checkedSpans, checkItems, LawfulPermission.windows,
      Spans.validate_append, Resolver.check]
  wellFormed_iff {q resolve} := by
    rw [Spans.valid_append, Spans.valid_append, List.forall_mem_cons, List.forall_mem_cons,
      List.forall_mem_cons]
    exact ⟨fun h => ⟨⟨⟨h.badgeIds, h.transferTimes⟩, h.ownershipTimes⟩,
        ⟨h.toList, h.fromList, h.initiatedByList, nofun⟩, h.windows⟩,
      fun h => ⟨h.1.1.1, h.1.1.2, h.1.2, h.2.1.1, h.2.1.2.1, h.2.1.2.2.1, h.2.2⟩⟩

end Kinds

section Items

open Permission

variable {P : Type} [Permission P] [ItemisedPermission P] {resolve : Resolver} {q : P}

/-- Every item passes its check; permitted and forbidden windows may still have instants in common. -/
structure Declarable (q : P) (resolve : Resolver) : Prop where
  spans : Spans.Valid (ItemisedPermission.spans q)
  lists : ∀ id ∈ ItemisedPermission.lookups q, resolve.Knows id
  windows : (LawfulPermission.windows q).Valid

/-- The spans are valid, so that the lists are looked up, and one of them is not there. -/
structure MissesList (q : P) (resolve : Resolver) : Prop where
  spans : Spans.Valid (ItemisedPermission.spans q)
  unknown : ∃ id ∈ ItemisedPermission.lookups q, ¬resolve.Knows id

section Checks

variable {spans : List Span} {ids : List String} {w : Windows}

theorem checkItems_eq_ok :
    checkItems resolve spans ids w = .ok () ↔
      Spans.Valid spans ∧ (∀ id ∈ ids, resolve.Knows id) ∧ w.Valid := by
  simp only [checkItems, then_eq_ok, forM_eq_ok, Resolver.check_eq_ok, Spans.validate_eq_ok,
    Windows.Valid]

theorem inputFaults_checkItems (standard : resolve.IsStandard) :
    (checkItems resolve spans ids w).InputFaults := by
  refine (Spans.inputFaults_validate _).bind fun _ => ?_
  refine (inputFaults_forM (fun id => ?_) ids).bind fun _ => ?_
  · exact (standard.inputFaults id).bind fun _ => inputFaults_ok ()
  · exact (Spans.inputFaults_validate _).bind fun _ => Spans.inputFaults_validate _

theorem faultClass?_checkItems (standard : resolve.IsStandard) :
    (checkItems resolve spans ids w).faultClass? = some .notFound ↔
      Spans.Valid spans ∧ ∃ id ∈ ids, ¬resolve.Knows id := by
  have notSpans (spans : List Span) : (Spans.validate spans).faultClass? ≠ some .notFound := by
    simp [(Spans.failsAs_validate spans).faultClass?_eq_some_iff]
  have lists : (ids.forM resolve.check).faultClass? = some .notFound ↔
      ∃ id ∈ ids, ¬resolve.Knows id := by
    rw [(failsAs_forM standard.failsAs_check ids).faultClass?_eq_some_iff, Unique.exists_iff]
    change _ ∧ ¬ids.forM resolve.check = .ok () ↔ _
    rw [forM_eq_ok]
    simp [Resolver.check_eq_ok]
  simp only [checkItems, faultClass?_then_eq_some, notSpans, lists, Spans.validate_eq_ok, false_or,
    and_false, or_false]

end Checks

theorem faultClass?_toDeclaration (resolve : Resolver) (q : P) :
    (toDeclaration resolve q).faultClass? =
      (checkItems resolve (ItemisedPermission.spans q) (ItemisedPermission.lookups q)
        (LawfulPermission.windows q)).faultClass? := by
  rw [← ItemisedPermission.checks, faultClass?_bind_pure]

theorem exists_toDeclaration_iff :
    (∃ d, toDeclaration resolve q = .ok d) ↔ Declarable q resolve := by
  rw [← faultClass?_eq_none, faultClass?_toDeclaration, faultClass?_eq_none]
  refine Unique.exists_iff.trans (checkItems_eq_ok.trans ?_)
  exact ⟨fun h => ⟨h.1, h.2.1, h.2.2⟩, fun h => ⟨h.spans, h.lists, h.windows⟩⟩

theorem wellFormed_of_declared {d : Declaration} (h : toDeclaration resolve q = .ok d) :
    LawfulPermission.WellFormed q resolve ↔
      Spans.intersection d.windows.permitted d.windows.forbidden = [] := by
  have items := exists_toDeclaration_iff.1 ⟨d, h⟩
  rw [(LawfulPermission.declared h).windows, ItemisedPermission.wellFormed_iff,
    Windows.consistent_iff, and_iff_right items.spans, and_iff_right items.lists,
    and_iff_right items.windows.1, and_iff_right items.windows.2]

variable {kind : PermissionKind} {permissions : List P}

theorem exists_toDeclarations_iff :
    (∃ declarations, toDeclarations resolve permissions = .ok declarations) ↔
      ∀ q ∈ permissions, Declarable q resolve := by
  simp only [toDeclarations, exists_mapM_eq_ok, exists_toDeclaration_iff]

theorem exists_declare_iff :
    (∃ declarations, declare kind resolve permissions = .ok declarations) ↔
      ∀ q ∈ permissions, LawfulPermission.WellFormed q resolve := by
  refine ⟨fun h => ?_, exists_declare kind⟩
  rcases h with ⟨declarations, h⟩
  obtain ⟨declared, apart⟩ := declare_eq_ok.1 h
  intro q hq
  obtain ⟨d, hd, declares⟩ := exists_left_of_forall₂ (mapM_eq_ok.1 declared).flip hq
  exact (wellFormed_of_declared declares).2 (checkWindows_eq_ok.1 (apart d hd))

theorem failsAs_validate (declarations : List Declaration) :
    (validate kind declarations).FailsAs .invalid := by
  unfold validate
  exact failsAs_forM (fun d => failsAs_checkWindows kind d.windows) declarations

def MissesListFirst (permissions : List P) (resolve : Resolver) : Prop :=
  ∃ front q back, permissions = front ++ q :: back ∧ (∀ p ∈ front, Declarable p resolve) ∧
    MissesList q resolve

section Standard

variable (standard : resolve.IsStandard)

include standard

theorem inputFaults_toDeclarations : (toDeclarations resolve permissions).InputFaults := by
  refine inputFaults_mapM (fun q => ?_) permissions
  exact (inputFaults_checkItems standard).of_faultClass? (faultClass?_toDeclaration resolve q)

theorem toDeclarations_notFound_iff :
    (toDeclarations resolve permissions).faultClass? = some .notFound ↔
      MissesListFirst permissions resolve := by
  have missing (q : P) :
      (toDeclaration resolve q).faultClass? = some .notFound ↔ MissesList q resolve := by
    rw [faultClass?_toDeclaration, faultClass?_checkItems standard]
    exact ⟨fun h => ⟨h.1, h.2⟩, fun h => ⟨h.spans, h.unknown⟩⟩
  simp only [toDeclarations, faultClass?_mapM_eq_some, missing, exists_toDeclaration_iff]
  rfl

theorem inputFaults_declare : (declare kind resolve permissions).InputFaults := by
  refine (inputFaults_toDeclarations standard).bind fun declarations => ?_
  exact (failsAs_validate declarations).inputFaults.bind fun _ => inputFaults_ok _

theorem declare_notFound_iff :
    (declare kind resolve permissions).faultClass? = some .notFound ↔
      MissesListFirst permissions resolve := by
  -- Instants in common are a fault of another class, and looked for only once all is declared.
  have invalid (declarations : List Declaration) :
      (do validate kind declarations; return declarations : Checked _).faultClass? ≠
        some .notFound := by
    rw [faultClass?_bind_pure]
    simp [(failsAs_validate declarations).faultClass?_eq_some_iff]
  rw [declare, faultClass?_bind_eq_some, toDeclarations_notFound_iff standard]
  simp only [invalid, and_false, exists_false, or_false]

end Standard

end Items

end BadgeRights
