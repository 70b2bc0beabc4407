import BadgeRights.Proofs.Faults
import BadgeRights.Proofs.Lock
import BadgeRights.Proofs.Outcome

set_option autoImplicit false

namespace BadgeRights

/-- Two valid lists of the same naturals, unless the lists are the same. -/
def Spans.Alike (spans others : List Span) : Prop :=
  spans = others ∨ (Valid spans ∧ Valid others ∧ ∀ n, Mem n spans ↔ Mem n others)

namespace Spans.Alike

variable {spans others : List Span}

theorem of_merge_eq (valid : Valid spans) (validToo : Valid others)
    (same : merge spans = merge others) : Alike spans others :=
  .inr ⟨valid, validToo, mem_iff_of_merge_eq same⟩

theorem mem_iff (alike : Alike spans others) (n : Nat) : Mem n spans ↔ Mem n others := by
  rcases alike with rfl | ⟨_, _, same⟩
  · exact Iff.rfl
  · exact same n

theorem valid_iff (alike : Alike spans others) : Valid spans ↔ Valid others := by
  rcases alike with rfl | ⟨valid, validToo, _⟩
  · exact Iff.rfl
  · exact iff_of_true valid validToo

theorem eq_nil_iff (alike : Alike spans others) : spans = [] ↔ others = [] := by
  rcases alike with rfl | ⟨valid, validToo, same⟩
  · exact Iff.rfl
  · rw [valid.ordered.eq_nil_iff, validToo.ordered.eq_nil_iff]
    simp only [same]

theorem faultClass?_checkedSpans (alike : Alike spans others) :
    (Permission.checkedSpans spans).faultClass? = (Permission.checkedSpans others).faultClass? := by
  rcases alike with rfl | ⟨valid, validToo, _⟩
  · rfl
  · rw [Permission.checkedSpans_of_valid valid, Permission.checkedSpans_of_valid validToo]
    rfl

end Spans.Alike

structure Windows.Alike (w v : Windows) : Prop where
  permitted : Spans.Alike w.permitted v.permitted
  forbidden : Spans.Alike w.forbidden v.forbidden

structure TransferTerms.Alike (terms others : TransferTerms) : Prop where
  initiatedByListId : terms.initiatedByListId = others.initiatedByListId
  transferTimes : Spans.Alike terms.transferTimes others.transferTimes
  badgeIds : Spans.Alike terms.badgeIds others.badgeIds
  ownershipTimes : Spans.Alike terms.ownershipTimes others.ownershipTimes
  approvalId : terms.approvalId = others.approvalId
  amountTrackerId : terms.amountTrackerId = others.amountTrackerId
  challengeTrackerId : terms.challengeTrackerId = others.challengeTrackerId

structure ApprovalPermission.Alike (q r : ApprovalPermission) : Prop where
  fromListId : q.fromListId = r.fromListId
  toListId : q.toListId = r.toListId
  terms : q.terms.Alike r.terms
  windows : q.windows.Alike r.windows

structure CollectionApproval.Alike (a b : CollectionApproval) : Prop where
  fromListId : a.fromListId = b.fromListId
  toListId : a.toListId = b.toListId
  terms : a.terms.Alike b.terms
  value : a.value = b.value

/-- The same approvals up to their order and the way in which the spans of their terms are written. -/
def CollectionApproval.Rewritten (approvals others : List CollectionApproval) : Prop :=
  ∃ reordered, approvals.Perm reordered ∧ List.Forall₂ Alike reordered others

namespace Resolver

variable {resolve other : Resolver} {id : String}

def AgreeAt (resolve other : Resolver) (id : String) : Prop :=
  match resolve id, other id with
  | .ok l, .ok m => ∀ a, a ∈ l ↔ a ∈ m
  | .error f, .error g => f.cls = g.cls
  | _, _ => False

theorem AgreeAt.cases (agree : resolve.AgreeAt other id) :
    (∃ l m, resolve id = .ok l ∧ other id = .ok m ∧ ∀ a, a ∈ l ↔ a ∈ m) ∨
      ∃ f g, resolve id = .error f ∧ other id = .error g ∧ f.cls = g.cls := by
  unfold AgreeAt at agree
  split at agree
  · rename_i l m hl hm
    exact .inl ⟨l, m, hl, hm, agree⟩
  · rename_i f g hf hg
    exact .inr ⟨f, g, hf, hg, agree⟩
  · exact agree.elim

theorem AgreeAt.faultClass?_eq (agree : resolve.AgreeAt other id) :
    (resolve id).faultClass? = (other id).faultClass? := by
  rcases agree.cases with ⟨l, m, hl, hm, _⟩ | ⟨f, g, hf, hg, same⟩
  · rw [hl, hm]
    rfl
  · rw [hf, hg]
    exact congrArg some same

theorem AgreeAt.exists_ok_iff (agree : resolve.AgreeAt other id) :
    (∃ l, resolve id = .ok l) ↔ ∃ l, other id = .ok l := by
  rcases agree.cases with ⟨l, m, hl, hm, _⟩ | ⟨f, g, hf, hg, _⟩
  · simp [hl, hm]
  · simp [hf, hg]

theorem AgreeAt.holds_iff (agree : resolve.AgreeAt other id) (address : String) :
    resolve.Holds id address ↔ other.Holds id address := by
  rcases agree.cases with ⟨l, m, hl, hm, same⟩ | ⟨f, g, hf, hg, _⟩
  · rw [Resolver.holds_iff hl, Resolver.holds_iff hm, same]
  · simp [Holds, hf, hg, Except.toOption]

theorem AgreeAt.empty_iff (agree : resolve.AgreeAt other id) :
    resolve.Empty id ↔ other.Empty id := by
  rcases agree.cases with ⟨l, m, hl, hm, same⟩ | ⟨f, g, hf, hg, _⟩
  · rw [← not_iff_not, Resolver.not_empty_iff hl, Resolver.not_empty_iff hm]
    simp only [same]
  · simp [Empty, hf, hg, Except.toOption]

end Resolver

section Terms

variable {resolve other : Resolver}

theorem TransferTerms.Alike.cover_iff {terms others : TransferTerms} (alike : terms.Alike others)
    {fromListId toListId : String}
    (agree : ∀ id ∈ [fromListId, toListId, terms.initiatedByListId], resolve.AgreeAt other id)
    (p : Point) :
    terms.Cover resolve fromListId toListId p ↔ others.Cover other fromListId toListId p := by
  simp only [List.forall_mem_cons] at agree
  obtain ⟨sender, recipient, initiator, _⟩ := agree
  simp only [TransferTerms.Cover, alike.badgeIds.mem_iff, alike.transferTimes.mem_iff,
    alike.ownershipTimes.mem_iff, recipient.holds_iff, sender.holds_iff, initiator.holds_iff,
    ← alike.initiatedByListId, alike.approvalId, alike.amountTrackerId, alike.challengeTrackerId]

end Terms

namespace CollectionApproval

variable {resolve other : Resolver} {a b : CollectionApproval}

structure Matches (resolve other : Resolver) (a b : CollectionApproval) : Prop where
  alike : a.Alike b
  agree : ∀ id ∈ a.listIds, resolve.AgreeAt other id

namespace Matches

theorem listIds_eq (same : Matches resolve other a b) : a.listIds = b.listIds := by
  simp only [listIds, same.alike.fromListId, same.alike.toListId, same.alike.terms.initiatedByListId]

theorem covers_iff (same : Matches resolve other a b) (p : Point) :
    a.Covers resolve p ↔ b.Covers other p := by
  rw [Covers, Covers, ← same.alike.fromListId, ← same.alike.toListId]
  exact same.alike.terms.cover_iff same.agree p

theorem wellFormed_iff (same : Matches resolve other a b) :
    a.WellFormed resolve ↔ b.WellFormed other := by
  have terms := same.alike.terms
  have lists : (∀ id ∈ a.listIds, ∃ l, resolve id = .ok l) ↔
      ∀ id ∈ b.listIds, ∃ l, other id = .ok l := by
    rw [← same.listIds_eq]
    exact forall₂_congr fun id hid => (same.agree id hid).exists_ok_iff
  constructor
  · intro wellFormed
    exact ⟨lists.1 wellFormed.lists, terms.transferTimes.valid_iff.1 wellFormed.transferTimes,
      terms.badgeIds.valid_iff.1 wellFormed.badgeIds,
      terms.ownershipTimes.valid_iff.1 wellFormed.ownershipTimes⟩
  · intro wellFormed
    exact ⟨lists.2 wellFormed.lists, terms.transferTimes.valid_iff.2 wellFormed.transferTimes,
      terms.badgeIds.valid_iff.2 wellFormed.badgeIds,
      terms.ownershipTimes.valid_iff.2 wellFormed.ownershipTimes⟩

theorem isVoid_iff (same : Matches resolve other a b) : a.IsVoid resolve ↔ b.IsVoid other := by
  have terms := same.alike.terms
  have empties : (∃ id ∈ a.listIds, resolve.Empty id) ↔ ∃ id ∈ b.listIds, other.Empty id := by
    rw [← same.listIds_eq]
    exact exists_congr fun id => and_congr_right fun hid => (same.agree id hid).empty_iff
  simp only [IsVoid, ne_eq, terms.badgeIds.eq_nil_iff, terms.transferTimes.eq_nil_iff,
    terms.ownershipTimes.eq_nil_iff, empties]

end Matches

section Lists

variable {approvals others : List CollectionApproval}

theorem Rewritten.exists_mem_iff (rewritten : Rewritten approvals others)
    (agree : ∀ a ∈ approvals, ∀ id ∈ a.listIds, resolve.AgreeAt other id)
    {holds holdsToo : CollectionApproval → Prop}
    (same : ∀ a b, Matches resolve other a b → (holds a ↔ holdsToo b)) :
    (∃ a ∈ approvals, holds a) ↔ ∃ b ∈ others, holdsToo b := by
  rcases rewritten with ⟨reordered, perm, alike⟩
  -- Reordering keeps the members, so that only the entries that correspond have to be compared.
  have agreeing : ∀ a ∈ reordered, ∀ id ∈ a.listIds, resolve.AgreeAt other id :=
    fun a ha => agree a (perm.mem_iff.2 ha)
  have matching := (List.forall₂_and_left _ _).2 ⟨agreeing, alike⟩
  simp only [perm.mem_iff]
  exact exists_mem_iff_of_forall₂ matching fun a b ⟨agree, alike⟩ => same a b ⟨alike, agree⟩

theorem Rewritten.forall_mem_iff (rewritten : Rewritten approvals others)
    (agree : ∀ a ∈ approvals, ∀ id ∈ a.listIds, resolve.AgreeAt other id)
    {holds holdsToo : CollectionApproval → Prop}
    (same : ∀ a b, Matches resolve other a b → (holds a ↔ holdsToo b)) :
    (∀ a ∈ approvals, holds a) ↔ ∀ b ∈ others, holdsToo b := by
  have violated := rewritten.exists_mem_iff agree fun a b h => not_congr (same a b h)
  rw [← not_iff_not]
  simpa only [not_forall, exists_prop] using violated

theorem Rewritten.nodup_iff (rewritten : Rewritten approvals others) :
    (approvals.map fun a => a.terms.approvalId).Nodup ↔
      (others.map fun a => a.terms.approvalId).Nodup := by
  rcases rewritten with ⟨reordered, perm, alike⟩
  have ids : reordered.map (fun a => a.terms.approvalId) =
      others.map fun a => a.terms.approvalId := by
    -- The permutation would be generalized along with the lists.
    clear perm
    induction alike with
    | nil => rfl
    | cons first _ ih => rw [List.map_cons, List.map_cons, first.terms.approvalId, ih]
  rw [(perm.map _).nodup_iff, ids]

theorem Rewritten.exists_expand_iff (rewritten : Rewritten approvals others)
    (agree : ∀ a ∈ approvals, ∀ id ∈ a.listIds, resolve.AgreeAt other id) :
    (∃ expanded, expand resolve approvals = .ok expanded) ↔
      ∃ expanded, expand other others = .ok expanded := by
  unfold expand
  rw [exists_expandAfter_iff, exists_expandAfter_iff, rewritten.nodup_iff]
  refine and_congr_right fun _ => rewritten.forall_mem_iff agree fun a b same => ?_
  rw [same.alike.terms.approvalId, same.wellFormed_iff]

variable {before beforeToo : List ExpandedApproval}

theorem Rewritten.valueAt?_eq (rewritten : Rewritten approvals others)
    (agree : ∀ a ∈ approvals, ∀ id ∈ a.listIds, resolve.AgreeAt other id)
    (hbefore : expand resolve approvals = .ok before)
    (hbeforeToo : expand other others = .ok beforeToo) (p : Point) :
    valueAt? resolve approvals p = valueAt? other others p := by
  apply Option.ext
  intro v
  rw [valueAt?_eq_some_iff hbefore, valueAt?_eq_some_iff hbeforeToo]
  refine rewritten.exists_mem_iff agree fun a b same => ?_
  rw [same.covers_iff p, same.alike.value]

end Lists

end CollectionApproval

structure Declaration.Alike (d e : Declaration) : Prop where
  mem_iff : ∀ p : Point, p ∈ d ↔ p ∈ e
  windows : d.windows.Alike e.windows
  valid : d.windows.Valid
  validToo : e.windows.Valid

theorem Declaration.Alike.faultClass?_checkWindows {d e : Declaration} (alike : d.Alike e)
    (kind : PermissionKind) :
    (Permission.checkWindows kind d.windows).faultClass? =
      (Permission.checkWindows kind e.windows).faultClass? := by
  have apart : Spans.intersection d.windows.permitted d.windows.forbidden = [] ↔
      Spans.intersection e.windows.permitted e.windows.forbidden = [] := by
    rw [Spans.intersection_eq_nil_iff alike.valid.1.ordered alike.valid.2.ordered,
      Spans.intersection_eq_nil_iff alike.validToo.1.ordered alike.validToo.2.ordered]
    simp only [alike.windows.permitted.mem_iff, alike.windows.forbidden.mem_iff]
  rw [Permission.faultClass?_checkWindows, Permission.faultClass?_checkWindows]
  exact if_congr apart rfl rfl

section Declared

variable {declarations others : List Declaration}

theorem forbiddenAt_iff_of_alike (alike : List.Forall₂ Declaration.Alike declarations others)
    (now : Nat) (p : Point) : ForbiddenAt declarations now p ↔ ForbiddenAt others now p := by
  refine exists_find?_iff_of_forall₂ alike ?_ ?_
  · intro d e same
    simp [same.mem_iff]
  · intro d e same
    exact same.windows.forbidden.mem_iff now

theorem permittedAt_iff_of_alike (alike : List.Forall₂ Declaration.Alike declarations others)
    (now : Nat) (p : Point) : PermittedAt declarations now p ↔ PermittedAt others now p := by
  refine exists_find?_iff_of_forall₂ alike ?_ ?_
  · intro d e same
    simp [same.mem_iff]
  · intro d e same
    exact same.windows.permitted.mem_iff now

end Declared

namespace ApprovalPermission

variable {resolve other : Resolver} {q r : ApprovalPermission}

structure Matches (resolve other : Resolver) (q r : ApprovalPermission) : Prop where
  alike : q.Alike r
  agree : ∀ id ∈ q.listIds, resolve.AgreeAt other id

open Checked Permission

theorem Matches.faultClass?_toDeclaration (same : Matches resolve other q r) :
    (toDeclaration resolve q).faultClass? = (toDeclaration other r).faultClass? := by
  have terms := same.alike.terms
  have windows := same.alike.windows
  have agree := same.agree
  simp only [listIds, List.forall_mem_cons] at agree
  obtain ⟨sender, recipient, initiator, _⟩ := agree
  have windowFaults : (checkedWindows q.windows).faultClass? =
      (checkedWindows r.windows).faultClass? := by
    refine faultClass?_bind windows.permitted.faultClass?_checkedSpans fun _ _ _ _ => ?_
    exact faultClass?_bind windows.forbidden.faultClass?_checkedSpans fun _ _ _ _ => rfl
  simp only [toDeclaration, ← same.alike.fromListId, ← same.alike.toListId,
    ← terms.initiatedByListId]
  -- Both sides check the same things in the same order, and every check fails alike on them.
  refine faultClass?_bind terms.badgeIds.faultClass?_checkedSpans fun _ _ _ _ => ?_
  refine faultClass?_bind terms.transferTimes.faultClass?_checkedSpans fun _ _ _ _ => ?_
  refine faultClass?_bind terms.ownershipTimes.faultClass?_checkedSpans fun _ _ _ _ => ?_
  refine faultClass?_bind recipient.faultClass?_eq fun _ _ _ _ => ?_
  refine faultClass?_bind sender.faultClass?_eq fun _ _ _ _ => ?_
  refine faultClass?_bind initiator.faultClass?_eq fun _ _ _ _ => ?_
  exact faultClass?_bind windowFaults fun _ _ _ _ => rfl

theorem Matches.declared (same : Matches resolve other q r) {d e : Declaration}
    (hd : toDeclaration resolve q = .ok d) (he : toDeclaration other r = .ok e) : d.Alike e := by
  have states := LawfulPermission.declared hd
  have statesToo := LawfulPermission.declared he
  refine ⟨?_, ?_, ?_, ?_⟩
  · intro p
    rw [states.mem_iff, statesToo.mem_iff]
    change q.terms.Cover resolve _ _ p ↔ r.terms.Cover other _ _ p
    rw [← same.alike.fromListId, ← same.alike.toListId]
    exact same.alike.terms.cover_iff same.agree p
  · rw [states.windows, statesToo.windows]
    exact same.alike.windows
  · rw [states.windows]
    exact states.valid
  · rw [statesToo.windows]
    exact statesToo.valid

section Lists

variable {permissions others : List ApprovalPermission} {kind : PermissionKind}

theorem faultClass?_declare
    (matching : List.Forall₂ (Matches resolve other) permissions others) :
    (declare kind resolve permissions).faultClass? = (declare kind other others).faultClass? := by
  refine faultClass?_bind (faultClass?_mapM matching fun q r same =>
    same.faultClass?_toDeclaration) fun ds es hds hes => ?_
  have alike := forall₂_of_mapM matching hds hes fun _ _ _ _ same => same.declared
  exact faultClass?_bind
    (faultClass?_forM alike fun d e same => same.faultClass?_checkWindows kind) fun _ _ _ _ => rfl

theorem declare_alike (matching : List.Forall₂ (Matches resolve other) permissions others)
    {declarations declarationsToo : List Declaration}
    (declared : declare kind resolve permissions = .ok declarations)
    (declaredToo : declare kind other others = .ok declarationsToo) :
    List.Forall₂ Declaration.Alike declarations declarationsToo :=
  forall₂_of_mapM matching (declare_eq_ok.1 declared).1 (declare_eq_ok.1 declaredToo).1
    fun _ _ _ _ same => same.declared

end Lists

end ApprovalPermission

namespace Update

open CollectionApproval

theorem outcome_congr {x y : Checked Verdict} (faults : x.faultClass? = y.faultClass?)
    (kinds : ∀ v w, x = .ok v → y = .ok w → v.kind? = w.kind?) : outcome x = outcome y := by
  cases x with
  | error f =>
      cases y with
      | error g => exact congrArg Except.error (Option.some.inj faults)
      | ok w => cases faults
  | ok v =>
      cases y with
      | error g => cases faults
      | ok w => exact congrArg Except.ok (kinds v w rfl rfl)

section Expanded

variable {resolve other : Resolver} {approvals others : List CollectionApproval}
  {before beforeToo : List ExpandedApproval} (rewritten : Rewritten approvals others)
  (agree : ∀ a ∈ approvals, ∀ id ∈ a.listIds, resolve.AgreeAt other id)
  (hbefore : expand resolve approvals = .ok before)
  (hbeforeToo : expand other others = .ok beforeToo)

include rewritten agree hbefore hbeforeToo

theorem payloadAt?_eq_of_rewritten (p : Point) :
    Detail.payloadAt? (flattenApprovals before) p =
      Detail.payloadAt? (flattenApprovals beforeToo) p := by
  rw [payloadAt?_of_expand hbefore, payloadAt?_of_expand hbeforeToo,
    rewritten.valueAt?_eq agree hbefore hbeforeToo]

theorem inhabited_iff_of_rewritten :
    (∀ d ∈ flattenApprovals before, ∃ p : Point, p ∈ d) ↔
      ∀ d ∈ flattenApprovals beforeToo, ∃ p : Point, p ∈ d := by
  rw [inhabited_flattenApprovals_iff hbefore, inhabited_flattenApprovals_iff hbeforeToo]
  exact rewritten.forall_mem_iff agree fun a b same => not_congr same.isVoid_iff

end Expanded

/-- The outcome of an update of approvals stays as it is when approvals change places, the spans of
terms and windows are cut otherwise, and lists of the same members stand for the ids. -/
theorem outcome_of_denotation {old oldToo new newToo : List CollectionApproval}
    {permissions permissionsToo : List ApprovalPermission} {resolve other : Resolver}
    (stance : Stance) (faults : resolve.InputFaults) (faultsToo : other.InputFaults)
    (rewrittenOld : Rewritten old oldToo) (rewrittenNew : Rewritten new newToo)
    (alike : List.Forall₂ ApprovalPermission.Alike permissions permissionsToo)
    (agree : ∀ id ∈ (old ++ new).flatMap CollectionApproval.listIds ++
      permissions.flatMap ApprovalPermission.listIds, resolve.AgreeAt other id) :
    outcome (collectionApprovals old new permissions resolve stance) =
      outcome (collectionApprovals oldToo newToo permissionsToo other stance) := by
  simp only [List.forall_mem_append, List.flatMap_append, List.forall_mem_flatMap] at agree
  obtain ⟨⟨agreeOld, agreeNew⟩, agreePermissions⟩ := agree
  have matching : List.Forall₂ (ApprovalPermission.Matches resolve other) permissions
      permissionsToo :=
    ((List.forall₂_and_left _ _).2 ⟨agreePermissions, alike⟩).imp fun _ _ h => ⟨h.2, h.1⟩
  apply outcome_congr
  · -- Permuted approvals may fail at different entries, but the fault is relabelled for the side.
    refine Checked.faultClass?_bind (Checked.faultClass?_mapError (fun _ => Fault.cls_inOld)
      (inputFaults_expandAfter faults [] old) (inputFaults_expandAfter faultsToo [] oldToo)
      (rewrittenOld.exists_expand_iff agreeOld)) fun _ _ _ _ => ?_
    refine Checked.faultClass?_bind (Checked.faultClass?_mapError (fun _ => Fault.cls_inNew)
      (inputFaults_expandAfter faults [] new) (inputFaults_expandAfter faultsToo [] newToo)
      (rewrittenNew.exists_expand_iff agreeNew)) fun _ _ _ _ => ?_
    exact Checked.faultClass?_bind (ApprovalPermission.faultClass?_declare matching)
      fun _ _ _ _ => rfl
  · -- The two checks see the changed points, and what is forbidden and permitted at them.
    intro v w answered answeredToo
    obtain ⟨before, after, declarations, hbefore, hafter, declared, rfl⟩ :=
      approvals_eq_ok.1 answered
    obtain ⟨beforeToo, afterToo, declarationsToo, hbeforeToo, hafterToo, declaredToo, rfl⟩ :=
      approvals_eq_ok.1 answeredToo
    have declaredAlike := ApprovalPermission.declare_alike matching declared declaredToo
    apply kind?_changedRegions_congr (tiling_flattenApprovals hbefore)
      (tiling_flattenApprovals hafter) (tiling_flattenApprovals hbeforeToo)
      (tiling_flattenApprovals hafterToo) (Permission.ordered_of_declare declared)
      (Permission.ordered_of_declare declaredToo)
    · intro p
      rw [payloadAt?_eq_of_rewritten rewrittenOld agreeOld hbefore hbeforeToo,
        payloadAt?_eq_of_rewritten rewrittenNew agreeNew hafter hafterToo]
    · rw [List.forall_mem_append, List.forall_mem_append,
        inhabited_iff_of_rewritten rewrittenOld agreeOld hbefore hbeforeToo,
        inhabited_iff_of_rewritten rewrittenNew agreeNew hafter hafterToo]
    · exact forbiddenAt_iff_of_alike declaredAlike stance.now
    · exact permittedAt_iff_of_alike declaredAlike stance.now

section Reordering

open Governed

def mintersResolver : Resolver :=
  fun id => .ok (if id = "Mint" then ⟨"minters", ["Mint", "Mint"], true, "", "", ""⟩ else .everyone)

def secondMint (badgeIds : List Span) : CollectionApproval :=
  ⟨"Mint", "All", mintTerms badgeIds "second", default⟩

theorem mintersResolver_agree (id : String) : mintResolver.AgreeAt mintersResolver id := by
  by_cases mint : id = "Mint" <;>
    simp [Resolver.AgreeAt, mintResolver, mintersResolver, mint, AddressList.mem_def,
      AddressList.mintOnly, AddressList.only, AddressList.withId, Address.mint]

theorem mintTerms_alike {badgeIds others : List Span} (approvalId : String)
    (alike : Spans.Alike badgeIds others) :
    (mintTerms badgeIds approvalId).Alike (mintTerms others approvalId) :=
  ⟨rfl, .inl rfl, alike, .inl rfl, rfl, rfl, rfl⟩

theorem reordering_keeps_outcome :
    Rewritten [mintApproval [⟨1, 20⟩], secondMint [⟨5, 9⟩]]
        [secondMint [⟨5, 9⟩], mintApproval [⟨8, 20⟩, ⟨1, 10⟩]] ∧
      (∀ id, mintResolver.AgreeAt mintersResolver id) ∧
      outcome (collectionApprovals [mintApproval [⟨1, 20⟩], secondMint [⟨5, 9⟩]] []
        lockedMint.permissions mintResolver ⟨1000, .neutral⟩) = .ok (some .forbidden) ∧
      outcome (collectionApprovals [secondMint [⟨5, 9⟩], mintApproval [⟨8, 20⟩, ⟨1, 10⟩]] []
        [mintPermission [⟨6, 10⟩, ⟨1, 5⟩] ⟨[], [.full]⟩] mintersResolver ⟨1000, .neutral⟩) =
          .ok (some .forbidden) := by
  have cutTwenty : Spans.Alike [⟨1, 20⟩] [⟨8, 20⟩, ⟨1, 10⟩] :=
    .of_merge_eq (by decide) (by decide) (by decide)
  have cutTen : Spans.Alike [⟨1, 10⟩] [⟨6, 10⟩, ⟨1, 5⟩] :=
    .of_merge_eq (by decide) (by decide) (by decide)
  have rewritten : Rewritten [mintApproval [⟨1, 20⟩], secondMint [⟨5, 9⟩]]
      [secondMint [⟨5, 9⟩], mintApproval [⟨8, 20⟩, ⟨1, 10⟩]] := by
    refine ⟨[secondMint [⟨5, 9⟩], mintApproval [⟨1, 20⟩]], .swap _ _ _, .cons ?_ (.cons ?_ .nil)⟩
    · exact ⟨rfl, rfl, mintTerms_alike "second" (.inl rfl), rfl⟩
    · exact ⟨rfl, rfl, mintTerms_alike "mint" cutTwenty, rfl⟩
  have alike : List.Forall₂ ApprovalPermission.Alike lockedMint.permissions
      [mintPermission [⟨6, 10⟩, ⟨1, 5⟩] ⟨[], [.full]⟩] :=
    .cons ⟨rfl, rfl, mintTerms_alike "" cutTen, .inl rfl, .inl rfl⟩ .nil
  have denied : outcome (collectionApprovals [mintApproval [⟨1, 20⟩], secondMint [⟨5, 9⟩]] []
      lockedMint.permissions mintResolver ⟨1000, .neutral⟩) = .ok (some .forbidden) := by
    decide +kernel
  have same := outcome_of_denotation ⟨1000, .neutral⟩ (fun _ => Checked.inputFaults_ok _)
    (fun _ => Checked.inputFaults_ok _) rewritten ⟨[], .nil, .nil⟩ alike
    fun id _ => mintersResolver_agree id
  exact ⟨rewritten, mintersResolver_agree, denied, same ▸ denied⟩

end Reordering

section Criteria

def holdersApproval (held : List Span) : CollectionApproval where
  fromListId := "AllWithMint"
  toListId := "AllWithMint"
  terms := ⟨"AllWithMint", [.full], [⟨1, 20⟩], [.full], "holders", "", ""⟩
  body := { (default : ApprovalBody) with
    approvalCriteria := some { (default : Criteria) with
      mustOwnBadges := [{ (default : MustOwnBadges) with collectionId := 1, badgeIds := held }] } }

/-- Criteria are compared as they stand: spans of the same badges, cut otherwise, are a change. -/
theorem cutCriteria_denied :
    Spans.Alike [⟨1, 10⟩] [⟨1, 5⟩, ⟨6, 10⟩] ∧
      outcome (collectionApprovals [holdersApproval [⟨1, 10⟩]] [holdersApproval [⟨1, 10⟩]] []
        Resolver.reserved ⟨1000, .requirePermitted⟩) = .ok none ∧
      outcome (collectionApprovals [holdersApproval [⟨1, 5⟩, ⟨6, 10⟩]]
        [holdersApproval [⟨1, 10⟩]] [] Resolver.reserved ⟨1000, .requirePermitted⟩) =
          .ok (some .notPermitted) := by
  refine ⟨?_, ?_, ?_⟩
  · exact .of_merge_eq (by decide) (by decide) (by decide)
  · decide +kernel
  · decide +kernel

end Criteria

end Update

end BadgeRights
