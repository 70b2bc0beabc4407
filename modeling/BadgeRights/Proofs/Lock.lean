import BadgeRights.Proofs.Approval
import BadgeRights.Proofs.Permanence

set_option autoImplicit false

namespace BadgeRights

def ApprovalPermission.ForbiddenAt (permissions : List ApprovalPermission) (resolve : Resolver)
    (now : Nat) (p : Point) : Prop :=
  ∃ q, permissions.find? (fun q => q.Covers resolve p) = some q ∧ Spans.Mem now q.windows.forbidden

namespace Update

open CollectionApproval

variable {kind : PermissionKind} {resolve : Resolver} {now : Nat} {p : Point}

theorem forbiddenAt_declared {permissions : List ApprovalPermission}
    {declarations : List Declaration}
    (h : Permission.declare kind resolve permissions = .ok declarations) :
    BadgeRights.ForbiddenAt declarations now p ↔
      ApprovalPermission.ForbiddenAt permissions resolve now p :=
  Permission.exists_find?_iff (Permission.declare_eq_ok.1 h).1 p (Spans.Mem now ·.forbidden)

theorem forbiddenAt_of_permission {old new : List ApprovalPermission}
    (h : permission kind old new resolve = .ok .permitted)
    (forbidden : ApprovalPermission.ForbiddenAt old resolve now p) :
    ApprovalPermission.ForbiddenAt new resolve now p := by
  obtain ⟨before, after, hbefore, hafter, _⟩ := permission_eq_ok.1 h
  have kept := firstLoss?_of_permission h hbefore hafter
  have ordered := Permission.ordered_of_declare hbefore
  rw [← forbiddenAt_declared hbefore] at forbidden
  rw [← forbiddenAt_declared hafter]
  exact forbiddenAt_mono ordered kept forbidden

theorem valueAt?_of_approvals {field : UpdateField} {old new : List CollectionApproval}
    {permissions : List ApprovalPermission} {stance : Stance}
    (h : approvals field kind old new permissions resolve stance = .ok .permitted)
    (forbidden : ApprovalPermission.ForbiddenAt permissions resolve stance.now p) :
    valueAt? resolve new p = valueAt? resolve old p := by
  obtain ⟨changed, declarations, declared, judged, differs, _⟩ := approvals_judged h
  rw [← forbiddenAt_declared declared] at forbidden
  by_contra different
  obtain ⟨r, hr, hp⟩ := (differs p).2 (Ne.symm different)
  exact judged.untouched ⟨r, hr, p, hp, forbidden⟩

end Update

structure Governed where
  approvals : List CollectionApproval
  permissions : List ApprovalPermission

namespace Governed

inductive Change where
  | approvals (new : List CollectionApproval) (stance : Stance)
  | permissions (new : List ApprovalPermission)

def apply (s : Governed) : Change → Governed
  | .approvals new _ => { s with approvals := new }
  | .permissions new => { s with permissions := new }

def verdict (resolve : Resolver) (s : Governed) : Change → Checked Verdict
  | .approvals new stance =>
      Update.collectionApprovals s.approvals new s.permissions resolve stance
  | .permissions new => Update.permission .updateCollectionApprovals s.permissions new resolve

inductive Run (resolve : Resolver) : Governed → List Change → Governed → Prop where
  | nil (s : Governed) : Run resolve s [] s
  | cons {s t : Governed} {c : Change} {changes : List Change}
      (accepted : s.verdict resolve c = .ok .permitted) (rest : Run resolve (s.apply c) changes t) :
      Run resolve s (c :: changes) t

def ForbiddenAt (resolve : Resolver) (s : Governed) (now : Nat) (p : Point) : Prop :=
  ApprovalPermission.ForbiddenAt s.permissions resolve now p

def valueAt? (resolve : Resolver) (s : Governed) (p : Point) : Option ApprovalValue :=
  CollectionApproval.valueAt? resolve s.approvals p

variable {resolve : Resolver} {s t : Governed} {c : Change} {changes : List Change} {now : Nat}
  {p : Point}

theorem forbiddenAt_apply (accepted : s.verdict resolve c = .ok .permitted)
    (forbidden : s.ForbiddenAt resolve now p) : (s.apply c).ForbiddenAt resolve now p := by
  cases c with
  | approvals new stance => exact forbidden
  | permissions new => exact Update.forbiddenAt_of_permission accepted forbidden

theorem valueAt?_apply (accepted : s.verdict resolve c = .ok .permitted)
    (locked : ∀ new stance, c = .approvals new stance → s.ForbiddenAt resolve stance.now p) :
    (s.apply c).valueAt? resolve p = s.valueAt? resolve p := by
  cases c with
  | approvals new stance => exact Update.valueAt?_of_approvals accepted (locked new stance rfl)
  | permissions new => rfl

theorem Run.forbiddenAt (run : Run resolve s changes t)
    (forbidden : s.ForbiddenAt resolve now p) : t.ForbiddenAt resolve now p := by
  induction run with
  | nil s => exact forbidden
  | cons accepted rest ih => exact ih (forbiddenAt_apply accepted forbidden)

theorem Run.valueAt?_eq (run : Run resolve s changes t)
    (locked : ∀ new stance, .approvals new stance ∈ changes → s.ForbiddenAt resolve stance.now p) :
    t.valueAt? resolve p = s.valueAt? resolve p := by
  induction run with
  | nil s => rfl
  | cons accepted rest ih =>
      -- The lock of the start holds after the first change too, for every later instant.
      have later := ih fun new stance member =>
        forbiddenAt_apply accepted (locked new stance (List.mem_cons_of_mem _ member))
      rw [later]
      refine valueAt?_apply accepted ?_
      intro new stance same
      exact locked new stance (same ▸ List.mem_cons_self)

/-- Forbidden instants of the first permission at a point lock the value there, whatever is updated
in between: no update of approvals at such an instant changes the value, and under a lock for all
time no run does. -/
theorem Run.lock_is_permanent {q : ApprovalPermission} (run : Run resolve s changes t)
    (first : s.permissions.find? (fun q => q.Covers resolve p) = some q) :
    (∀ new stance, t.verdict resolve (.approvals new stance) = .ok .permitted →
        Spans.Mem stance.now q.windows.forbidden →
        (t.apply (.approvals new stance)).valueAt? resolve p = t.valueAt? resolve p) ∧
      ((∀ n ∈ Span.full, Spans.Mem n q.windows.forbidden) →
        (∀ new stance, .approvals new stance ∈ changes → stance.now ∈ Span.full) →
        t.valueAt? resolve p = s.valueAt? resolve p) := by
  constructor
  · intro new stance accepted forbids
    refine valueAt?_apply accepted ?_
    intro _ _ same
    cases same
    exact run.forbiddenAt ⟨q, first, forbids⟩
  · intro always timely
    refine run.valueAt?_eq ?_
    intro new stance member
    exact ⟨q, first, always stance.now (timely new stance member)⟩

section Mint

def mintResolver : Resolver := fun id => .ok (if id = "Mint" then .mintOnly else .everyone)

def mintTerms (badgeIds : List Span) (approvalId : String) : TransferTerms :=
  ⟨"All", [.full], badgeIds, [.full], approvalId, "", ""⟩

def mintApproval (badgeIds : List Span) : CollectionApproval :=
  ⟨"Mint", "All", mintTerms badgeIds "mint", default⟩

def mintPermission (badgeIds : List Span) (windows : Windows) : ApprovalPermission :=
  ⟨"Mint", "All", mintTerms badgeIds "", windows⟩

def lockedMint : Governed where
  approvals := [mintApproval [⟨1, 20⟩]]
  permissions := [mintPermission [⟨1, 10⟩] ⟨[], [.full]⟩]

def mintChanges : List Change := [
  .permissions [
    mintPermission [⟨11, 20⟩] ⟨[⟨1, 2000⟩], []⟩,
    mintPermission [⟨1, 5⟩] ⟨[], [.full]⟩,
    mintPermission [⟨6, 10⟩] ⟨[], [.full]⟩],
  .approvals [mintApproval [⟨1, 10⟩]] ⟨1000, .requirePermitted⟩]

theorem mint_lock_is_permanent :
    ∃ t q, Run mintResolver lockedMint mintChanges t ∧
      lockedMint.permissions.find? (fun q => q.Covers mintResolver (mintPoint 5)) = some q ∧
      (t.apply (.approvals [mintApproval [⟨1, 15⟩]] ⟨1500, .requirePermitted⟩)).valueAt?
        mintResolver (mintPoint 5) = t.valueAt? mintResolver (mintPoint 5) ∧
      t.valueAt? mintResolver (mintPoint 5) = lockedMint.valueAt? mintResolver (mintPoint 5) := by
  have run : Run mintResolver lockedMint mintChanges (mintChanges.foldl apply lockedMint) :=
    .cons rfl (.cons rfl (.nil _))
  have first : lockedMint.permissions.find? (fun q => q.Covers mintResolver (mintPoint 5)) =
      some (mintPermission [⟨1, 10⟩] ⟨[], [.full]⟩) := by decide
  have lock := run.lock_is_permanent first
  refine ⟨_, _, run, first, lock.1 _ _ rfl (by decide), lock.2 ?_ ?_⟩
  · intro n hn
    exact (Spans.mem_full n).2 hn
  · intro new stance member
    simp only [mintChanges, List.mem_cons, List.not_mem_nil, or_false, reduceCtorEq, false_or,
      Change.approvals.injEq] at member
    rw [member.2]
    decide

end Mint

end Governed

end BadgeRights
