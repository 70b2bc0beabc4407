import BadgeRights.Proofs.Approval
import BadgeRights.Proofs.Reserved

set_option autoImplicit false

namespace BadgeRights

def Fault.IsInput (f : Fault) : Prop := f.cls = .invalid ∨ f.cls = .notFound

theorem Fault.cls_inOld {f : Fault} (input : f.IsInput) : f.inOld.cls = .invalidOldValue := by
  rcases input with h | h <;> simp [inOld, FaultClass.onSide, h]

theorem Fault.cls_inNew {f : Fault} (input : f.IsInput) : f.inNew.cls = .invalidNewValue := by
  rcases input with h | h <;> simp [inNew, FaultClass.onSide, h]

theorem SystemError.isInput_fault {e : SystemError} {message : String} :
    (e.fault message).IsInput ↔ e = .notFound := by
  cases e <;> simp [fault, cls, Fault.IsInput]

theorem SystemError.isDenial_fault {e : SystemError} {message : String} :
    (e.fault message).isDenial = true ↔ e = .permissionDenied := by
  cases e <;> simp [fault, cls, Fault.isDenial]

namespace Checked

variable {α β γ δ : Type}

def faultClass? : Checked α → Option FaultClass
  | .ok _ => none
  | .error f => some f.cls

def InputFaults (x : Checked α) : Prop := ∀ f, x = .error f → f.IsInput

theorem faultClass?_bind {x : Checked α} {y : Checked β} {f : α → Checked γ} {g : β → Checked δ}
    (same : x.faultClass? = y.faultClass?)
    (next : ∀ a b, x = .ok a → y = .ok b → (f a).faultClass? = (g b).faultClass?) :
    (x >>= f).faultClass? = (y >>= g).faultClass? := by
  cases x with
  | error fault =>
      cases y with
      | error other => exact same
      | ok b => cases same
  | ok a =>
      cases y with
      | error other => cases same
      | ok b => exact next a b rfl rfl

theorem faultClass?_mapM {R : α → β → Prop} {f : α → Checked γ} {g : β → Checked δ} {xs : List α}
    {ys : List β} (related : List.Forall₂ R xs ys)
    (each : ∀ x y, R x y → (f x).faultClass? = (g y).faultClass?) :
    (xs.mapM f).faultClass? = (ys.mapM g).faultClass? := by
  induction related with
  | nil => rfl
  | cons first _ ih =>
      rw [List.mapM_cons, List.mapM_cons]
      exact faultClass?_bind (each _ _ first) fun _ _ _ _ => faultClass?_bind ih fun _ _ _ _ => rfl

theorem faultClass?_forM {R : α → β → Prop} {f : α → Checked Unit} {g : β → Checked Unit}
    {xs : List α} {ys : List β} (related : List.Forall₂ R xs ys)
    (each : ∀ x y, R x y → (f x).faultClass? = (g y).faultClass?) :
    (xs.forM f).faultClass? = (ys.forM g).faultClass? := by
  induction related with
  | nil => rfl
  | cons first _ ih => exact faultClass?_bind (each _ _ first) fun _ _ _ _ => ih

theorem faultClass?_mapError {x : Checked α} {y : Checked β} {side : Fault → Fault}
    {cls : FaultClass} (relabels : ∀ f, f.IsInput → (side f).cls = cls) (hx : x.InputFaults)
    (hy : y.InputFaults) (same : (∃ a, x = .ok a) ↔ ∃ b, y = .ok b) :
    faultClass? (x.mapError side) = faultClass? (y.mapError side) := by
  cases x with
  | ok a =>
      obtain ⟨b, rfl⟩ := same.1 ⟨a, rfl⟩
      rfl
  | error f =>
      cases y with
      | ok b =>
          obtain ⟨a, h⟩ := same.2 ⟨b, rfl⟩
          cases h
      | error g =>
          -- The classes of `f` and `g` may differ; the side gives both of them one.
          change some (side f).cls = some (side g).cls
          rw [relabels f (hx f rfl), relabels g (hy g rfl)]

theorem inputFaults_ok (a : α) : InputFaults (.ok a) := nofun

theorem inputFaults_refuse {c : Cause} (input : c.fault.IsInput) :
    InputFaults (refuse c : Checked α) := by
  intro f h
  obtain rfl := Except.error.inj h
  exact input

section Every

variable {holds : Fault → Prop}

theorem fault_of_bind {x : Checked α} {f : α → Checked β} (first : ∀ g, x = .error g → holds g)
    (next : ∀ a g, f a = .error g → holds g) : ∀ g, (x >>= f) = .error g → holds g := by
  cases x with
  | error fault =>
      intro other h
      obtain rfl : fault = other := Except.error.inj h
      exact first fault rfl
  | ok a => exact next a

theorem fault_of_forM {f : α → Checked Unit} (each : ∀ x g, f x = .error g → holds g)
    (xs : List α) : ∀ g, xs.forM f = .error g → holds g := by
  induction xs with
  | nil => exact nofun
  | cons x rest ih => exact fault_of_bind (each x) fun _ => ih

end Every

theorem InputFaults.bind {x : Checked α} {f : α → Checked β} (first : x.InputFaults)
    (next : ∀ a, (f a).InputFaults) : (x >>= f).InputFaults :=
  fault_of_bind first next

theorem inputFaults_forM {f : α → Checked Unit} (each : ∀ x, (f x).InputFaults) (xs : List α) :
    (xs.forM f).InputFaults :=
  fault_of_forM each xs

theorem inputFaults_mapM {f : α → Checked β} (each : ∀ x, (f x).InputFaults) (xs : List α) :
    (xs.mapM f).InputFaults := by
  induction xs with
  | nil => exact inputFaults_ok []
  | cons x rest ih =>
      rw [List.mapM_cons]
      exact (each x).bind fun _ => ih.bind fun _ => inputFaults_ok _

theorem InputFaults.of_faultClass? {x : Checked α} {y : Checked β} (h : y.InputFaults)
    (same : x.faultClass? = y.faultClass?) : x.InputFaults := by
  rintro f rfl
  cases y with
  | ok b => cases same
  | error g =>
      have cls : f.cls = g.cls := Option.some.inj same
      simpa only [Fault.IsInput, cls] using h g rfl

theorem InputFaults.map {x : Checked α} (h : x.InputFaults) (f : α → β) : InputFaults (x.map f) :=
  h.of_faultClass? (by cases x <;> rfl)

theorem faultClass?_eq_none {x : Checked α} : x.faultClass? = none ↔ ∃ a, x = .ok a := by
  cases x <;> simp [faultClass?]

theorem faultClass?_bind_pure (x : Checked α) (f : α → β) :
    (x >>= fun a => pure (f a)).faultClass? = x.faultClass? := by
  cases x <;> rfl

theorem faultClass?_bind_eq_some {x : Checked α} {f : α → Checked β} {cls : FaultClass} :
    (x >>= f).faultClass? = some cls ↔
      x.faultClass? = some cls ∨ ∃ a, x = .ok a ∧ (f a).faultClass? = some cls := by
  cases x with
  | error fault => exact ⟨.inl, fun h => h.resolve_right nofun⟩
  | ok a =>
      refine ⟨fun h => .inr ⟨a, rfl, h⟩, fun h => ?_⟩
      obtain ⟨_, same, later⟩ := h.resolve_left nofun
      obtain rfl := Except.ok.inj same
      exact later

theorem faultClass?_then_eq_some {x : Checked Unit} {y : Checked α} {cls : FaultClass} :
    (do x; y).faultClass? = some cls ↔
      x.faultClass? = some cls ∨ x = .ok () ∧ y.faultClass? = some cls := by
  rw [faultClass?_bind_eq_some]
  exact or_congr_right Unique.exists_iff

theorem faultClass?_mapM_eq_some {f : α → Checked β} {xs : List α} {cls : FaultClass} :
    (xs.mapM f).faultClass? = some cls ↔
      ∃ front x back, xs = front ++ x :: back ∧ (∀ y ∈ front, ∃ b, f y = .ok b) ∧
        (f x).faultClass? = some cls := by
  induction xs with
  | nil => simp [faultClass?, pure, Except.pure]
  | cons x rest ih =>
      rw [List.mapM_cons, faultClass?_bind_eq_some]
      simp only [faultClass?_bind_pure]
      rw [exists_and_right, ih]
      constructor
      · intro h
        rcases h with first | ⟨answered, front, y, back, rfl, before, fails⟩
        · exact ⟨[], x, rest, rfl, nofun, first⟩
        · exact ⟨x :: front, y, back, rfl, List.forall_mem_cons.2 ⟨answered, before⟩, fails⟩
      · intro h
        rcases h with ⟨front, y, back, split, before, fails⟩
        rcases List.cons_eq_append_iff.1 split with ⟨rfl, same⟩ | ⟨front, rfl, rfl⟩
        · obtain ⟨rfl, rfl⟩ := List.cons.inj same
          exact .inl fails
        · obtain ⟨answered, before⟩ := List.forall_mem_cons.1 before
          exact .inr ⟨answered, front, y, back, rfl, before, fails⟩

def FailsAs (cls : FaultClass) (x : Checked α) : Prop := ∀ f, x = .error f → f.cls = cls

theorem FailsAs.faultClass?_eq_some_iff {x : Checked α} {cls : FaultClass} (fails : x.FailsAs cls)
    (other : FaultClass) :
    x.faultClass? = some other ↔ other = cls ∧ ¬∃ a, x = .ok a := by
  cases x with
  | ok a => simp [faultClass?]
  | error f => simp [faultClass?, fails f rfl, eq_comm]

theorem failsAs_ok {cls : FaultClass} (a : α) : FailsAs cls (.ok a) := nofun

theorem failsAs_refuse (c : Cause) : FailsAs c.cls (refuse c : Checked α) := by
  intro f h
  obtain rfl := Except.error.inj h
  rfl

theorem FailsAs.inputFaults {x : Checked α} (fails : x.FailsAs .invalid) : x.InputFaults :=
  fun f h => .inl (fails f h)

theorem FailsAs.bind {cls : FaultClass} {x : Checked α} {f : α → Checked β} (first : x.FailsAs cls)
    (next : ∀ a, (f a).FailsAs cls) : (x >>= f).FailsAs cls :=
  fault_of_bind first next

theorem failsAs_forM {cls : FaultClass} {f : α → Checked Unit} (each : ∀ x, (f x).FailsAs cls)
    (xs : List α) : (xs.forM f).FailsAs cls :=
  fault_of_forM each xs

theorem faultClass?_bind_comm {x : Checked α} {y : Checked β} {f : α → β → Checked γ}
    {g : β → α → Checked γ} {cls : FaultClass} (hx : x.FailsAs cls) (hy : y.FailsAs cls)
    (next : ∀ a b, (f a b).faultClass? = (g b a).faultClass?) :
    (x >>= fun a => y >>= f a).faultClass? = (y >>= fun b => x >>= g b).faultClass? := by
  cases x with
  | error fault =>
      cases y with
      | error other => exact congrArg some ((hx fault rfl).trans (hy other rfl).symm)
      | ok b => rfl
  | ok a =>
      cases y with
      | error other => rfl
      | ok b => exact next a b

end Checked

open Checked

theorem Spans.failsAs_validate (spans : List Span) : (validate spans).FailsAs .invalid := by
  refine failsAs_forM (fun s => ?_) spans
  unfold Span.validate
  split
  · exact failsAs_refuse _
  · split
    · exact failsAs_refuse _
    · split
      · exact failsAs_refuse _
      · exact failsAs_ok ()

theorem Spans.inputFaults_validate (spans : List Span) : (validate spans).InputFaults :=
  (failsAs_validate spans).inputFaults

def Resolver.InputFaults (resolve : Resolver) : Prop := ∀ id, (resolve id).InputFaults

theorem Resolver.IsStandard.failsAs {resolve : Resolver} (standard : resolve.IsStandard)
    (id : String) : (resolve id).FailsAs .notFound := by
  intro f h
  cases standard with
  | reserved =>
      unfold Resolver.reserved at h
      split at h
      · cases h
      · cases h
        rfl
  | stored store =>
      unfold ListStore.resolve at h
      split at h
      · cases h
      · split at h
        · cases h
        · split at h
          · cases h
          · cases h
            rfl

theorem Resolver.IsStandard.inputFaults {resolve : Resolver} (standard : resolve.IsStandard) :
    resolve.InputFaults :=
  fun id f h => .inr (standard.failsAs id f h)

theorem Permission.faultClass?_checkWindows (kind : PermissionKind) (w : Windows) :
    (checkWindows kind w).faultClass? =
      if Spans.intersection w.permitted w.forbidden = [] then none else some .invalid := by
  unfold checkWindows
  cases Spans.intersection w.permitted w.forbidden <;> rfl

theorem Permission.failsAs_checkWindows (kind : PermissionKind) (w : Windows) :
    (checkWindows kind w).FailsAs .invalid := by
  unfold checkWindows
  split
  · exact failsAs_ok ()
  · exact failsAs_refuse _

namespace CollectionApproval

variable {resolve : Resolver}

theorem inputFaults_mergedSpans (spans : List Span) : InputFaults (mergedSpans spans) :=
  (Spans.inputFaults_validate spans).bind fun _ => inputFaults_ok _

theorem inputFaults_checkId (seen : List String) (id : String) : (checkId seen id).InputFaults := by
  unfold checkId
  split
  · exact inputFaults_refuse (.inl rfl)
  · split
    · exact inputFaults_refuse (.inl rfl)
    · exact inputFaults_ok ()

theorem inputFaults_expandOne (faults : resolve.InputFaults) (a : CollectionApproval) :
    (expandOne resolve a).InputFaults := by
  refine (faults _).bind fun _ => (faults _).bind fun _ => (faults _).bind fun _ => ?_
  refine (inputFaults_mergedSpans _).bind fun _ => (inputFaults_mergedSpans _).bind fun _ => ?_
  exact (inputFaults_mergedSpans _).bind fun _ => inputFaults_ok _

theorem inputFaults_expandAfter (faults : resolve.InputFaults) (seen : List String)
    (approvals : List CollectionApproval) : (expandAfter resolve seen approvals).InputFaults := by
  induction approvals generalizing seen with
  | nil => exact inputFaults_ok []
  | cons a rest ih =>
      refine (inputFaults_checkId seen _).bind fun _ => ?_
      exact (inputFaults_expandOne faults a).bind fun _ => (ih _).bind fun _ => inputFaults_ok _

end CollectionApproval

end BadgeRights
