import Mathlib.Data.List.Forall2
import BadgeRights.Span.Check

set_option autoImplicit false

namespace BadgeRights

namespace Checked

variable {α β : Type}

@[simp] theorem bind_eq_ok {x : Checked α} {f : α → Checked β} {b : β} :
    (x >>= f) = .ok b ↔ ∃ a, x = .ok a ∧ f a = .ok b := by
  cases x with
  | error fault => exact ⟨nofun, nofun⟩
  | ok a => exact ⟨fun h => ⟨a, rfl, h⟩, fun ⟨_, rfl, h⟩ => h⟩

theorem then_eq_ok {x : Checked Unit} {y : Checked α} {a : α} :
    (do x; y) = .ok a ↔ x = .ok () ∧ y = .ok a := by
  rw [bind_eq_ok]
  exact Unique.exists_iff

@[simp] theorem pure_eq_ok {a b : α} : (pure a : Checked α) = .ok b ↔ a = b :=
  ⟨fun h => Except.ok.inj h, congrArg Except.ok⟩

@[simp] theorem mapError_eq_ok {x : Checked α} {f : Fault → Fault} {a : α} :
    x.mapError f = .ok a ↔ x = .ok a := by
  cases x with
  | error fault => exact ⟨nofun, nofun⟩
  | ok a => exact Iff.rfl

@[simp] theorem map_eq_ok {x : Checked α} {f : α → β} {b : β} :
    x.map f = .ok b ↔ ∃ a, x = .ok a ∧ f a = b := by
  cases x with
  | error fault => exact ⟨nofun, nofun⟩
  | ok a => exact ⟨fun h => ⟨a, rfl, Except.ok.inj h⟩, fun ⟨_, rfl, h⟩ => congrArg Except.ok h⟩

theorem exists_map_eq_ok {x : Checked α} {f : α → β} :
    (∃ b, x.map f = .ok b) ↔ ∃ a, x = .ok a := by
  simp only [map_eq_ok]
  constructor
  · intro h
    rcases h with ⟨_, a, answered, _⟩
    exact ⟨a, answered⟩
  · intro h
    rcases h with ⟨a, answered⟩
    exact ⟨f a, a, answered, rfl⟩

@[simp] theorem refuse_ne_ok {c : Cause} {a : α} : refuse c ≠ .ok a := nofun

theorem forM_eq_ok {f : α → Checked Unit} {xs : List α} :
    xs.forM f = .ok () ↔ ∀ x ∈ xs, f x = .ok () := by
  induction xs with
  | nil => exact ⟨nofun, fun _ => rfl⟩
  | cons x rest ih =>
      change forM (x :: rest) f = .ok () ↔ _
      rw [List.forM_cons, bind_eq_ok, List.forall_mem_cons, ← ih]
      exact ⟨fun ⟨_, first, others⟩ => ⟨first, others⟩, fun h => ⟨(), h⟩⟩

theorem mapM_eq_ok {f : α → Checked β} {xs : List α} {ys : List β} :
    xs.mapM f = .ok ys ↔ List.Forall₂ (fun x y => f x = .ok y) xs ys := by
  induction xs generalizing ys with
  | nil =>
      rw [List.mapM_nil, pure_eq_ok, List.forall₂_nil_left_iff, eq_comm]
  | cons x rest ih =>
      rw [List.mapM_cons, bind_eq_ok, List.forall₂_cons_left_iff]
      constructor
      · intro h
        rcases h with ⟨y, first, h⟩
        obtain ⟨others, later, h⟩ := bind_eq_ok.1 h
        exact ⟨y, others, first, ih.1 later, (pure_eq_ok.1 h).symm⟩
      · intro h
        rcases h with ⟨y, others, first, later, rfl⟩
        exact ⟨y, first, bind_eq_ok.2 ⟨others, ih.2 later, rfl⟩⟩

theorem forall₂_of_mapM {α₁ α₂ β₁ β₂ : Type} {R : α₁ → α₂ → Prop} {S : β₁ → β₂ → Prop}
    {f : α₁ → Checked β₁} {g : α₂ → Checked β₂} {xs : List α₁} {ys : List α₂} {as : List β₁}
    {bs : List β₂} (related : List.Forall₂ R xs ys) (hx : xs.mapM f = .ok as)
    (hy : ys.mapM g = .ok bs)
    (each : ∀ x y a b, R x y → f x = .ok a → g y = .ok b → S a b) : List.Forall₂ S as bs := by
  rw [mapM_eq_ok] at hx hy
  induction related generalizing as bs with
  | nil =>
      cases hx
      cases hy
      exact .nil
  | cons first _ ih =>
      cases hx with
      | cons firstLeft restLeft =>
          cases hy with
          | cons firstRight restRight =>
              exact .cons (each _ _ _ _ first firstLeft firstRight) (ih restLeft restRight)

end Checked

theorem exists_left_of_forall₂ {α β : Type} {R : α → β → Prop} {xs : List α} {ys : List β}
    (related : List.Forall₂ R xs ys) {y : β} (hy : y ∈ ys) : ∃ x ∈ xs, R x y := by
  induction related with
  | nil => cases hy
  | @cons x _ xs _ first _ ih =>
      obtain rfl | hy := List.mem_cons.1 hy
      · exact ⟨x, List.mem_cons_self, first⟩
      · obtain ⟨x, hx, h⟩ := ih hy
        exact ⟨x, List.mem_cons_of_mem _ hx, h⟩

theorem Checked.exists_mapM_eq_ok {α β : Type} {f : α → Checked β} {xs : List α} :
    (∃ ys, xs.mapM f = .ok ys) ↔ ∀ x ∈ xs, ∃ y, f x = .ok y := by
  constructor
  · intro h x hx
    obtain ⟨ys, h⟩ := h
    obtain ⟨y, _, hy⟩ := exists_left_of_forall₂ (mapM_eq_ok.1 h).flip hx
    exact ⟨y, hy⟩
  · intro each
    induction xs with
    | nil => exact ⟨[], rfl⟩
    | cons x rest ih =>
        obtain ⟨⟨y, first⟩, others⟩ := List.forall_mem_cons.1 each
        obtain ⟨ys, later⟩ := ih others
        exact ⟨y :: ys, mapM_eq_ok.2 (.cons first (mapM_eq_ok.1 later))⟩

theorem exists_mem_iff_of_forall₂ {α β : Type} {R : α → β → Prop} {xs : List α} {ys : List β}
    {holds : α → Prop} {holdsToo : β → Prop} (related : List.Forall₂ R xs ys)
    (same : ∀ x y, R x y → (holds x ↔ holdsToo y)) :
    (∃ x ∈ xs, holds x) ↔ ∃ y ∈ ys, holdsToo y := by
  induction related with
  | nil => simp
  | cons first _ ih => simp only [List.exists_mem_cons_iff, same _ _ first, ih]

theorem exists_find?_iff_of_forall₂ {α β : Type} {R : α → β → Prop} {p : α → Bool} {q : β → Bool}
    {holds : α → Prop} {holdsToo : β → Prop} {xs : List α} {ys : List β}
    (related : List.Forall₂ R xs ys) (same : ∀ x y, R x y → p x = q y)
    (said : ∀ x y, R x y → (holds x ↔ holdsToo y)) :
    (∃ x, xs.find? p = some x ∧ holds x) ↔ ∃ y, ys.find? q = some y ∧ holdsToo y := by
  induction related with
  | nil => simp
  | @cons x y _ _ first _ ih =>
      rw [List.find?_cons, List.find?_cons, same x y first]
      cases q y with
      | true => simp [said x y first]
      | false => simpa using ih

theorem find?_map_eq_of_forall₂ {α β γ : Type} {R : α → β → Prop} {p : α → Bool} {q : β → Bool}
    {f : α → γ} {g : β → γ} {xs : List α} {ys : List β} (related : List.Forall₂ R xs ys)
    (same : ∀ x y, R x y → p x = q y) (said : ∀ x y, R x y → f x = g y) :
    (xs.find? p).map f = (ys.find? q).map g := by
  induction related with
  | nil => rfl
  | @cons x y _ _ first _ ih =>
      rw [List.find?_cons, List.find?_cons, same x y first]
      cases q y with
      | true => simp [said x y first]
      | false => simpa using ih

namespace Spans

theorem validate_eq_ok (spans : List Span) : validate spans = .ok () ↔ Valid spans := by
  simp only [validate, Checked.forM_eq_ok, Span.validate_eq_ok, Valid]

theorem validate_then_eq_ok {α : Type} {spans : List Span} {a b : α} :
    (do validate spans; return a : Checked α) = .ok b ↔ Valid spans ∧ a = b := by
  rw [Checked.bind_eq_ok, ← validate_eq_ok]
  constructor
  · intro h
    rcases h with ⟨_, valid, same⟩
    exact ⟨valid, Checked.pure_eq_ok.1 same⟩
  · intro h
    exact ⟨(), h.1, Checked.pure_eq_ok.2 h.2⟩

theorem Valid.ordered {spans : List Span} (valid : Valid spans) : Ordered spans :=
  fun s hs => (valid s hs).2.1

theorem Valid.mem_full {spans : List Span} (valid : Valid spans) {n : Nat} (h : Mem n spans) :
    n ∈ Span.full := by
  obtain ⟨s, hs, inside⟩ := h
  have bounds := valid s hs
  simp only [Span.Valid, Span.mem_def, Span.full] at bounds inside ⊢
  omega

theorem Ordered.valid {spans : List Span} (ordered : Ordered spans)
    (inside : ∀ n, Mem n spans → n ∈ Span.full) : Valid spans := by
  intro s hs
  have bounds := ordered s hs
  have first := inside s.start ⟨s, hs, Nat.le_refl _, bounds⟩
  have last := inside s.stop ⟨s, hs, bounds, Nat.le_refl _⟩
  exact ⟨first.1, bounds, last.2⟩

end Spans

end BadgeRights
