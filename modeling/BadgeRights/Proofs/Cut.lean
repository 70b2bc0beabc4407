import BadgeRights.Region

set_option autoImplicit false

namespace BadgeRights

section Sets

variable {α π : Type} [Membership π α]

def Apart (a b : α) : Prop := ∀ x : π, x ∈ a → ¬x ∈ b

theorem Apart.symm {a b : α} (apart : Apart a b) : Apart b a :=
  fun x inSecond inFirst => apart x inFirst inSecond

def Shrunk (a b : α) : Prop := (∀ x : π, x ∈ a → x ∈ b) ∧ ((∃ x : π, x ∈ b) → ∃ x : π, x ∈ a)

theorem Shrunk.refl (a : α) : Shrunk a a := ⟨fun _ => id, id⟩

theorem Shrunk.trans {a b c : α} (ab : Shrunk a b) (bc : Shrunk b c) : Shrunk a c :=
  ⟨fun x hx => bc.1 x (ab.1 x hx), fun h => ab.2 (bc.2 h)⟩

theorem countP_mem_of_apart {xs : List α} (apart : xs.Pairwise Apart) (x : π)
    [DecidablePred fun a : α => x ∈ a] :
    xs.countP (x ∈ ·) = if ∃ a ∈ xs, x ∈ a then 1 else 0 := by
  induction xs with
  | nil => simp
  | cons a rest ih =>
      obtain ⟨first, later⟩ := List.pairwise_cons.1 apart
      rw [List.countP_cons, ih later]
      by_cases here : x ∈ a
      · have elsewhere : ¬∃ b ∈ rest, x ∈ b := fun ⟨b, hb, there⟩ => first b hb x here there
        simp [here, elsewhere]
      · simp [here]

theorem find?_mem_of_apart {xs : List α} (apart : xs.Pairwise Apart) {a : α} (ha : a ∈ xs) {x : π}
    (hx : x ∈ a) [DecidablePred fun a : α => x ∈ a] : xs.find? (x ∈ ·) = some a := by
  induction xs with
  | nil => simp at ha
  | cons b rest ih =>
      obtain ⟨first, tail⟩ := List.pairwise_cons.1 apart
      rcases List.mem_cons.1 ha with rfl | ha
      · simp [hx]
      · have elsewhere : ¬x ∈ b := fun here => first a ha x here hx
        simpa [elsewhere] using ih tail ha

end Sets

structure Cut.All {α : Type} (Q : α → Prop) (c : Cut α) : Prop where
  outside : ∀ piece ∈ c.outside, Q piece
  shared : ∀ s ∈ c.shared, Q s

structure Cut.Tidy {α π : Type} [Membership π α] (Ordered : α → Prop) (Part : α → α → Prop)
    (c : Cut α) (value : α) : Prop where
  apart : c.outside.Pairwise Apart
  outside_ordered : ∀ piece ∈ c.outside, Ordered piece
  outside_part : ∀ piece ∈ c.outside, Part piece value
  shared_ordered : ∀ s ∈ c.shared, Ordered s
  shared_part : ∀ s ∈ c.shared, Part s value
  shared_inhabited : ∀ s ∈ c.shared, ∃ x : π, x ∈ s

class TidyAxis (α : Type) {π : outParam Type} [Axis α π] extends LawfulAxis α where
  Ordered : α → Prop
  Part : α → α → Prop
  part_refl (a : α) : Part a a
  part_trans (a b c : α) : Part a b → Part b c → Part a c
  shrunk_of_part (a b : α) : Part a b → Shrunk a b
  tidy (value handled : α) : Ordered value → Ordered handled →
    (Axis.cut value handled).Tidy Ordered Part value

variable {α β π ρ : Type}

theorem LawfulAxis.apart_shared [Axis α π] [LawfulAxis α] (value handled : α) :
    ∀ piece ∈ (Axis.cut value handled).outside, ∀ s ∈ (Axis.cut value handled).shared,
      Apart piece s := by
  intro piece hpiece s hs x inPiece inShared
  obtain ⟨outside, shared⟩ := LawfulAxis.exact value handled x
  exact (outside.1 ⟨piece, hpiece, inPiece⟩).2 (shared.1 ⟨s, hs, inShared⟩).2

namespace Cut

theorem All.map {Q : β → Prop} {f : α → β} {c : Cut α} (h : c.All fun a => Q (f a)) :
    (c.map f).All Q where
  outside := List.forall_mem_map.2 h.outside
  shared := by
    intro s hs
    obtain ⟨a, ha, rfl⟩ := Option.map_eq_some_iff.1 hs
    exact h.shared a ha

theorem apart_all {Q : α → Prop} {a : α} (h : Q a) : (apart a).All Q where
  outside := List.forall_mem_singleton.2 h
  shared := nofun

theorem pair_all {Q : α × β → Prop} {a : α} {b : β} {ca : Cut α} {cb : Cut β} (whole : Q (a, b))
    (outside : ∀ p ∈ ca.outside, Q (p, b))
    (peeled : ∀ sa ∈ ca.shared, ∀ q ∈ cb.outside, Q (sa, q))
    (shared : ∀ sa ∈ ca.shared, ∀ sb ∈ cb.shared, Q (sa, sb)) : (pair a b ca cb).All Q := by
  rcases ca with ⟨oa, sa⟩
  rcases cb with ⟨ob, sb⟩
  cases sa with
  | none => exact apart_all whole
  | some sa =>
      cases sb with
      | none => exact apart_all whole
      | some sb =>
          constructor
          · refine List.forall_mem_append.2 ⟨List.forall_mem_map.2 outside, ?_⟩
            exact List.forall_mem_map.2 (peeled sa rfl)
          · intro s hs
            cases hs
            exact shared sa rfl sb rfl

theorem pair_of_not_shared {a : α} {b : β} {ca : Cut α} {cb : Cut β}
    (h : (pair a b ca cb).shared = none) : pair a b ca cb = apart (a, b) := by
  rcases ca with ⟨_, sa⟩
  rcases cb with ⟨_, sb⟩
  cases sa with
  | none => rfl
  | some sa =>
      cases sb with
      | none => rfl
      | some sb => cases h

theorem apart_tidy [Membership π α] (Ordered : α → Prop) (Part : α → α → Prop) (value : α)
    (ordered : Ordered value) (refl : Part value value) :
    (apart value).Tidy Ordered Part value where
  apart := List.pairwise_singleton _ _
  outside_ordered := List.forall_mem_singleton.2 ordered
  outside_part := List.forall_mem_singleton.2 refl
  shared_ordered := nofun
  shared_part := nofun
  shared_inhabited := nofun

variable [Axis α π] [Axis β ρ]

theorem pair_apart (oa : List α) (ob : List β) (sa : α) (b : β) (first : oa.Pairwise Apart)
    (second : ob.Pairwise Apart) (cross : ∀ piece ∈ oa, Apart piece sa) :
    (oa.map (fun p => (p, b)) ++ ob.map (fun q => (sa, q))).Pairwise Apart := by
  rw [List.pairwise_append, List.pairwise_map, List.pairwise_map]
  refine ⟨?_, ?_, ?_⟩
  · exact first.imp fun h x hx hy => h x.1 hx.1 hy.1
  · exact second.imp fun h x hx hy => h x.2 hx.2 hy.2
  · intro left hleft right hright x hx hy
    obtain ⟨p, hp, rfl⟩ := List.mem_map.1 hleft
    obtain ⟨q, hq, rfl⟩ := List.mem_map.1 hright
    exact cross p hp x.1 hx.1 hy.1

theorem pair_tidy [TidyAxis α] [TidyAxis β] (a : α) (b : β) (ca : Cut α) (cb : Cut β)
    (orderedFirst : TidyAxis.Ordered a) (orderedSecond : TidyAxis.Ordered b)
    (first : ca.Tidy TidyAxis.Ordered TidyAxis.Part a)
    (second : cb.Tidy TidyAxis.Ordered TidyAxis.Part b)
    (cross : ∀ piece ∈ ca.outside, ∀ s ∈ ca.shared, Apart piece s) :
    (pair a b ca cb).Tidy (fun box : α × β => TidyAxis.Ordered box.1 ∧ TidyAxis.Ordered box.2)
      (fun x y => TidyAxis.Part x.1 y.1 ∧ TidyAxis.Part x.2 y.2) (a, b) := by
  have ordered : (pair a b ca cb).All fun box : α × β =>
      TidyAxis.Ordered box.1 ∧ TidyAxis.Ordered box.2 := by
    refine pair_all ⟨orderedFirst, orderedSecond⟩ ?_ ?_ ?_
    · exact fun p hp => ⟨first.outside_ordered p hp, orderedSecond⟩
    · exact fun s hs q hq => ⟨first.shared_ordered s hs, second.outside_ordered q hq⟩
    · exact fun s hs t ht => ⟨first.shared_ordered s hs, second.shared_ordered t ht⟩
  have part : (pair a b ca cb).All fun box : α × β =>
      TidyAxis.Part box.1 a ∧ TidyAxis.Part box.2 b := by
    refine pair_all ⟨TidyAxis.part_refl a, TidyAxis.part_refl b⟩ ?_ ?_ ?_
    · exact fun p hp => ⟨first.outside_part p hp, TidyAxis.part_refl b⟩
    · exact fun s hs q hq => ⟨first.shared_part s hs, second.outside_part q hq⟩
    · exact fun s hs t ht => ⟨first.shared_part s hs, second.shared_part t ht⟩
  have disjoint : (pair a b ca cb).outside.Pairwise Apart ∧
      ∀ s ∈ (pair a b ca cb).shared, ∃ x, x ∈ s := by
    rcases ca with ⟨oa, sa⟩
    rcases cb with ⟨ob, sb⟩
    cases sa with
    | none => exact ⟨List.pairwise_singleton _ _, nofun⟩
    | some sa =>
        cases sb with
        | none => exact ⟨List.pairwise_singleton _ _, nofun⟩
        | some sb =>
            constructor
            · exact pair_apart oa ob sa b first.apart second.apart fun p hp => cross p hp sa rfl
            · intro s hs
              cases hs
              obtain ⟨x, hx⟩ := first.shared_inhabited sa rfl
              obtain ⟨y, hy⟩ := second.shared_inhabited sb rfl
              exact ⟨(x, y), hx, hy⟩
  exact ⟨disjoint.1, ordered.outside, part.outside, ordered.shared, part.shared, disjoint.2⟩

end Cut

instance [Axis α π] [Axis β ρ] [TidyAxis α] [TidyAxis β] : TidyAxis (α × β) where
  Ordered box := TidyAxis.Ordered box.1 ∧ TidyAxis.Ordered box.2
  Part a b := TidyAxis.Part a.1 b.1 ∧ TidyAxis.Part a.2 b.2
  part_refl a := ⟨TidyAxis.part_refl a.1, TidyAxis.part_refl a.2⟩
  part_trans a b c ab bc :=
    ⟨TidyAxis.part_trans _ _ _ ab.1 bc.1, TidyAxis.part_trans _ _ _ ab.2 bc.2⟩
  shrunk_of_part a b part := by
    have first := TidyAxis.shrunk_of_part _ _ part.1
    have second := TidyAxis.shrunk_of_part _ _ part.2
    constructor
    · intro x hx
      exact ⟨first.1 _ hx.1, second.1 _ hx.2⟩
    · intro h
      rcases h with ⟨x, hx⟩
      obtain ⟨y, hy⟩ := first.2 ⟨_, hx.1⟩
      obtain ⟨z, hz⟩ := second.2 ⟨_, hx.2⟩
      exact ⟨(y, z), hy, hz⟩
  tidy value handled orderedValue orderedHandled := by
    have first := TidyAxis.tidy value.1 handled.1 orderedValue.1 orderedHandled.1
    have second := TidyAxis.tidy value.2 handled.2 orderedValue.2 orderedHandled.2
    exact Cut.pair_tidy value.1 value.2 _ _ orderedValue.1 orderedValue.2 first second
      (LawfulAxis.apart_shared value.1 handled.1)

end BadgeRights
