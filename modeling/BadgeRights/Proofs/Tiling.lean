import BadgeRights.Proofs.Region
import BadgeRights.Declaration

set_option autoImplicit false

namespace BadgeRights.Detail

structure Fragment (d whole : Detail) : Prop where
  windows : d.windows = whole.windows
  payload : d.payload = whole.payload
  inside : ∀ p : Point, p ∈ d → p ∈ whole

theorem Fragment.refl (d : Detail) : Fragment d d := ⟨rfl, rfl, fun _ => id⟩

theorem Fragment.trans {d e f : Detail} (de : Fragment d e) (ef : Fragment e f) : Fragment d f :=
  ⟨de.windows.trans ef.windows, de.payload.trans ef.payload, fun p hp => ef.inside p (de.inside p hp)⟩

theorem fragment_of_mem_carve {handled : Region} {details : List Detail} {d : Detail}
    (h : d ∈ carve handled details) : ∃ whole ∈ details, Fragment d whole := by
  obtain ⟨whole, hwhole, h⟩ := List.mem_flatMap.1 h
  obtain ⟨r, hr, rfl⟩ := List.mem_map.1 h
  exact ⟨whole, hwhole, rfl, rfl, fun p hp => (Region.mem_of_mem_outside hr hp).1⟩

theorem fragment_of_mem_carveAll {handled details : List Detail} {d : Detail}
    (h : d ∈ carveAll handled details) : ∃ whole ∈ details, Fragment d whole := by
  unfold carveAll at h
  induction handled generalizing details with
  | nil => exact ⟨d, h, Fragment.refl d⟩
  | cons first rest ih =>
      obtain ⟨piece, hpiece, hd⟩ := ih h
      obtain ⟨whole, hwhole, hp⟩ := fragment_of_mem_carve hpiece
      exact ⟨whole, hwhole, hd.trans hp⟩

theorem apart_of_mem_carveAll {handled details : List Detail} {d : Detail}
    (h : d ∈ carveAll handled details) : ∀ e ∈ handled, Apart e d := by
  intro e he p inHandled inPiece
  exact ((mem_carveAll handled details p).1 ⟨d, h, inPiece⟩).2 e he inHandled

structure Tiling (details : List Detail) : Prop where
  ordered : ∀ d ∈ details, d.region.Ordered
  apart : details.Pairwise Apart

theorem Tiling.single (d : Detail) (ordered : d.region.Ordered) : Tiling [d] where
  ordered := by
    intro e he
    rwa [List.mem_singleton.1 he]
  apart := List.pairwise_singleton _ _

theorem Tiling.flatMap {details : List Detail} (tiling : Tiling details)
    (f : Detail → List Detail) (each : ∀ d ∈ details, Tiling (f d))
    (inside : ∀ d ∈ details, ∀ e ∈ f d, ∀ p : Point, p ∈ e → p ∈ d) :
    Tiling (details.flatMap f) where
  ordered := by
    intro e he
    obtain ⟨d, hd, he⟩ := List.mem_flatMap.1 he
    exact (each d hd).ordered e he
  apart := by
    -- Two pieces of one detail are apart in its own tiling, pieces of two details because these are.
    rw [List.pairwise_flatMap]
    refine ⟨fun d hd => (each d hd).apart, ?_⟩
    refine tiling.apart.imp_of_mem ?_
    intro d e hd he apart piece hpiece other hother p inPiece inOther
    exact apart p (inside d hd piece hpiece p inPiece) (inside e he other hother p inOther)

theorem Tiling.append {details others : List Detail} (first : Tiling details)
    (second : Tiling others) (cross : ∀ d ∈ details, ∀ e ∈ others, Apart d e) :
    Tiling (details ++ others) where
  ordered := by
    intro d hd
    rcases List.mem_append.1 hd with hd | hd
    · exact first.ordered d hd
    · exact second.ordered d hd
  apart := List.pairwise_append.2 ⟨first.apart, second.apart, cross⟩

theorem Tiling.outside (d : Detail) (handled : Region) (ordered : d.region.Ordered)
    (orderedHandled : handled.Ordered) :
    Tiling ((d.region.cut handled).outside.map d.onRegion) := by
  have tidy := Region.cut_tidy d.region handled ordered orderedHandled
  constructor
  · intro e he
    obtain ⟨r, hr, rfl⟩ := List.mem_map.1 he
    exact tidy.outside_ordered r hr
  · exact List.pairwise_map.2 (tidy.apart.imp fun apart => apart)

theorem Tiling.carve {details : List Detail} (tiling : Tiling details) (handled : Region)
    (ordered : handled.Ordered) : Tiling (carve handled details) := by
  refine tiling.flatMap _ ?_ ?_
  · intro d hd
    exact Tiling.outside d handled (tiling.ordered d hd) ordered
  · intro d hd e he p hp
    obtain ⟨r, hr, rfl⟩ := List.mem_map.1 he
    exact (Region.mem_of_mem_outside hr hp).1

theorem Tiling.carveAll {details : List Detail} (tiling : Tiling details) (handled : List Detail)
    (ordered : ∀ h ∈ handled, h.region.Ordered) : Tiling (carveAll handled details) := by
  unfold Detail.carveAll
  -- Carving out one detail leaves a tiling, from which the rest is carved.
  induction handled generalizing details with
  | nil => exact tiling
  | cons h rest ih =>
      exact ih (tiling.carve h.region (ordered h List.mem_cons_self))
        fun e he => ordered e (List.mem_cons_of_mem _ he)

def payloadAt? (details : List Detail) (p : Point) : Option Payload :=
  (details.find? (p ∈ ·)).map Detail.payload

theorem payloadAt?_of_mem {details : List Detail} (apart : details.Pairwise Apart) {d : Detail}
    (hd : d ∈ details) {p : Point} (hp : p ∈ d) : payloadAt? details p = some d.payload := by
  rw [payloadAt?, find?_mem_of_apart apart hd hp, Option.map_some]

theorem payloadAt?_eq_none (details : List Detail) (p : Point) :
    payloadAt? details p = none ↔ ∀ d ∈ details, ¬p ∈ d := by
  simp [payloadAt?]

theorem countP_mem_eq_one {details : List Detail} (apart : details.Pairwise Apart) (p : Point)
    (covered : ∃ d ∈ details, p ∈ d) : details.countP (p ∈ ·) = 1 := by
  rw [countP_mem_of_apart apart p, if_pos covered]

theorem countP_mem_eq_zero {details : List Detail} (p : Point)
    (uncovered : ¬∃ d ∈ details, p ∈ d) : details.countP (p ∈ ·) = 0 := by
  rw [List.countP_eq_zero]
  intro d hd
  simpa using fun hp => uncovered ⟨d, hd, hp⟩

end BadgeRights.Detail
