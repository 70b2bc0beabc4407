import BadgeRights.Proofs.Difference
import BadgeRights.Proofs.Coverage

set_option autoImplicit false

namespace BadgeRights

section Axes

variable {α β π ρ : Type}

/-- What holds of a value and of what it is cut by holds of all that comes out. -/
def CutStable [Axis α π] (Q : α → Prop) : Prop :=
  ∀ value handled, Q value → Q handled → (Axis.cut value handled).All Q

theorem CutStable.fst [Axis α π] [Axis β ρ] {Q : α → Prop} (stable : CutStable Q) :
    CutStable fun box : α × β => Q box.1 := by
  intro value handled hvalue hhandled
  have pieces := stable _ _ hvalue hhandled
  exact Cut.pair_all hvalue pieces.outside (fun sa hsa _ _ => pieces.shared sa hsa)
    fun sa hsa _ _ => pieces.shared sa hsa

theorem CutStable.snd [Axis α π] [Axis β ρ] {Q : β → Prop} (stable : CutStable Q) :
    CutStable fun box : α × β => Q box.2 := by
  intro value handled hvalue hhandled
  have pieces := stable _ _ hvalue hhandled
  exact Cut.pair_all hvalue (fun _ _ => hvalue) (fun _ _ => pieces.outside)
    fun _ _ => pieces.shared

end Axes

theorem AddressList.cutStable_members (Member : String → Prop) :
    CutStable fun l : AddressList => ∀ a, a ∈ l ↔ Member a := by
  intro value handled hvalue hhandled
  have exact := cut_exactAt value handled
  constructor
  · -- A piece outside would have an address of one list that the other lacks.
    intro piece hpiece
    obtain ⟨a, ha⟩ := inhabited_of_mem_outside value handled piece hpiece
    have outside := (exact a).1.1 ⟨piece, hpiece, ha⟩
    rw [hvalue, hhandled] at outside
    exact absurd outside.1 outside.2
  · intro s hs a
    have meet : (value.cut handled).shared = some s := hs
    have shared := (exact a).2
    rw [meet, hvalue, hhandled, and_self] at shared
    simpa using shared

namespace Region

def CutStable (Q : Region → Prop) : Prop :=
  ∀ value handled : Region, Q value → Q handled → (value.cut handled).All Q

theorem CutStable.of_axes {Q : Axes → Prop} (stable : BadgeRights.CutStable Q) :
    CutStable fun r => Q r.axes := by
  intro value handled hvalue hhandled
  exact Cut.All.map (stable value.axes handled.axes hvalue hhandled)

namespace CutStable

variable {Q : Region → Prop} (stable : CutStable Q)

include stable

theorem uncovered {r : Region} {handled : List Region} (whole : Q r) (each : ∀ h ∈ handled, Q h) :
    ∀ piece ∈ r.uncovered handled, Q piece := by
  have general (pieces : List Region) (all : ∀ piece ∈ pieces, Q piece) :
      ∀ piece ∈ handled.foldl (fun pieces h => carve h pieces) pieces, Q piece := by
    induction handled generalizing pieces with
    | nil => exact all
    | cons h rest ih =>
        obtain ⟨first, later⟩ := List.forall_mem_cons.1 each
        refine ih later (carve h pieces) ?_
        intro piece hpiece
        obtain ⟨whole, hwhole, hpiece⟩ := List.mem_flatMap.1 hpiece
        exact (stable whole h (all whole hwhole) first).outside piece hpiece
  exact general [r] (by simpa using whole)

theorem outside {d : Detail} {handled : Region} (whole : Q d.region) (hhandled : Q handled) :
    ∀ e ∈ (d.region.cut handled).outside.map d.onRegion, Q e.region :=
  List.forall_mem_map.2 (stable d.region handled whole hhandled).outside

theorem carveAll {handled details : List Detail} (each : ∀ d ∈ details, Q d.region)
    (eachHandled : ∀ h ∈ handled, Q h.region) :
    ∀ d ∈ Detail.carveAll handled details, Q d.region := by
  unfold Detail.carveAll
  induction handled generalizing details with
  | nil => exact each
  | cons h rest ih =>
      obtain ⟨first, later⟩ := List.forall_mem_cons.1 eachHandled
      refine ih ?_ later
      intro d hd
      obtain ⟨whole, hwhole, hd⟩ := List.mem_flatMap.1 hd
      exact stable.outside (each whole hwhole) first d hd

theorem stackOn {existing candidate : Detail} (whole : Q existing.region)
    (hcandidate : Q candidate.region) :
    ∀ d ∈ Flattening.stackOn existing candidate, Q d.region := by
  have pieces := stable existing.region candidate.region whole hcandidate
  unfold Flattening.stackOn
  split
  · simpa using whole
  · dsimp only
    split
    · simpa using whole
    · rename_i shared meet
      refine List.forall_mem_append.2 ⟨stable.outside whole hcandidate, ?_⟩
      exact List.forall_mem_singleton.2 (pieces.shared shared meet)

theorem claimAll {candidates : List Detail} (each : ∀ d ∈ candidates, Q d.region) :
    ∀ d ∈ Flattening.claimAll candidates, Q d.region := by
  -- Candidates are cut by what was claimed before them, so that `Q` has to hold of that too.
  have general (claimed : List Detail) (all : ∀ d ∈ claimed, Q d.region) :
      ∀ d ∈ candidates.foldl Flattening.claim claimed, Q d.region := by
    induction candidates generalizing claimed with
    | nil => exact all
    | cons candidate rest ih =>
        obtain ⟨first, later⟩ := List.forall_mem_cons.1 each
        refine ih later (Flattening.claim claimed candidate) ?_
        refine List.forall_mem_append.2 ⟨?_, stable.carveAll (by simpa using first) all⟩
        intro d hd
        obtain ⟨existing, he, hd⟩ := List.mem_flatMap.1 hd
        exact stable.stackOn (all existing he) first d hd
  exact general [] (by simp)

theorem flatten {declarations : List Declaration}
    (each : ∀ declaration ∈ declarations, ∀ r ∈ declaration.regions, Q r) :
    ∀ d ∈ flatten declarations, Q d.region := by
  intro d hd
  refine stable.claimAll ?_ d ((flatten_perm declarations).mem_iff.1 hd)
  intro e he
  obtain ⟨declaration, hdeclaration, he⟩ := List.mem_flatMap.1 he
  obtain ⟨r, hr, rfl⟩ := List.mem_map.1 he
  exact each declaration hdeclaration r hr

theorem changedRegions {old new : List Detail} (eachOld : ∀ d ∈ old, Q d.region)
    (eachNew : ∀ d ∈ new, Q d.region) : ∀ r ∈ Difference.changedRegions old new, Q r := by
  intro r hr
  rcases Difference.mem_changedRegions.1 hr with ⟨d, hd, rfl⟩ | ⟨d, hd, rfl⟩ | ⟨o, ho, _, rfl⟩
  · exact stable.carveAll eachOld eachNew d hd
  · exact stable.carveAll eachNew eachOld d hd
  · obtain ⟨hold, hnew, meet⟩ := Difference.mem_overlaps.1 ho
    exact (stable _ _ (eachNew _ hnew) (eachOld _ hold)).shared _ meet

theorem denied {field : UpdateField} {changed : List Region} {declarations : List Declaration}
    {stance : Stance} {denial : Denial} (eachChanged : ∀ r ∈ changed, Q r)
    (eachDeclared : ∀ declaration ∈ declarations, ∀ r ∈ declaration.regions, Q r)
    (h : Update.checkRegions field changed declarations stance = .denied denial) :
    Q denial.region := by
  have filtered (keep : Detail → Bool) :
      ∀ f ∈ ((BadgeRights.flatten declarations).filter keep).map Detail.region, Q f :=
    List.forall_mem_map.2 fun d hd => stable.flatten eachDeclared d (List.mem_filter.1 hd).1
  unfold Update.checkRegions Update.judge at h
  split at h
  · -- What is forbidden is shared with a declared region, what is not permitted is left over.
    rename_i s found
    cases h
    obtain ⟨r, hr, f, hf, shared⟩ := Update.firstForbidden?_eq_some found
    exact (stable r f (eachChanged r hr) (filtered _ f hf)).shared s shared
  · split at h
    · cases h
    · split at h
      · rename_i s found
        cases h
        obtain ⟨r, hr, piece⟩ := Update.firstUncovered?_eq_some found
        exact stable.uncovered (eachChanged r hr) (filtered _) s piece
      · cases h

end CutStable

end Region

end BadgeRights
