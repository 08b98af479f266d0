import Gridlines.Proofs.Answer.Filter
import Mathlib.Data.List.Sort

/-!
# Places of features

Equal features may stand at several places of a dataset, so what a filter finds is described by the
places of its features.  A filter takes the places whose features its conditions admit, one by one;
with the conditions of two filters it takes the places that both of them take.

* `Dataset.places` : the places that conditions take.
* `Dataset.FoundAt` : that features are found at places; `Dataset.foundAt_places` says where a
  filter finds its features.
* `Dataset.places_of_mem_iff` : the places that the conditions of two lists take together.
-/

namespace Gridlines

namespace Dataset

/-- The places of the features that meet the enforced conditions. -/
def places (d : Dataset) (cs : List Condition) : List Nat :=
  (List.range d.size).filter fun i => (d.features[i]?).any fun f => f.meetsAll (d.enforced cs)

/-- The features at places of the dataset. -/
def featuresAt (d : Dataset) (is : List Nat) : List Feature := is.filterMap (d.features[·]?)

/-- The features are those at these places, in the order of the dataset.  All places of an equal
feature are among them, so the features determine them. -/
structure FoundAt (d : Dataset) (found : List Feature) (is : List Nat) : Prop where
  order : is.Sublist (List.range d.size)
  features : found = d.featuresAt is
  all : ∀ i f, d.features[i]? = some f → (i ∈ is ↔ f ∈ found)

variable {d : Dataset} {cs cs₁ cs₂ : List Condition}

theorem mem_places_iff {i : Nat} :
    i ∈ d.places cs ↔ ∃ f, d.features[i]? = some f ∧ ∀ c ∈ cs, d.Admits c f := by
  rw [places, List.mem_filter, List.mem_range, size]
  constructor
  · rintro ⟨-, h⟩
    obtain ⟨f, hf, hmeets⟩ := (Option.any_eq_true _ _).1 h
    exact ⟨f, hf, meetsAll_enforced_iff.1 hmeets⟩
  · rintro ⟨f, hf, hadmits⟩
    obtain ⟨hi, -⟩ := List.getElem?_eq_some_iff.1 hf
    refine ⟨hi, ?_⟩
    rw [hf]
    exact meetsAll_enforced_iff.2 hadmits

theorem pairwise_places : (d.places cs).Pairwise (· < ·) :=
  List.pairwise_lt_range.filter _

theorem filter_eq_filterMap_range (p : Feature → Bool) (fs : List Feature) :
    fs.filter p =
      ((List.range fs.length).filter fun i => (fs[i]?).any p).filterMap (fs[·]?) := by
  induction fs with
  | nil => rfl
  | cons f fs ih =>
    have hrest : (((List.range fs.length).map Nat.succ).filter
        fun i => ((f :: fs)[i]?).any p).filterMap ((f :: fs)[·]?) = fs.filter p := by
      rw [ih, List.filter_map, List.filterMap_map]
      rfl
    rw [List.length_cons, List.range_succ_eq_map, List.filter_cons, List.filter_cons]
    cases hp : p f with
    | false => simp [hp, hrest]
    | true => simp [hp, hrest]

theorem filter_eq_featuresAt (d : Dataset) (cs : List Condition) :
    d.filter cs = d.featuresAt (d.places cs) :=
  filter_eq_filterMap_range _ d.features

theorem mem_filter_iff {f : Feature} (hf : f ∈ d.features) :
    f ∈ d.filter cs ↔ ∀ c ∈ cs, d.Admits c f := by
  rw [filter, List.mem_filter, and_iff_right hf, meetsAll_enforced_iff]

/-- A filter finds the features at the places that its conditions take. -/
theorem foundAt_places (d : Dataset) (cs : List Condition) :
    d.FoundAt (d.filter cs) (d.places cs) where
  order := List.filter_sublist
  features := d.filter_eq_featuresAt cs
  all := by
    intro i f hf
    rw [mem_filter_iff (List.mem_of_getElem? hf), mem_places_iff]
    simp [hf]

/-- The conditions of two lists together take the places that both lists take. -/
theorem places_of_mem_iff (h : ∀ c, c ∈ cs ↔ c ∈ cs₁ ∨ c ∈ cs₂) :
    d.places cs = (d.places cs₁).filter (· ∈ d.places cs₂) := by
  have hmem : ∀ i, i ∈ d.places cs ↔ i ∈ (d.places cs₁).filter (· ∈ d.places cs₂) := by
    intro i
    rw [List.mem_filter, decide_eq_true_iff]
    simp only [mem_places_iff, h]
    constructor
    · rintro ⟨f, hf, hadmits⟩
      exact ⟨⟨f, hf, fun c hc => hadmits c (.inl hc)⟩, f, hf, fun c hc => hadmits c (.inr hc)⟩
    · rintro ⟨⟨f, hf, hadmits₁⟩, g, hg, hadmits₂⟩
      obtain rfl : f = g := Option.some.inj (hf.symm.trans hg)
      exact ⟨f, hf, fun c hc => hc.elim (hadmits₁ c) (hadmits₂ c)⟩
  exact pairwise_places.eq_of_mem_iff (pairwise_places.filter _) hmem

end Dataset

end Gridlines
