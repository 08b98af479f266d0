import Gridlines.Proofs.Answer.Filter
import Mathlib.Data.List.Basic

/-!
# Filters on parts of a dataset

A condition is only enforced if some feature has its name, so what a filter finds depends on all
features of a dataset.  A part of a dataset has no more names than the whole, so no more conditions
are enforced on it.

The features that a filter finds are such a part, and they meet all conditions that were enforced on
the whole.  So they are found again, and as long as there are any the same conditions are enforced.

Where two parts stand one after the other, a condition on a name that only one of them has is
enforced on both.  No feature of the other part meets it, so a filter finds in each part what it
finds there alone, or nothing.

* `Dataset.execute_filter_again` : a filter finds again what it has found.
* `Dataset.foundIn` : what a filter on a dataset finds in a part of it.
* `Dataset.execute_filter_append` : what a filter finds in features one after the other.
-/

namespace Gridlines

namespace Feature

variable {f : Feature} {cs cs' : List Condition}

theorem meetsAll_mono (h : cs' ⊆ cs) (hf : f.meetsAll cs) : f.meetsAll cs' :=
  List.all_eq_true.2 fun c hc => List.all_eq_true.1 hf c (h hc)

/-- A feature only meets conditions on names that it has. -/
theorem mem_keys_of_meets {c : Condition} (h : f.meets c) : c.field ∈ f.properties.keys := by
  obtain ⟨x, hx, -⟩ := meets_iff.1 h
  exact SortedMap.mem_keys_iff.2 ⟨x, hx⟩

end Feature

namespace Dataset

variable {d e : Dataset} {cs : List Condition} {c : Condition}

theorem Carries.mono (h : e.features ⊆ d.features) {name : String} :
    e.Carries name → d.Carries name :=
  fun ⟨f, hf, hname⟩ => ⟨f, h hf, hname⟩

/-- On a part of a dataset no more conditions are enforced than on the whole. -/
theorem enforced_subset (h : e.features ⊆ d.features) (cs : List Condition) :
    e.enforced cs ⊆ d.enforced cs := by
  intro c hc
  obtain ⟨hmem, hcarries⟩ := mem_enforced_iff.1 hc
  exact mem_enforced_iff.2 ⟨hmem, hcarries.mono h⟩

theorem enforced_eq_of_carries_iff (h : ∀ c ∈ cs, d.Carries c.field ↔ e.Carries c.field) :
    d.enforced cs = e.enforced cs := by
  refine enforced_congr fun c hc => ?_
  rw [Bool.eq_iff_iff, hasColumn_iff, hasColumn_iff]
  exact h c hc

/-! ### What has been found -/

/-- The features found have their lengths coerced already. -/
theorem features_ofFeatures_filter (later : String) (d : Dataset) (cs : List Condition) :
    (ofFeatures later (d.filter cs)).features = d.filter cs := by
  have hcoerced : ∀ f ∈ d.filter cs, f.coerceLength = id f := fun f hf =>
    d.lengths_coerced f (List.mem_of_mem_filter hf)
  exact (List.map_congr_left hcoerced).trans (List.map_id _)

theorem subset_of_features_eq (h : e.features = d.filter cs) : e.features ⊆ d.features := by
  rw [h]
  exact List.filter_subset_self d.features

theorem filter_found (h : e.features = d.filter cs) : e.filter cs = d.filter cs := by
  rw [filter, h]
  refine List.filter_eq_self.2 fun f hf => ?_
  have hsubset : e.enforced cs ⊆ d.enforced cs := enforced_subset (subset_of_features_eq h) cs
  exact Feature.meetsAll_mono hsubset (List.mem_filter.1 hf).2

/-- On what has been found the same conditions are enforced, unless it is nothing. -/
theorem enforced_found (h : e.features = d.filter cs) :
    e.enforced cs = if (d.filter cs).isEmpty then [] else d.enforced cs := by
  cases hfound : d.filter cs with
  | nil =>
    rw [List.isEmpty_nil, if_pos rfl, enforced, List.filter_eq_nil_iff]
    intro c _
    rw [hasColumn_iff, Carries, h, hfound]
    rintro ⟨f, hf, -⟩
    cases hf
  | cons f fs =>
    rw [List.isEmpty_cons, if_neg Bool.false_ne_true]
    refine enforced_eq_of_carries_iff fun c hc =>
      ⟨Carries.mono (subset_of_features_eq h), fun hcarries => ?_⟩
    -- the first feature found meets the condition, so it has the name
    have hf : f ∈ d.filter cs := by
      rw [hfound]
      exact List.mem_cons_self
    have hmeets : f.meets c := meets_of_meetsAll_enforced hc hcarries (List.mem_filter.1 hf).2
    exact ⟨f, h ▸ hf, Feature.mem_keys_of_meets hmeets⟩

/-- **A filter finds again what it has found.**  The conditions that it enforced are enforced again
if there is anything to enforce them on. -/
theorem execute_filter_again (now later : String) (fs : List Feature) (cs : List Condition)
    (description : String) :
    let d := ofFeatures now fs
    let found := (d.execute (.filter cs description)).features.features
    let e := ofFeatures later found
    (e.execute (.filter cs description)).features.features = found ∧
      e.enforced cs = if found.isEmpty then [] else d.enforced cs := by
  intro d found e
  have hfeatures : e.features = d.filter cs := features_ofFeatures_filter later d cs
  exact ⟨filter_found hfeatures, enforced_found hfeatures⟩

/-! ### One part after another -/

/-- The features of a part that meet the conditions enforced on the whole dataset. -/
def foundIn (d e : Dataset) (cs : List Condition) : List Feature :=
  e.features.filter (·.meetsAll (d.enforced cs))

theorem foundIn_sublist (h : e.features ⊆ d.features) (cs : List Condition) :
    (d.foundIn e cs).Sublist (e.filter cs) :=
  List.monotone_filter_right e.features fun _ hf => Feature.meetsAll_mono (enforced_subset h cs) hf

theorem foundIn_eq_filter (h : ∀ c ∈ cs, d.Carries c.field ↔ e.Carries c.field) :
    d.foundIn e cs = e.filter cs := by
  rw [foundIn, filter, enforced_eq_of_carries_iff h]

/-- A condition on a name that the part has not leaves nothing of it, if it is enforced at all. -/
theorem foundIn_eq_nil (hc : c ∈ cs) (hd : d.Carries c.field) (he : ¬e.Carries c.field) :
    d.foundIn e cs = [] := by
  refine List.filter_eq_nil_iff.2 fun f hf hmeets => he ?_
  exact ⟨f, hf, Feature.mem_keys_of_meets (meets_of_meetsAll_enforced hc hd hmeets)⟩

/-- Features one after the other have the names of both parts. -/
theorem carries_append_iff {d₁ d₂ : Dataset} (h : d.features = d₁.features ++ d₂.features)
    {name : String} : d.Carries name ↔ d₁.Carries name ∨ d₂.Carries name := by
  simp only [Carries, h, List.mem_append, or_and_right, exists_or]

/-- **What a filter finds in features one after the other.**  It enforces the conditions that it
enforces on any of the two parts.  In each part it finds some of what it finds there alone: all of
it if the conditions are on names that both parts have or none of them has, and nothing if there is
a condition on a name that only the other part has. -/
theorem execute_filter_append (now now₁ now₂ : String) (xs ys : List Feature)
    (cs : List Condition) (description : String) :
    let d := ofFeatures now (xs ++ ys)
    let d₁ := ofFeatures now₁ xs
    let d₂ := ofFeatures now₂ ys
    let found (d : Dataset) := (d.execute (.filter cs description)).features.features
    (∀ c, c ∈ d.enforced cs ↔ c ∈ d₁.enforced cs ∨ c ∈ d₂.enforced cs) ∧
      ∃ found₁ found₂, found d = found₁ ++ found₂ ∧
        found₁.Sublist (found d₁) ∧ found₂.Sublist (found d₂) ∧
        ((∀ c ∈ cs, c.field ∈ d₁.columns ↔ c.field ∈ d₂.columns) →
          found₁ = found d₁ ∧ found₂ = found d₂) ∧
        (∀ c ∈ cs, c.field ∈ d₂.columns → c.field ∉ d₁.columns → found₁ = []) ∧
        ∀ c ∈ cs, c.field ∈ d₁.columns → c.field ∉ d₂.columns → found₂ = [] := by
  intro d d₁ d₂ found
  have hfeatures : d.features = d₁.features ++ d₂.features := List.map_append
  have hcarries : ∀ name, d.Carries name ↔ d₁.Carries name ∨ d₂.Carries name := fun name =>
    carries_append_iff hfeatures
  have hsub₁ : d₁.features ⊆ d.features := by
    rw [hfeatures]
    exact List.subset_append_left _ _
  have hsub₂ : d₂.features ⊆ d.features := by
    rw [hfeatures]
    exact List.subset_append_right _ _
  simp only [mem_columns_iff]
  refine ⟨fun c => ?_, d.foundIn d₁ cs, d.foundIn d₂ cs, ?_, foundIn_sublist hsub₁ cs,
    foundIn_sublist hsub₂ cs, fun hboth => ⟨?_, ?_⟩, fun c hc h₂ h₁ => ?_, fun c hc h₁ h₂ => ?_⟩
  · simp only [mem_enforced_iff, hcarries, and_or_left]
  · change d.features.filter _ = _
    rw [hfeatures, List.filter_append]
    rfl
  · refine foundIn_eq_filter fun c hc => ?_
    rw [hcarries, ← hboth c hc, or_self]
  · refine foundIn_eq_filter fun c hc => ?_
    rw [hcarries, hboth c hc, or_self]
  · exact foundIn_eq_nil hc ((hcarries _).2 (.inr h₂)) h₁
  · exact foundIn_eq_nil hc ((hcarries _).2 (.inl h₁)) h₂

/-- A line of 500 kV, after which comes one whose type is `null`.  Both have a voltage, so lines of
500 kV are found in each part as before; a filter for underground lines loses the first one. -/
theorem execute_filter_append_null :
    let xs := [Feature.ofProperties (.ofList [(Field.voltage, .count 500)])]
    let ys := [Feature.ofProperties (.ofList [(Field.type, .null), (Field.voltage, .count 230)])]
    let d := ofFeatures "" (xs ++ ys)
    let d₁ := ofFeatures "" xs
    let d₂ := ofFeatures "" ys
    let volts : Condition := ⟨Field.voltage, .equals (.count 500)⟩
    let underground : Condition := ⟨Field.type, .contains "UNDERGROUND"⟩
    (volts.field ∈ d₁.columns ↔ volts.field ∈ d₂.columns) ∧
      (underground.field ∈ d₂.columns ∧ underground.field ∉ d₁.columns) ∧
      (∃ found₁ found₂, (d.execute (.filter [volts] "lines")).features.features = found₁ ++ found₂ ∧
        found₁ = (d₁.execute (.filter [volts] "lines")).features.features ∧
        found₂ = (d₂.execute (.filter [volts] "lines")).features.features) ∧
      ∃ found₁ found₂,
        (d.execute (.filter [underground] "lines")).features.features = found₁ ++ found₂ ∧
        found₁ = [] ∧
        found₂.Sublist (d₂.execute (.filter [underground] "lines")).features.features := by
  intro xs ys d d₁ d₂ volts underground
  have hvolts : volts.field ∈ d₁.columns ↔ volts.field ∈ d₂.columns := by decide +kernel
  have htype₂ : underground.field ∈ d₂.columns := by decide +kernel
  have htype₁ : underground.field ∉ d₁.columns := by decide +kernel
  obtain ⟨-, _, _, hfound, -, -, hboth, -⟩ :=
    execute_filter_append "" "" "" xs ys [volts] "lines"
  obtain ⟨-, _, _, hfound', -, hsub, -, hnil, -⟩ :=
    execute_filter_append "" "" "" xs ys [underground] "lines"
  refine ⟨hvolts, ⟨htype₂, htype₁⟩, ⟨_, _, hfound, hboth fun c hc => ?_⟩, _, _, hfound',
    hnil _ List.mem_cons_self htype₂ htype₁, hsub⟩
  obtain rfl := List.mem_singleton.1 hc
  exact hvolts

end Dataset

end Gridlines
