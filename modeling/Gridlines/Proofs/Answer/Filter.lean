import Gridlines.Answer.Execute
import Gridlines.Proofs.Binary64.Value
import Gridlines.Proofs.Json.Equality
import Gridlines.Proofs.SortedMap

/-!
# What a filter finds

The features that a filter finds are described without the program's tests: numbers are compared
by their exact values, other values by their structure, and a condition counts if any feature has
its name, be the value `null`.

* `Test.Holds` : what a test asks of a value, and `Test.passes_iff` that the program decides it.
* `Dataset.Admits` : when a condition lets a feature through.
* `Dataset.execute_filter_exact` : a filter finds the features that all conditions admit.
-/

namespace Gridlines

/-- What a test asks of a value. -/
def Test.Holds : Test → Json → Prop
  | .equals (.number n), .number m =>
    ∃ v, m.toBinary64.value? = some v ∧ n.toBinary64.value? = some v
  | .equals y, x => x.dropZeroSigns = y.dropZeroSigns
  | .contains needle, x => ∃ s, x = .string s ∧ lowercase needle.toList <:+: lowercase s.toList
  | .atLeast bound, x =>
    ∃ n, x = .number n ∧ ∃ v w, bound.value? = some v ∧ n.toBinary64.value? = some w ∧ v ≤ w

theorem Test.passes_equals_iff (x y : Json) :
    (Test.equals y).passes x ↔ (Test.equals y).Holds x := by
  cases x <;> cases y <;>
    simp [passes, valueEquals, Holds, Binary64.eq_iff, Json.eq_iff, Json.dropZeroSigns]

theorem Test.passes_iff (test : Test) (x : Json) : test.passes x ↔ test.Holds x := by
  cases test with
  | equals y => exact passes_equals_iff x y
  | contains needle => cases x <;> simp [passes, Holds, Json.string?, textContains, occursIn_iff]
  | atLeast bound => cases x <;> simp [passes, Holds, Json.number?, Binary64.le_iff]

namespace Feature

theorem get?_eq_some_iff {f : Feature} {name : String} {x : Json} :
    f.get? name = some x ↔ f.properties.get? name = some x ∧ x ≠ .null := by
  unfold get?
  cases h : f.properties.get? name with
  | none => simp
  | some y => cases y <;> simp [Json.isNull] <;> rintro rfl <;> simp

theorem get?_eq_none_iff {f : Feature} {name : String} :
    f.get? name = none ↔ ∀ x, f.properties.get? name = some x → x = .null := by
  rw [Option.eq_none_iff_forall_ne_some]
  refine forall_congr' fun x => ?_
  rw [ne_eq, get?_eq_some_iff, not_and, not_not]

/-- A feature meets a condition if it has a value other than `null` for which the test holds. -/
theorem meets_iff {f : Feature} {c : Condition} :
    f.meets c ↔ ∃ x, f.properties.get? c.field = some x ∧ x ≠ .null ∧ c.test.Holds x := by
  unfold meets
  cases h : f.get? c.field with
  | none =>
    simp only [Bool.false_eq_true, false_iff, not_exists]
    rintro x ⟨hx, hn, -⟩
    rw [get?_eq_some_iff.2 ⟨hx, hn⟩] at h
    cases h
  | some y =>
    obtain ⟨hy, hn⟩ := get?_eq_some_iff.1 h
    simp [Test.passes_iff, hy, hn]

theorem not_meets_equals_null (f : Feature) (field : String) :
    ¬f.meets ⟨field, .equals .null⟩ := by
  rw [meets_iff]
  rintro ⟨x, -, hn, h⟩
  cases x <;> simp [Test.Holds, Json.dropZeroSigns] at h hn

end Feature

namespace Dataset

/-- Some feature of the dataset has the name. -/
def Carries (d : Dataset) (name : String) : Prop := ∃ f ∈ d.features, name ∈ f.properties.keys

/-- The condition lets the feature through: no feature of the dataset has the name at all, or this
one has a value other than `null` for which the test holds. -/
def Admits (d : Dataset) (c : Condition) (f : Feature) : Prop :=
  ¬d.Carries c.field ∨
    ∃ x, f.properties.get? c.field = some x ∧ x ≠ .null ∧ c.test.Holds x

variable {d : Dataset} {cs : List Condition}

/-- The columns are the names that some feature has. -/
theorem mem_columns_iff {name : String} : name ∈ d.columns ↔ d.Carries name := mem_namesMet_iff

theorem hasColumn_iff_mem {name : String} : d.hasColumn name ↔ name ∈ d.columns :=
  List.contains_iff_mem

theorem hasColumn_iff {name : String} : d.hasColumn name ↔ d.Carries name :=
  hasColumn_iff_mem.trans mem_columns_iff

theorem mem_enforced_iff {c : Condition} : c ∈ d.enforced cs ↔ c ∈ cs ∧ d.Carries c.field := by
  rw [enforced, List.mem_filter, hasColumn_iff]

/-- Which conditions are enforced depends on the columns alone. -/
theorem enforced_congr {e : Dataset} (h : ∀ c ∈ cs, d.hasColumn c.field = e.hasColumn c.field) :
    d.enforced cs = e.enforced cs :=
  List.filter_congr h

theorem meets_of_meetsAll_enforced {c : Condition} (hc : c ∈ cs) (hd : d.Carries c.field)
    {f : Feature} (h : f.meetsAll (d.enforced cs)) : f.meets c :=
  List.all_eq_true.1 h c (mem_enforced_iff.2 ⟨hc, hd⟩)

/-- The enforced conditions are met if all conditions admit the feature. -/
theorem meetsAll_enforced_iff {f : Feature} :
    f.meetsAll (d.enforced cs) ↔ ∀ c ∈ cs, d.Admits c f := by
  rw [Feature.meetsAll, List.all_eq_true]
  refine ⟨fun h c hc => ?_, fun h c hc => ?_⟩
  · by_cases hd : d.Carries c.field
    · exact .inr (Feature.meets_iff.1 (h c (mem_enforced_iff.2 ⟨hc, hd⟩)))
    · exact .inl hd
  · obtain ⟨hc, hd⟩ := mem_enforced_iff.1 hc
    exact Feature.meets_iff.2 ((h c hc).resolve_left (not_not_intro hd))

theorem filter_eq_nil {c : Condition} (hc : c ∈ cs) (hd : d.Carries c.field)
    (h : ∀ f ∈ d.features, ¬f.meets c) : d.filter cs = [] := by
  refine List.filter_eq_nil_iff.2 fun f hf hm => h f hf ?_
  exact meets_of_meetsAll_enforced hc hd hm

open Classical in
/-- **A filter finds exactly the features that all its conditions admit**, in the order of the
dataset.  A condition on a name that some feature has is enforced even if all its values are `null`,
and then no feature is found; nor is any if the condition asks for `null`. -/
theorem execute_filter_exact (loadedAt : String) (fs : List Feature) (cs : List Condition)
    (description : String) :
    let d := ofFeatures loadedAt fs
    let found := (d.execute (.filter cs description)).features.features
    found = d.features.filter (fun f => ∀ c ∈ cs, d.Admits c f) ∧
      (∀ c ∈ cs, d.Carries c.field →
        c ∈ d.enforced cs ∧
        ((∀ f ∈ d.features, ∀ x, f.properties.get? c.field = some x → x = .null) → found = []) ∧
        (c.test = .equals .null → found = [])) ∧
      ∀ f : Feature, ∀ field, ¬f.meets ⟨field, .equals .null⟩ := by
  intro d found
  refine ⟨List.filter_congr fun f _ => ?_, fun c hc hd => ⟨?_, fun hnull => ?_, fun ht => ?_⟩,
    Feature.not_meets_equals_null⟩
  · rw [Bool.eq_iff_iff, meetsAll_enforced_iff, decide_eq_true_iff]
  · exact mem_enforced_iff.2 ⟨hc, hd⟩
  · refine filter_eq_nil hc hd fun f hf hm => ?_
    obtain ⟨x, hx, hn, -⟩ := Feature.meets_iff.1 hm
    exact hn (hnull f hf x hx)
  · obtain ⟨field, test⟩ := c
    obtain rfl : test = .equals .null := ht
    exact filter_eq_nil hc hd fun f _ => f.not_meets_equals_null field

end Dataset

end Gridlines
