import Gridlines.Proofs.Answer.Groups
import Gridlines.Proofs.Dataset.Samples

/-!
# The order of the features

Two datasets that have the same features in different orders give the same reports.  Whether a name
is a column, how large a group is and how often a value occurs do not depend on the order, and what
is ranked is ranked by counts and texts alone.  Only the features of an answer come in the order of
the dataset.

* `Dataset.SameReports` : what two datasets report alike.
* `Dataset.sameReports_of_perm` : datasets of the same features in any order do.
-/

namespace Gridlines

theorem leadingGroup?_perm {features features' : List Feature} (h : features.Perm features')
    (field : String) : leadingGroup? features field = leadingGroup? features' field :=
  leadingGroup?_congr (h.filterMap _)

namespace Dataset

variable {d e : Dataset}

/-! ### Columns, groups and values -/

theorem hasColumn_perm (h : d.features.Perm e.features) (name : String) :
    d.hasColumn name = e.hasColumn name := by
  rw [Bool.eq_iff_iff, hasColumn_iff, hasColumn_iff]
  exact exists_congr fun f => and_congr_left fun _ => h.mem_iff

theorem enforced_perm (h : d.features.Perm e.features) (cs : List Condition) :
    d.enforced cs = e.enforced cs :=
  enforced_congr fun c _ => hasColumn_perm h c.field

theorem filter_perm (h : d.features.Perm e.features) (cs : List Condition) :
    (d.filter cs).Perm (e.filter cs) := by
  rw [filter, filter, enforced_perm h]
  exact h.filter _

theorem values_perm (h : d.features.Perm e.features) (name : String) :
    (d.values name).Perm (e.values name) :=
  h.filterMap _

/-! ### Reports -/

/-- The two datasets give the same reports, but for the order of the features that are found. -/
structure SameReports (d e : Dataset) : Prop where
  aggregate : ∀ groupBy metric description,
    (d.execute (.aggregate groupBy metric description)).text =
        (e.execute (.aggregate groupBy metric description)).text ∧
      (d.execute (.aggregate groupBy metric description)).stats =
        (e.execute (.aggregate groupBy metric description)).stats
  filter : ∀ cs description,
    (d.execute (.filter cs description)).stats.enforced =
        (e.execute (.filter cs description)).stats.enforced ∧
      (d.execute (.filter cs description)).stats.matched =
        (e.execute (.filter cs description)).stats.matched ∧
      (d.execute (.filter cs description)).features.features.Perm
        (e.execute (.filter cs description)).features.features
  /-- The samples are written alike for every number of values, -/
  samples : ∀ top, ∃ text,
    (d.summary top).sampleText? = some text ∧ (e.summary top).sampleText? = some text
  /-- and would be in whatever orders the counted values were ranked. -/
  ranking : ∀ name (es es' : List (String × ValueCount)),
    es.Perm (countValues (d.values name)).entries →
    es'.Perm (countValues (e.values name)).entries →
      (es.mergeSort ranksBefore).map (fun v => v.2.text) =
        (es'.mergeSort ranksBefore).map fun v => v.2.text

theorem sameReports_of_features_perm (h : d.features.Perm e.features) : SameReports d e where
  aggregate := by
    intro groupBy metric description
    have hsize : d.size = e.size := h.length_eq
    have hleader := leadingGroup?_perm h groupBy
    simp only [execute, executeAggregate, hleader, hsize, and_self]
  filter := by
    intro cs description
    have hfound := filter_perm h cs
    refine ⟨?_, hfound.length_eq, hfound⟩
    simp only [execute, executeFilter, enforced_perm h]
  samples := by
    intro top
    refine ⟨_, Summary.sampleText?_eq _, ?_⟩
    rw [← Summary.sampleText?_eq]
    exact Summary.sampleText?_congr (fun name => (hasColumn_perm h name).symm)
      (fun name => ((values_perm h name).map _).symm) top
  ranking := by
    intro name es es' hes hes'
    rw [map_text_mergeSort hes, map_text_mergeSort hes', tally_perm ((values_perm h name).map _)]

variable {xs ys : List Feature}

/-- **The order of the features changes no report**, whenever the datasets are built. -/
theorem sameReports_of_perm (h : xs.Perm ys) (now later : String) :
    SameReports (ofFeatures now xs) (ofFeatures later ys) :=
  sameReports_of_features_perm (h.map Feature.coerceLength)

/-- Two owners with one line each, the one first in the order of the names last in the dataset. -/
theorem sameReports_of_perm_swap :
    let alpha := Feature.ofProperties (.ofList [(Field.owner, .string "ALPHA")])
    let zeta := Feature.ofProperties
      (.ofList [(Field.owner, .string "ZETA"), (Field.length, .null)])
    [zeta, alpha].Perm [alpha, zeta] ∧
      SameReports (ofFeatures "" [zeta, alpha]) (ofFeatures "" [alpha, zeta]) := by
  intro alpha zeta
  exact ⟨.swap alpha zeta [], sameReports_of_perm (.swap alpha zeta []) "" ""⟩

end Dataset

end Gridlines
