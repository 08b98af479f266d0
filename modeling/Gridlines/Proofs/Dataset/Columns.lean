import Gridlines.Proofs.Answer.Filter
import Gridlines.Proofs.Text.ByteOrder

/-!
# The columns of a dataset

Columns are found by going through the features: a feature adds those of its names that no feature
before it has, in the order of the names.  So the names that are there already stay where they are,
each name is added once, and it is added by the first feature that has it.  Only the names count,
not what they stand for, so coercing lengths changes no column.

* `namesMet_concat` : what one more feature adds.
* `Discovers` : a list of the names of some features, each once, in the order in which they are met.
* `discovers_iff` : there is one such list.
* `Dataset.columns_exact` : it is the list of the columns.
-/

namespace Gridlines

theorem eraseDups_of_nodup {α : Type} [BEq α] [LawfulBEq α] {as : List α} (h : as.Nodup) :
    as.eraseDups = as := by
  induction as with
  | nil => rfl
  | cons a as ih =>
    obtain ⟨ha, has⟩ := List.nodup_cons.1 h
    have hfilter : as.filter (fun b => !b == a) = as := by
      refine List.filter_eq_self.2 fun b hb => ?_
      have hne : b ≠ a := fun hba => ha (hba ▸ hb)
      simpa using hne
    rw [List.eraseDups_cons, hfilter, ih has]

/-! ### Going through the features -/

/-- The place of the first feature that has a name. -/
def firstPlace (fs : List Feature) (name : String) : Nat :=
  fs.findIdx (·.properties.contains name)

/-- The names of the features, each one once.  A name comes before another one if it is met in an
earlier feature; of two names that are first met in the same feature the one with the smaller bytes
comes first. -/
structure Discovers (fs : List Feature) (names : List String) : Prop where
  nodup : names.Nodup
  /-- A name counts even if all that it stands for is `null`. -/
  mem_iff : ∀ name, name ∈ names ↔ ∃ f ∈ fs, name ∈ f.properties.keys
  ordered : names.Pairwise fun a b =>
    firstPlace fs a < firstPlace fs b ∨
      firstPlace fs a = firstPlace fs b ∧ utf8Bytes a < utf8Bytes b

variable {fs : List Feature} {f : Feature} {name : String}

theorem namesMet_append (fs gs : List Feature) :
    ∃ names, namesMet (fs ++ gs) = namesMet fs ++ names := by
  rw [namesMet, List.flatMap_append, List.eraseDups_append]
  exact ⟨_, rfl⟩

/-- One more feature adds its new names, in their order. -/
theorem namesMet_concat (fs : List Feature) (f : Feature) :
    namesMet (fs ++ [f]) = namesMet fs ++ f.properties.keys.filter (· ∉ namesMet fs) := by
  have hnew : (f.properties.keys.filter (· ∉ namesMet fs)).Nodup := f.properties.nodup_keys.filter _
  have hremove : f.properties.keys.removeAll (fs.flatMap (·.properties.keys)) =
      f.properties.keys.filter (· ∉ namesMet fs) := by
    refine List.filter_congr fun k _ => ?_
    rw [Bool.eq_iff_iff, decide_eq_true_iff, namesMet, List.mem_eraseDups]
    simp
  rw [namesMet, List.flatMap_append, List.flatMap_singleton, List.eraseDups_append, hremove,
    eraseDups_of_nodup hnew, ← namesMet]

/-! ### First places -/

theorem firstPlace_lt_iff : firstPlace fs name < fs.length ↔ name ∈ namesMet fs := by
  rw [firstPlace, List.findIdx_lt_length, mem_namesMet_iff]
  exact exists_congr fun f => and_congr_right fun _ => SortedMap.contains_iff

theorem firstPlace_append_of_mem (h : name ∈ namesMet fs) (gs : List Feature) :
    firstPlace (fs ++ gs) name = firstPlace fs name := by
  have hlt := firstPlace_lt_iff.2 h
  unfold firstPlace at *
  rw [List.findIdx_append, if_pos hlt]

/-- A new name is first met in the feature that adds it. -/
theorem firstPlace_concat_of_notMem (h : name ∉ namesMet fs) (hf : name ∈ f.properties.keys) :
    firstPlace (fs ++ [f]) name = fs.length := by
  have hbefore : ¬firstPlace fs name < fs.length := fun hlt => h (firstPlace_lt_iff.1 hlt)
  have hhere : f.properties.contains name := SortedMap.contains_iff.2 hf
  unfold firstPlace at *
  rw [List.findIdx_append, if_neg hbefore]
  simp [List.findIdx_cons, hhere]

/-! ### The names in their order -/

theorem discovers_namesMet (fs : List Feature) : Discovers fs (namesMet fs) := by
  induction fs using List.reverseRecOn with
  | nil => exact ⟨List.nodup_nil, fun name => by simp [namesMet], List.Pairwise.nil⟩
  | append_singleton fs f ih =>
    refine ⟨?_, fun _ => mem_namesMet_iff, ?_⟩
    · rw [namesMet_concat, List.nodup_append]
      refine ⟨ih.nodup, f.properties.nodup_keys.filter _, ?_⟩
      rintro a hold b hnew rfl
      simp [hold] at hnew
    · rw [namesMet_concat, List.pairwise_append]
      refine ⟨?_, ?_, fun a hold b hnew => .inl ?_⟩
      · refine ih.ordered.imp_of_mem fun ha hb hab => ?_
        rwa [firstPlace_append_of_mem ha, firstPlace_append_of_mem hb]
      · -- the new names are all first met in the last feature
        refine (f.properties.pairwise_keys.filter _).imp_of_mem fun ha hb hab => .inr ?_
        obtain ⟨ha, hanew⟩ := List.mem_filter.1 ha
        obtain ⟨hb, hbnew⟩ := List.mem_filter.1 hb
        rw [firstPlace_concat_of_notMem (by simpa using hanew) ha,
          firstPlace_concat_of_notMem (by simpa using hbnew) hb]
        exact ⟨rfl, utf8Bytes_lt_iff.2 hab⟩
      · obtain ⟨hb, hbnew⟩ := List.mem_filter.1 hnew
        rw [firstPlace_append_of_mem hold, firstPlace_concat_of_notMem (by simpa using hbnew) hb]
        exact firstPlace_lt_iff.2 hold

/-- Names are determined by the features that they are found in. -/
theorem Discovers.unique {names names' : List String} (h : Discovers fs names)
    (h' : Discovers fs names') : names = names' := by
  have hperm : names.Perm names' :=
    (List.perm_ext_iff_of_nodup h.nodup h'.nodup).2 fun name => by rw [h.mem_iff, h'.mem_iff]
  refine hperm.eq_of_pairwise (fun a b _ _ hab hba => ?_) h.ordered h'.ordered
  rcases hab with hlt | ⟨heq, hlt⟩ <;> rcases hba with hlt' | ⟨heq', hlt'⟩
  · omega
  · omega
  · omega
  · exact absurd hlt' (List.lt_asymm hlt)

theorem discovers_iff {names : List String} : Discovers fs names ↔ names = namesMet fs := by
  constructor
  · exact fun h => h.unique (discovers_namesMet fs)
  · rintro rfl
    exact discovers_namesMet fs

namespace Dataset

theorem namesMet_map_coerceLength (fs : List Feature) :
    namesMet (fs.map Feature.coerceLength) = namesMet fs := by
  have hkeys : ∀ f : Feature, f.coerceLength.properties.keys = f.properties.keys := fun f =>
    f.properties.keys_adjust _ _
  simp only [namesMet, List.flatMap_map, hkeys]

theorem columns_ofFeatures (now : String) (fs : List Feature) :
    (ofFeatures now fs).columns = namesMet fs :=
  namesMet_map_coerceLength fs

/-- **The columns are the names of the features**, each once and in the order in which they are met,
before lengths are coerced and after.  A name is a column if it is one of them, and features that
come later only add columns behind those that are there. -/
theorem columns_exact (now later : String) (xs ys : List Feature) :
    let d := ofFeatures now xs
    (∀ names, Discovers xs names ↔ names = d.columns) ∧
      (∀ names, Discovers d.features names ↔ names = d.columns) ∧
      (∀ name, d.hasColumn name ↔ name ∈ d.columns) ∧
      d.columns <+: (ofFeatures later (xs ++ ys)).columns := by
  intro d
  refine ⟨fun names => ?_, fun names => discovers_iff, fun name => hasColumn_iff_mem, ?_⟩
  · rw [discovers_iff, columns_ofFeatures]
  · obtain ⟨names, hnames⟩ := namesMet_append xs ys
    rw [columns_ofFeatures, columns_ofFeatures, hnames]
    exact List.prefix_append _ _

-- a name that stands for `null` only, and names of one feature in the order of their bytes
example : (ofFeatures "" [.ofProperties (.ofList [(Field.voltage, .null), (Field.owner, .bool true)]),
    .ofProperties (.ofList [(Field.owner, .null), ("Å", .null), ("Z", .null)])]).columns =
      [Field.owner, Field.voltage, "Z", "Å"] := by
  decide +kernel

end Dataset

end Gridlines
