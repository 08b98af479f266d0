import Gridlines.Dataset.Summary
import Gridlines.Proofs.Answer.Places
import Gridlines.Proofs.Dataset.Alike

/-!
# Attributes that are `null`

An attribute that is `null` is looked up as if it were missing, and nothing that is answered reads
attributes in another way.  Only the columns of a dataset show that it is there.  So features that
differ in no more than such attributes are answered alike, as long as their datasets have the same
columns.

* `Feature.SameButNulls` : features that differ only in attributes that are `null`.
* `Dataset.SameButNulls` : datasets of such features with the same columns.
* `Dataset.SameAnswers` : what two datasets answer alike.
* `Dataset.sameAnswers_of_sameButNulls` : datasets that differ only in attributes that are `null`
  do.
-/

namespace Gridlines

namespace Feature

/-- The features differ in no more than attributes that are `null` in one of them and missing in
the other. -/
structure SameButNulls (f g : Feature) : Prop where
  id : f.id = g.id
  geometry : f.geometry = g.geometry
  members : ∀ name x, x ≠ .null →
    ((name, x) ∈ f.properties.entries ↔ (name, x) ∈ g.properties.entries)

variable {f g : Feature}

theorem SameButNulls.get?_eq (h : SameButNulls f g) (name : String) :
    f.get? name = g.get? name := by
  refine Option.ext fun x => ?_
  rw [get?_eq_some_iff, get?_eq_some_iff, ← SortedMap.mem_entries_iff, ← SortedMap.mem_entries_iff]
  exact and_congr_left (h.members name x)

/-- What is not `null` in a coerced feature. -/
theorem mem_coerceLength_iff {name : String} {x : Json} (hx : x ≠ .null) :
    (name, x) ∈ f.coerceLength.properties.entries ↔
      ∃ y, y ≠ .null ∧ (name, y) ∈ f.properties.entries ∧
        x = if name = Field.length then Gridlines.coerceLength y else y := by
  simp only [SortedMap.mem_entries_iff, coerceLength, SortedMap.get?_adjust]
  by_cases hname : name = Field.length
  · simp only [hname, if_true, Option.map_eq_some_iff]
    constructor
    · rintro ⟨y, hy, rfl⟩
      refine ⟨y, ?_, hy, rfl⟩
      rintro rfl
      exact hx rfl
    · rintro ⟨y, -, hy, rfl⟩
      exact ⟨y, hy, rfl⟩
  · simp only [hname, if_false]
    constructor
    · intro hmem
      exact ⟨x, hx, hmem, rfl⟩
    · rintro ⟨y, -, hy, rfl⟩
      exact hy

theorem SameButNulls.coerceLength (h : SameButNulls f g) :
    SameButNulls f.coerceLength g.coerceLength where
  id := h.id
  geometry := h.geometry
  members := by
    intro name x hx
    rw [mem_coerceLength_iff hx, mem_coerceLength_iff hx]
    refine exists_congr fun y => and_congr_right fun hy => ?_
    rw [h.members name y hy]

theorem SameButNulls.alike (h : SameButNulls f g) : f.Alike g :=
  alike_of_get? fun name => .inl (h.get?_eq name)

end Feature

namespace Dataset

/-- The datasets have the same columns, and their features differ in no more than attributes that
are `null`. -/
structure SameButNulls (d e : Dataset) : Prop where
  columns : ∀ name, d.hasColumn name = e.hasColumn name
  features : List.Forall₂ Feature.SameButNulls d.features e.features

namespace SameButNulls

variable {d e : Dataset} (h : SameButNulls d e)
include h

theorem alike : Alike d e := ⟨h.columns, h.features.imp fun _ _ hfg => hfg.alike⟩

theorem filter (cs : List Condition) :
    List.Forall₂ Feature.SameButNulls (d.filter cs) (e.filter cs) := by
  rw [Dataset.filter, Dataset.filter, h.alike.enforced_eq]
  refine List.rel_filter (fun f g hfg => ?_) h.features
  exact Bool.eq_iff_iff.1 (hfg.alike.meetsAll_eq _)

theorem values_eq (name : String) : d.values name = e.values name :=
  filterMap_eq_of_forall₂ (fun _ _ hfg => hfg.get?_eq name) h.features

/-- The features at a place meet the same conditions. -/
theorem any_meetsAll_eq (cs : List Condition) (i : Nat) :
    (d.features[i]?.any fun f => f.meetsAll cs) = e.features[i]?.any fun f => f.meetsAll cs := by
  by_cases hi : i < d.features.length
  · have hi' : i < e.features.length := h.features.length_eq ▸ hi
    rw [List.getElem?_eq_getElem hi, List.getElem?_eq_getElem hi']
    exact (h.features.get hi hi').alike.meetsAll_eq cs
  · have hi' : ¬i < e.features.length := h.features.length_eq ▸ hi
    rw [List.getElem?_eq_none (Nat.not_lt.1 hi), List.getElem?_eq_none (Nat.not_lt.1 hi')]

theorem places_eq (cs : List Condition) : d.places cs = e.places cs := by
  rw [places, places, h.alike.size_eq, h.alike.enforced_eq]
  exact List.filter_congr fun i _ => h.any_meetsAll_eq (e.enforced cs) i

end SameButNulls

/-- What the two datasets answer alike: everything but the features, and these come from the same
places and differ in no more than attributes that are `null`. -/
structure SameAnswers (d e : Dataset) : Prop where
  text : ∀ intent, (d.execute intent).text = (e.execute intent).text
  stats : ∀ intent, (d.execute intent).stats = (e.execute intent).stats
  features : ∀ intent, List.Forall₂ Feature.SameButNulls
    (d.execute intent).features.features (e.execute intent).features.features
  places : ∀ cs description, ∃ is,
    d.FoundAt (d.execute (.filter cs description)).features.features is ∧
      e.FoundAt (e.execute (.filter cs description)).features.features is
  total : ∀ top, (d.summary top).total = (e.summary top).total
  samples : ∀ top, (d.summary top).samples = (e.summary top).samples

theorem SameButNulls.sameAnswers {d e : Dataset} (h : SameButNulls d e) : SameAnswers d e where
  text := fun intent => (h.alike.execute_eq intent).1
  stats := fun intent => (h.alike.execute_eq intent).2
  features := by
    intro intent
    cases intent with
    | aggregate groupBy metric description => exact h.features
    | filter cs description => exact h.filter cs
    | unrecognized query => exact .nil
  places := by
    intro cs description
    refine ⟨d.places cs, d.foundAt_places cs, ?_⟩
    rw [h.places_eq]
    exact e.foundAt_places cs
  total := fun _ => h.alike.size_eq
  samples := by
    intro top
    simp only [summary, h.values_eq, funext h.columns]

variable {xs ys : List Feature}

/-- **An attribute that is `null` is the same as a missing one, as long as the columns are the
same.** -/
theorem sameAnswers_of_sameButNulls (h : List.Forall₂ Feature.SameButNulls xs ys)
    (now later : String)
    (hcolumns : ∀ name,
      name ∈ (ofFeatures now xs).columns ↔ name ∈ (ofFeatures later ys).columns) :
    SameAnswers (ofFeatures now xs) (ofFeatures later ys) := by
  refine SameButNulls.sameAnswers ⟨fun name => ?_, ?_⟩
  · rw [Bool.eq_iff_iff, hasColumn_iff_mem, hasColumn_iff_mem]
    exact hcolumns name
  · exact List.rel_map (fun _ _ hfg => hfg.coerceLength) h

/-- A line with an owner and a length, and one without both: once the owner is `null` and once the
length. -/
theorem sameAnswers_of_sameButNulls_lines :
    let line := Feature.ofProperties
      (.ofList [(Field.owner, .string "ALPHA"), (Field.length, .string " 12.5")])
    let xs := [line, .ofProperties (.ofList [(Field.owner, .null)])]
    let ys := [line, .ofProperties (.ofList [(Field.length, .null)])]
    List.Forall₂ Feature.SameButNulls xs ys ∧
      (∀ name, name ∈ (ofFeatures "" xs).columns ↔ name ∈ (ofFeatures "" ys).columns) ∧
      SameAnswers (ofFeatures "" xs) (ofFeatures "" ys) := by
  intro line xs ys
  have hnulls : List.Forall₂ Feature.SameButNulls xs ys := by
    refine .cons ⟨rfl, rfl, fun _ _ _ => Iff.rfl⟩ (.cons ⟨rfl, rfl, fun name x hx => ?_⟩ .nil)
    change (name, x) ∈ [(Field.owner, Json.null)] ↔ (name, x) ∈ [(Field.length, Json.null)]
    simp [hx]
  have hcolumns : ∀ name,
      name ∈ (ofFeatures "" xs).columns ↔ name ∈ (ofFeatures "" ys).columns := by
    intro name
    have heq : (ofFeatures "" xs).columns = (ofFeatures "" ys).columns := by decide +kernel
    rw [heq]
  exact ⟨hnulls, hcolumns, sameAnswers_of_sameButNulls hnulls "" "" hcolumns⟩

end Dataset

end Gridlines
