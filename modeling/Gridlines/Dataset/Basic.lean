import Gridlines.Decimal.Basic
import Gridlines.Feature
import Gridlines.Files
import Gridlines.Text.Basic

/-!
# Datasets

A dataset is a list of features that never changes.  When it is built, lengths written as text
become numbers and everything else that is no number becomes `null`, so a length is a number or
absent from then on; `coerceLength_idem` says that once is enough.

* `Dataset.ofFeatures` : the dataset of a list of features.
* `Dataset.columns` : the names that some feature has, in the order in which they are first met.
* `Dataset.read`, `Dataset.load` : the dataset of a text or of a file.
-/

namespace Gridlines

/-- A length as a number: text is read, and what is no number is `null`. -/
def coerceLength : Json → Json
  | .number n => .number n
  | .string s =>
    match readDecimal? (trimBlank s.toList) with
    | some (.finite x) => .number (.float x)
    | _ => .null
  | _ => .null

theorem coerceLength_idem (x : Json) : coerceLength (coerceLength x) = coerceLength x := by
  cases x with
  | string s =>
    rw [coerceLength]
    split <;> rfl
  | _ => rfl

/-- The feature with its length as a number. -/
def Feature.coerceLength (f : Feature) : Feature :=
  { f with properties := f.properties.adjust Field.length Gridlines.coerceLength }

theorem Feature.coerceLength_coerceLength (f : Feature) :
    f.coerceLength.coerceLength = f.coerceLength := by
  have h : f.coerceLength.coerceLength.properties = f.coerceLength.properties := by
    refine SortedMap.ext ?_
    simp only [Feature.coerceLength, SortedMap.adjust, adjustEntry, List.map_map]
    refine List.map_congr_left fun e _ => ?_
    by_cases he : e.1 = Field.length <;> simp [he, coerceLength_idem]
  simpa [Feature.coerceLength] using h

/-- The names of the features, each one where it is first met. -/
def namesMet (features : List Feature) : List String :=
  (features.flatMap (·.properties.keys)).eraseDups

theorem mem_namesMet_iff {features : List Feature} {name : String} :
    name ∈ namesMet features ↔ ∃ f ∈ features, name ∈ f.properties.keys := by
  rw [namesMet, List.mem_eraseDups, List.mem_flatMap]

/-- A list of features whose lengths are numbers or absent, and when it was built. -/
structure Dataset where
  features : List Feature
  /-- When the dataset was built, as text. -/
  loadedAt : String
  lengths_coerced : ∀ f ∈ features, f.coerceLength = f

namespace Dataset

/-- The dataset of a list of features. -/
def ofFeatures (loadedAt : String) (features : List Feature) : Dataset where
  features := features.map Feature.coerceLength
  loadedAt := loadedAt
  lengths_coerced := by
    intro f hf
    obtain ⟨g, _, rfl⟩ := List.mem_map.1 hf
    exact g.coerceLength_coerceLength

/-- The number of features. -/
def size (d : Dataset) : Nat := d.features.length

/-- The names that some feature has, in the order in which they are first met. -/
def columns (d : Dataset) : List String := namesMet d.features

/-- Whether the name is a column: whether some feature has it, even if its value is `null`. -/
def hasColumn (d : Dataset) (name : String) : Bool := d.columns.contains name

/-! ### Reading -/

/-- Why a text or a file is no dataset. -/
inductive LoadError where
  | file (path : String) (e : TextFileError)
  | json (e : Json.ReadError)
  /-- The document says that it is something else. -/
  | otherType (type : String)
  /-- The document does not say what it is. -/
  | noType

/-- What is wrong with a document that is no collection of features. -/
def LoadError.detail : LoadError → String
  | otherType type => "document type is '" ++ type ++ "'"
  | _ => "document has no 'type' member"

/-- The words for an error. -/
def LoadError.message : LoadError → String
  | file path e => "Failed to read dataset file " ++ path ++ ": " ++ e.message
  | json e => "Invalid dataset JSON: " ++ e.fault.message
  | e => "Dataset is not a GeoJSON FeatureCollection: " ++ e.detail

/-- A document that should be a collection of features. -/
structure Document where
  type : Option String
  features : List Feature

/-- What has been read of a document. -/
structure Draft where
  type : Option (Option String) := none
  features : Option (List Feature) := none

/-- The members of a document; here the tag is read. -/
def documentShape : Json.Shape Draft Document where
  name := "RawCollection"
  start := {}
  members :=
    [⟨"type", false, fun d => d.type.isSome,
        (Json.Decoder.optional .text).note fun x d => { d with type := some x }⟩,
      ⟨"features", true, fun d => d.features.isSome,
        Feature.shape.decoder.list.note fun x d => { d with features := some x }⟩]
  finish d := .ok ⟨d.type.getD none, d.features.getD []⟩

/-- The dataset of a document. -/
def ofDocument (loadedAt : String) (doc : Document) : Except LoadError Dataset :=
  match doc.type with
  | some type =>
    if type = "FeatureCollection" then .ok (ofFeatures loadedAt doc.features)
    else .error (.otherType type)
  | none => .error .noType

/-- The dataset of a text. -/
def read (loadedAt : String) (s : Content) : Except LoadError Dataset :=
  match documentShape.decoder.run s with
  | .ok doc => ofDocument loadedAt doc
  | .error e => .error (.json e)

/-- The dataset of a file. -/
def load (loadedAt : String) (files : Files) (path : String) : Except LoadError Dataset :=
  match files.readText path with
  | .ok s => read loadedAt s
  | .error e => .error (.file path e)

end Dataset

end Gridlines
