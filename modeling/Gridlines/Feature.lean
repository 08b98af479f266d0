import Gridlines.Json.Record

/-!
# Features

A feature is one line of the map: an optional id, a geometry that is passed through untouched, and
named attributes.  An attribute that is `null` counts as absent wherever it is looked up, but its
name is still one of the feature's names.

* `Feature.get?`, `Feature.number?`, `Feature.text?` : looking up attributes.
* `Feature.toJson`, `Feature.shape` : the written form and its reader.  The tag `type` is written
  and, like every name that is not a member, passed over when reading.
-/

namespace Gridlines

/-! ### The attributes that questions are about -/

namespace Field

/-- Voltage of a line in kV. -/
def voltage : String := "VOLTAGE"

/-- Installation and current tags of a line. -/
def type : String := "TYPE"

/-- Operational status. -/
def status : String := "STATUS"

/-- Owning utility. -/
def owner : String := "OWNER"

/-- Length of a line. -/
def length : String := "SHAPE__Len"

end Field

/-- One line of the map. -/
structure Feature where
  id : Option Json
  geometry : Json
  properties : SortedMap Json

namespace Feature

/-- A feature that has only attributes. -/
def ofProperties (properties : SortedMap Json) : Feature := ⟨none, .null, properties⟩

/-- The feature with another geometry. -/
def withGeometry (f : Feature) (geometry : Json) : Feature := { f with geometry }

/-- The value of an attribute, unless it is missing or `null`. -/
def get? (f : Feature) (name : String) : Option Json :=
  match f.properties.get? name with
  | some x => if x.isNull then none else some x
  | none => none

/-- The value of an attribute that is a number. -/
def number? (f : Feature) (name : String) : Option Binary64 :=
  ((f.get? name).bind Json.number?).map Json.Number.toBinary64

/-- The value of an attribute that is a string. -/
def text? (f : Feature) (name : String) : Option String := (f.get? name).bind Json.string?

/-! ### Written form -/

/-- The written form: the tag, the id if there is one, the geometry and the attributes. -/
def toJson (f : Feature) : Json :=
  .object <|
    ("type", .string "Feature") :: (f.id.map fun id => ("id", id)).toList ++
      [("geometry", f.geometry), ("properties", .object f.properties.entries)]

/-- What has been read of a feature. -/
structure Draft where
  id : Option (Option Json) := none
  geometry : Option Json := none
  properties : Option (SortedMap Json) := none

/-- The members of a feature; each of them may be missing. -/
def shape : Json.Shape Draft Feature where
  name := "Feature"
  start := {}
  members :=
    [⟨"id", true, fun d => d.id.isSome,
        (Json.Decoder.optional .value).note fun x d => { d with id := some x }⟩,
      ⟨"geometry", true, fun d => d.geometry.isSome,
        Json.Decoder.value.note fun x d => { d with geometry := some x }⟩,
      ⟨"properties", true, fun d => d.properties.isSome,
        (Json.Decoder.optional .map).note fun x d => { d with properties := some (x.getD ∅) }⟩]
  finish d := .ok ⟨d.id.getD none, d.geometry.getD .null, d.properties.getD ∅⟩

end Feature

/-- The features that an answer draws on the map. -/
structure FeatureCollection where
  features : List Feature

namespace FeatureCollection

/-- The written form: the tag and the features. -/
def toJson (c : FeatureCollection) : Json :=
  .object
    [("type", .string "FeatureCollection"), ("features", .array (c.features.map Feature.toJson))]

/-- The members of a collection; the features have to be there. -/
def shape : Json.Shape (Option (List Feature)) FeatureCollection where
  name := "FeatureCollection"
  start := none
  members := [⟨"features", false, Option.isSome, Feature.shape.decoder.list.note fun x _ => some x⟩]
  finish d := match d with
    | some features => .ok ⟨features⟩
    | none => .error "features"

end FeatureCollection

end Gridlines
