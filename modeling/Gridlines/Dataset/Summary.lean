import Gridlines.Dataset.Basic

/-!
# Summaries of a dataset

How many features there are, which names they have, and for four of the names the most frequent
values.  Values are told apart by their JSON text, so `1` and `1.0` are two values.  The most
frequent value comes first; of equally frequent ones the one with the smaller text.

* `rankValues` : the distinct values of a list in that order, with their counts.
* `Dataset.summary`, `Summary.toJson` : the summary and its written form.
-/

namespace Gridlines

/-- A value and how often it occurs. -/
structure ValueCount where
  value : Json
  count : Nat

/-- The written form of a counted value. -/
def ValueCount.toJson (v : ValueCount) : Json :=
  .object [("value", v.value), ("count", .count v.count)]

/-- Counts one more occurrence of a value under its text. -/
def countValue (counts : SortedMap ValueCount) (x : Json) : SortedMap ValueCount :=
  counts.insert x.compact <|
    match counts.get? x.compact with
    | some v => { v with count := v.count + 1 }
    | none => ⟨x, 1⟩

/-- The distinct values of a list under their texts, with their counts. -/
def countValues (xs : List Json) : SortedMap ValueCount := xs.foldl countValue ∅

/-- Whether an entry comes before another: by count, then by text. -/
def ranksBefore (a b : String × ValueCount) : Bool :=
  b.2.count < a.2.count || (a.2.count == b.2.count && a.1 ≤ b.1)

/-- The distinct values of a list, the most frequent first. -/
def rankValues (xs : List Json) : List ValueCount :=
  ((countValues xs).entries.mergeSort ranksBefore).map Prod.snd

/-- What there is to know about a dataset at a glance. -/
structure Summary where
  total : Nat
  columns : List String
  loadedAt : String
  /-- The most frequent values of each sampled name. -/
  samples : SortedMap (List ValueCount)

namespace Summary

/-- The names whose values are sampled. -/
def sampled : List String := [Field.voltage, Field.owner, Field.status, Field.type]

/-- The written form. -/
def toJson (s : Summary) : Json :=
  .object
    [("total_features", .count s.total),
      ("columns", .array (s.columns.map .string)),
      ("loaded_at", .string s.loadedAt),
      ("sample_data",
        .object (s.samples.entries.map fun e => (e.1, .array (e.2.map ValueCount.toJson))))]

end Summary

namespace Dataset

/-- The values of a name, in the order of the features. -/
def values (d : Dataset) (name : String) : List Json := d.features.filterMap (·.get? name)

/-- The summary with so many sample values for each name. -/
def summary (d : Dataset) (top : Nat) : Summary where
  total := d.size
  columns := d.columns
  loadedAt := d.loadedAt
  samples := .ofList <| (Summary.sampled.filter d.hasColumn).map fun name =>
    (name, (rankValues (d.values name)).take top)

end Dataset

end Gridlines
