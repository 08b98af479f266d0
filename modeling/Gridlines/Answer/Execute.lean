import Gridlines.Answer.Leaderboard
import Gridlines.Answer.Match
import Gridlines.Dataset.Basic
import Gridlines.Decimal.Style
import Gridlines.Question.Intent

/-!
# Answering questions

The answer to an intent on a dataset: a sentence, the features to draw, and counts of what was
done.  A condition on a name that no feature has is not enforced.  Answering never fails.

* `Dataset.filter` : the features that meet the enforced conditions.
* `Dataset.execute` : the answer to an intent.
-/

namespace Gridlines

/-- Counts of what was done for an answer. -/
structure Stats where
  kind : IntentKind
  /-- How many features were looked at. -/
  scanned : Nat
  /-- How many features were found; for a leaderboard, those of the leading group. -/
  matched : Nat
  /-- How many conditions were enforced. -/
  enforced : Nat
  /-- The total length of the features found, if features have lengths. -/
  totalLength : Option Binary64

/-- An answer with the counts of what was done for it. -/
structure Result where
  text : String
  features : FeatureCollection
  stats : Stats

/-- What is said about a question that is not understood. -/
def clarification : String :=
  "I only recognize specific analytical terms like '500kV', 'underground', or " ++
    "'owns the most lines'. Please refine your query."

namespace Dataset

/-- The conditions on names that some feature has. -/
def enforced (d : Dataset) (cs : List Condition) : List Condition :=
  cs.filter fun c => d.hasColumn c.field

/-- The features that meet the enforced conditions. -/
def filter (d : Dataset) (cs : List Condition) : List Feature :=
  d.features.filter (·.meetsAll (d.enforced cs))

/-- The total length of features, those without a length left out. -/
def totalLength (features : List Feature) : Binary64 :=
  Binary64.sum (features.filterMap (·.number? Field.length))

/-- The answer to a filter. -/
def executeFilter (d : Dataset) (cs : List Condition) (description : String) : Result :=
  let found := d.filter cs
  let total := if d.hasColumn Field.length then some (totalLength found) else none
  let count := groupThousands found.length
  let text :=
    match total.bind fun t => if t.isFinite then some t.toInt64 else none with
    | some t =>
      "Found **" ++ count ++ "** " ++ description ++ " totaling **" ++ groupThousands t ++
        "** units. Lines displayed on map."
    | none => "Found **" ++ count ++ "** " ++ description ++ ". Lines displayed on map."
  ⟨text, ⟨found⟩, ⟨.filter, d.size, found.length, (d.enforced cs).length, total⟩⟩

/-- The answer to the question for the leading group; all features are drawn. -/
def executeAggregate (d : Dataset) (groupBy description : String) : Result :=
  let leader := leadingGroup? d.features groupBy
  let text :=
    match leader with
    | some (name, count) =>
      "The utility that " ++ description ++ " is **" ++ name ++ "** with " ++ toString count ++
        " lines."
    | none =>
      "No " ++ groupBy ++ " values are available to determine which " ++ description ++ "."
  ⟨text, ⟨d.features⟩, ⟨.aggregate, d.size, (leader.map Prod.snd).getD 0, 0, none⟩⟩

/-- The answer to an intent. -/
def execute (d : Dataset) : Intent → Result
  | .aggregate groupBy _ description => d.executeAggregate groupBy description
  | .filter cs description => d.executeFilter cs description
  | .unrecognized _ => ⟨clarification, ⟨[]⟩, ⟨.unrecognized, 0, 0, 0, none⟩⟩

end Dataset

end Gridlines
