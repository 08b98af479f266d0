import Gridlines.Question.Intent

/-!
# Explaining questions

A report of how a question is understood, on a few labelled lines.  A question that is not
understood is quoted, so it stays on its line.
-/

namespace Gridlines

/-- How a question is understood. -/
structure Explanation where
  kind : IntentKind
  groupBy : Option String
  metric : Option Metric
  conditions : List String
  description : Option String
  query : Option String

namespace Explanation

/-- The explanation of an intent. -/
def ofIntent (intent : Intent) : Explanation :=
  let common : Explanation :=
    ⟨intent.kind, none, none, intent.conditions.map Condition.line, intent.description?, none⟩
  match intent with
  | .aggregate groupBy metric _ => { common with groupBy := some groupBy, metric := some metric }
  | .filter .. => common
  | .unrecognized query => { common with query := some query }

/-- A line that is there only if there is something to say. -/
def labelled (label : String) : Option String → List String
  | some text => [label ++ ": " ++ text]
  | none => []

/-- The lines of the report. -/
def lines (e : Explanation) : List String :=
  ["=== EXPLAIN INTENT ===", "Kind: " ++ e.kind.heading] ++
    labelled "Group By" e.groupBy ++ labelled "Metric" (e.metric.map Metric.name) ++
    (if e.conditions.isEmpty then [] else "Conditions (AND):" :: e.conditions.map ("  - " ++ ·)) ++
    labelled "Description" e.description ++ labelled "Query" (e.query.map quoted)

/-- The report. -/
def report (e : Explanation) : String := String.join (e.lines.map (· ++ "\n"))

end Explanation

end Gridlines
