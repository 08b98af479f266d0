import Gridlines.Question.Condition

/-!
# Intents

What a question asks for: the group with the most features, the features that meet conditions, or
nothing that is understood.
-/

namespace Gridlines

/-- What is measured for each group. -/
inductive Metric where
  /-- The number of features. -/
  | count
  deriving DecidableEq

/-- The name of a metric. -/
def Metric.name : Metric → String
  | count => "count"

/-- The kinds of intents. -/
inductive IntentKind where
  | aggregate
  | filter
  | unrecognized
  deriving DecidableEq

namespace IntentKind

/-- The name of the kind. -/
def name : IntentKind → String
  | aggregate => "aggregate"
  | filter => "filter"
  | unrecognized => "unrecognized"

/-- The name of the kind in capitals. -/
def heading : IntentKind → String
  | aggregate => "AGGREGATE"
  | filter => "FILTER"
  | unrecognized => "UNRECOGNIZED"

end IntentKind

/-- What a question asks for. -/
inductive Intent where
  /-- The group of an attribute with the largest metric. -/
  | aggregate (groupBy : String) (metric : Metric) (description : String)
  /-- The features that meet all conditions. -/
  | filter (conditions : List Condition) (description : String)
  /-- Nothing that is understood; the question is kept. -/
  | unrecognized (query : String)

namespace Intent

/-- The kind of the intent. -/
def kind : Intent → IntentKind
  | aggregate .. => .aggregate
  | filter .. => .filter
  | unrecognized _ => .unrecognized

/-- The words for what is asked, if it is understood. -/
def description? : Intent → Option String
  | aggregate _ _ description | filter _ description => some description
  | unrecognized _ => none

/-- The conditions of a filter; other intents have none. -/
def conditions : Intent → List Condition
  | filter conditions _ => conditions
  | _ => []

end Intent

end Gridlines
