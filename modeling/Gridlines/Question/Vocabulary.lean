import Gridlines.Feature
import Gridlines.Question.Intent
import Gridlines.Text.Basic
import Gridlines.Text.Lowercase

/-!
# The vocabulary of questions

Which words mean which conditions.  The rules stand in three categories, voltage, type and status;
of a category the first rule with a keyword in the question counts.  Keywords are lowercase ASCII
and are searched for in the lowercase question.

The owner phrase settles a question wherever it stands.  Otherwise each category gives at most one
condition, and the last category that gives one describes the question; without any condition the
question is not understood.

* `Vocabulary.categories` : the rules.
* `Intent.ofQuery` : what a question asks for.
-/

namespace Gridlines

/-- A rule: any of the keywords stands for the condition. -/
structure Rule where
  keywords : List String
  condition : Condition
  description : String

/-- Whether a keyword of the rule stands in a lowercase text. -/
def Rule.matches (rule : Rule) (lowered : List Char) : Bool :=
  rule.keywords.any fun k => occursIn k.toList lowered

/-- The condition that a line has a voltage. -/
def voltageIs (kv : Nat) : Condition :=
  ⟨Field.voltage, .equals (.number (.float (((Binary64.ofInt kv).finite?).getD .zero)))⟩

namespace Vocabulary

/-- The rule for a voltage in kV. -/
def voltageRule (kv : Nat) : Rule :=
  ⟨[toString kv ++ "kv"], voltageIs kv, toString kv ++ "kV lines"⟩

/-- The rule for high voltage, from 345 kV on. -/
def highVoltageRule : Rule :=
  ⟨["high voltage", "hv"], ⟨Field.voltage, .atLeast (.ofInt 345)⟩, "high voltage lines (345kV+)"⟩

/-- The rules for voltages; an exact voltage comes before high voltage. -/
def voltageRules : List Rule :=
  [500, 345, 230, 138, 765, 161, 115].map voltageRule ++ [highVoltageRule]

/-- The rules for types of lines. -/
def typeRules : List Rule :=
  [⟨["underground"], ⟨Field.type, .contains "UNDERGROUND"⟩, "underground lines"⟩,
    ⟨["overhead"], ⟨Field.type, .contains "OVERHEAD"⟩, "overhead lines"⟩]

/-- The rules for the status of lines. -/
def statusRules : List Rule :=
  [⟨["under construction"], ⟨Field.status, .equals (.string "UNDER CONSTRUCTION")⟩,
      "lines under construction"⟩,
    ⟨["in service"], ⟨Field.status, .equals (.string "IN SERVICE")⟩, "lines in service"⟩]

/-- The categories, in the order in which they are consulted. -/
def categories : List (List Rule) := [voltageRules, typeRules, statusRules]

/-- The phrase that asks for the owner of the most lines. -/
def ownerPhrase : String := "owns the most lines"

/-- The words for that question. -/
def ownerDescription : String := "utility owns the most lines"

end Vocabulary

/-! ### Understanding questions -/

/-- The rules that a lowercase text fires, one of each category at most. -/
def firedRules (lowered : List Char) : List Rule :=
  Vocabulary.categories.filterMap fun rules => rules.find? (·.matches lowered)

/-- What a question asks for. -/
def Intent.ofQuery (query : String) : Intent :=
  let lowered := lowercase query.toList
  if occursIn Vocabulary.ownerPhrase.toList lowered then
    .aggregate Field.owner .count Vocabulary.ownerDescription
  else
    let fired := firedRules lowered
    match fired.getLast? with
    | some rule => .filter (fired.map Rule.condition) rule.description
    | none => .unrecognized query

end Gridlines
