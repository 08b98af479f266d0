import Gridlines.Json.Printer
import Gridlines.Text.Quoted

/-!
# Conditions

A condition is a test of one attribute: that it equals a value, contains a text or is at least a
number.  `Condition.line` writes it for a reader.
-/

namespace Gridlines

/-- What is asked of the value of an attribute. -/
inductive Test where
  /-- That it equals a value. -/
  | equals (value : Json)
  /-- That it contains a text, whatever the case of the letters. -/
  | contains (needle : String)
  /-- That it is a number not below a bound. -/
  | atLeast (bound : Binary64)

namespace Test

/-- The word for the test. -/
def word : Test → String
  | equals _ => "eq"
  | contains _ => "contains"
  | atLeast _ => "gte"

end Test

/-- A test of the value of a named attribute. -/
structure Condition where
  field : String
  test : Test

namespace Condition

/-- Bounds in reports: `0.0001`, `9e-5`, `345.0`, `1e16`. -/
def boundStyle : Style := ⟨fun p => -4 ≤ p ∧ p < 16, true, false, .away⟩

/-- Whether the condition asks for equality. -/
def isEquality (c : Condition) : Bool :=
  match c.test with
  | .equals _ => true
  | _ => false

/-- The name of the condition: the attribute's name, marked unless it asks for equality. -/
def label (c : Condition) : String :=
  match c.test with
  | .equals _ => c.field
  | .contains _ => c.field ++ "_CONTAINS"
  | .atLeast _ => c.field ++ "_MIN"

/-- What the attribute is compared with, as text. -/
def operand (c : Condition) : String :=
  match c.test with
  | .equals value => value.compact
  | .contains needle => quoted needle
  | .atLeast bound => boundStyle.writeAny bound

/-- The condition on one line: attribute, word, operand. -/
def line (c : Condition) : String := c.field ++ " " ++ c.test.word ++ " " ++ c.operand

end Condition

end Gridlines
