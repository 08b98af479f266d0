import Gridlines.Feature
import Gridlines.Question.Condition
import Gridlines.Text.Basic
import Gridlines.Text.Lowercase

/-!
# Meeting conditions

A feature meets a condition if it has a value for the attribute that passes the test.  Numbers are
equal if their binary64 values are, all other values if they are the same; a text contains another
whatever the case of the letters.
-/

namespace Gridlines

/-- Whether a value equals another, numbers by their binary64 values. -/
def valueEquals (actual expected : Json) : Bool :=
  match actual, expected with
  | .number m, .number n => m.toBinary64.eq n.toBinary64
  | _, _ => actual.eq expected

/-- Whether a text contains another, whatever the case of the letters. -/
def textContains (text needle : String) : Bool :=
  occursIn (lowercase needle.toList) (lowercase text.toList)

/-- Whether a value passes a test. -/
def Test.passes (test : Test) (x : Json) : Bool :=
  match test with
  | .equals value => valueEquals x value
  | .contains needle =>
    match x.string? with
    | some s => textContains s needle
    | none => false
  | .atLeast bound =>
    match x.number? with
    | some n => bound.le n.toBinary64
    | none => false

namespace Feature

/-- Whether the feature meets a condition. -/
def meets (f : Feature) (c : Condition) : Bool :=
  match f.get? c.field with
  | some x => c.test.passes x
  | none => false

/-- Whether the feature meets all conditions. -/
def meetsAll (f : Feature) (cs : List Condition) : Bool := cs.all f.meets

end Feature

end Gridlines
