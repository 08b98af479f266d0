import Gridlines.Answer.Execute
import Gridlines.Dataset.Slot
import Gridlines.Question.Vocabulary

/-!
# Questions and responses

A question is sent as a text, and the response to it is the sentence and the features of its
answer.  A slot without a dataset has no answer, whatever is asked.

* `Question.shape`, `Response.shape` : the readers of their written forms.
* `Slot.execute`, `Slot.answer` : what a slot answers to an intent and to a question.
-/

namespace Gridlines

/-- A question as it is sent. -/
structure Question where
  query : String

namespace Question

/-- The written form. -/
def toJson (q : Question) : Json := .object [("query", .string q.query)]

/-- The members of a question. -/
def shape : Json.Shape (Option String) Question where
  name := "QueryRequest"
  start := none
  members := [⟨"query", false, Option.isSome, Json.Decoder.text.note fun x _ => some x⟩]
  finish d := match d with
    | some query => .ok ⟨query⟩
    | none => .error "query"

end Question

/-- An answer as it is sent. -/
structure Response where
  text : String
  features : FeatureCollection

namespace Response

/-- The written form. -/
def toJson (r : Response) : Json :=
  .object [("text_response", .string r.text), ("geojson_data", r.features.toJson)]

/-- What has been read of an answer. -/
structure Draft where
  text : Option String := none
  features : Option FeatureCollection := none

/-- The members of an answer; both have to be there. -/
def shape : Json.Shape Draft Response where
  name := "QueryResponse"
  start := {}
  members :=
    [⟨"text_response", false, fun d => d.text.isSome,
        Json.Decoder.text.note fun x d => { d with text := some x }⟩,
      ⟨"geojson_data", false, fun d => d.features.isSome,
        FeatureCollection.shape.decoder.note fun x d => { d with features := some x }⟩]
  finish d :=
    match d.text, d.features with
    | none, _ => .error "text_response"
    | _, none => .error "geojson_data"
    | some text, some features => .ok ⟨text, features⟩

end Response

/-! ### Answers of a slot -/

/-- There is no dataset to answer from. -/
inductive Unavailable where
  | unavailable
  deriving DecidableEq

namespace Unavailable

/-- The code of the error. -/
def code : Unavailable → String
  | unavailable => "GRID_DATASET_UNAVAILABLE"

/-- How serious the error is. -/
def severity : Unavailable → String
  | unavailable => "ERROR"

/-- The words for the error. -/
def message : Unavailable → String
  | unavailable => "Data not yet loaded or failed to load."

/-- The error on one line. -/
def line (e : Unavailable) : String :=
  "[" ++ e.severity ++ "] " ++ e.code ++ ": " ++ e.message

end Unavailable

namespace Slot

/-- The answer of the slot to an intent. -/
def execute (slot : Slot) (intent : Intent) : Except Unavailable Result :=
  match slot.dataset with
  | some d => .ok (d.execute intent)
  | none => .error .unavailable

/-- The answer of the slot to a question. -/
def answer (slot : Slot) (query : String) : Except Unavailable Response :=
  (slot.execute (.ofQuery query)).map fun r => ⟨r.text, r.features⟩

end Slot

end Gridlines
