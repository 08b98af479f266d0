import Gridlines.Answer.Response
import Gridlines.Proofs.Answer.Places
import Gridlines.Proofs.Question.Joined

/-!
# Answers to joined questions

A question that asks for a filter is answered with the features at the places that its conditions
take.  A joined question has the conditions of both of its parts, so it takes the places that both
of them take.

* `Dataset.AnswersAt` : that a question is answered with the features at places.
* `Dataset.answersAt_places` : a filter is answered with the features at its places.
* `Dataset.answer_joined` : a joined question is answered with what both questions have in common.
-/

namespace Gridlines

namespace Dataset

/-- The question is answered with the features at these places, in the order of the dataset.  All
places of an equal feature are among them, so the answer determines them. -/
structure AnswersAt (d : Dataset) (query : String) (is : List Nat) : Prop where
  order : is.Sublist (List.range d.size)
  answer : ∃ r, (Slot.loaded d).answer query = .ok r ∧ r.features.features = d.featuresAt is ∧
    ∀ i f, d.features[i]? = some f → (i ∈ is ↔ f ∈ r.features.features)

variable {d : Dataset} {cs cs₁ cs₂ : List Condition}

theorem answersAt_places {query words : String} (h : Intent.ofQuery query = .filter cs words) :
    d.AnswersAt query (d.places cs) where
  order := (d.foundAt_places cs).order
  answer := by
    refine ⟨_, rfl, ?_, ?_⟩
    · rw [h]
      exact (d.foundAt_places cs).features
    · rw [h]
      exact (d.foundAt_places cs).all

variable {q₁ q₂ words₁ words₂ : String} {x : Char}

/-- **A joined question is answered with what its two parts have in common**: the features at the
places that both answers have. -/
theorem answer_joined (h₁ : Intent.ofQuery q₁ = .filter cs₁ words₁)
    (h₂ : Intent.ofQuery q₂ = .filter cs₂ words₂) (hapart : Vocabulary.FireApart q₁ q₂)
    (hx : IsPunctuation x) (d : Dataset) :
    (∃ cs words, Intent.ofQuery (joined q₁ x q₂) = .filter cs words ∧
      Vocabulary.Joins cs₁ cs₂ words₁ words₂ cs words) ∧
    ∃ is₁ is₂, d.AnswersAt q₁ is₁ ∧ d.AnswersAt q₂ is₂ ∧
      d.AnswersAt (joined q₁ x q₂) (is₁.filter (· ∈ is₂)) := by
  obtain ⟨cs, words, hjoined, hjoins⟩ := Vocabulary.ofQuery_joined h₁ h₂ hapart hx
  have hmem : ∀ c, c ∈ cs ↔ c ∈ cs₁ ∨ c ∈ cs₂ := by
    intro c
    rw [hjoins.conditions.mem_iff, List.mem_append]
  refine ⟨⟨cs, words, hjoined, hjoins⟩, d.places cs₁, d.places cs₂, answersAt_places h₁,
    answersAt_places h₂, ?_⟩
  rw [← places_of_mem_iff hmem]
  exact answersAt_places hjoined

/-- A line of 500 kV with a type. -/
def lineOfType (type : String) : Feature :=
  .ofProperties (.ofList [(Field.voltage, .count 500), (Field.type, .string type)])

/-- Underground lines of 500 kV, of which the dataset has one. -/
theorem answer_joined_comma :
    let d := ofFeatures "" [lineOfType "OVERHEAD", lineOfType "AC; UNDERGROUND"]
    let cs₁ : List Condition := [voltageIs 500]
    let cs₂ : List Condition := [⟨Field.type, .contains "UNDERGROUND"⟩]
    Intent.ofQuery "500kV lines" = .filter cs₁ "500kV lines" ∧
      Intent.ofQuery "Underground?" = .filter cs₂ "underground lines" ∧
      Vocabulary.FireApart "500kV lines" "Underground?" ∧ IsPunctuation ',' ∧
      (∃ cs words, Intent.ofQuery (joined "500kV lines" ',' "Underground?") = .filter cs words ∧
        Vocabulary.Joins cs₁ cs₂ "500kV lines" "underground lines" cs words) ∧
      ∃ is₁ is₂, d.AnswersAt "500kV lines" is₁ ∧ d.AnswersAt "Underground?" is₂ ∧
        d.AnswersAt (joined "500kV lines" ',' "Underground?") (is₁.filter (· ∈ is₂)) := by
  intro d cs₁ cs₂
  have h₁ : Intent.ofQuery "500kV lines" = .filter cs₁ "500kV lines" := by rfl
  have h₂ : Intent.ofQuery "Underground?" = .filter cs₂ "underground lines" := by rfl
  have hapart : Vocabulary.FireApart "500kV lines" "Underground?" := by decide
  have hx : IsPunctuation ',' := by decide
  exact ⟨h₁, h₂, hapart, hx, answer_joined h₁ h₂ hapart hx d⟩

end Dataset

end Gridlines
