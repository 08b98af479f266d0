import Gridlines.Proofs.Question.Joined

/-!
# Questions with words around them

Words before and after a question take nothing away from it.  A keyword is looked for in the
question's own characters (`SpelledIn`), so it is still found when the question is a part of a
longer one, whatever the lowercase of the longer text does at the joints.  Of each category a rule
counts that stands where the rule for the shorter question stands, or before it.

* `Vocabulary.row?` : the place of the rule that counts for a question.
* `Vocabulary.Keeps` : one question asks for all that another one asks for.
* `Vocabulary.keeps_surrounded` : a question keeps what a part of it asks for.
-/

namespace Gridlines

theorem SpelledIn.surround {key text : List Char} (h : SpelledIn key text)
    (before after : List Char) : SpelledIn key (before ++ text ++ after) := by
  obtain ⟨run, hrun, hkey⟩ := h
  exact ⟨run, hrun.trans (List.infix_append before text after), hkey⟩

theorem Rule.SpelledIn.surround {rule : Rule} {query : String} (h : rule.SpelledIn query)
    (before after : String) : rule.SpelledIn (before ++ query ++ after) := by
  obtain ⟨k, hk, hs⟩ := h
  refine ⟨k, hk, ?_⟩
  rw [String.toList_append, String.toList_append]
  exact Gridlines.SpelledIn.surround hs before.toList after.toList

/-- The first element with a weaker property stands no later. -/
theorem findIdx?_le_of_imp {α : Type} {p q : α → Bool} {as : List α} {i : Nat}
    (h : ∀ a ∈ as, p a → q a) (hi : as.findIdx? p = some i) :
    ∃ j, j ≤ i ∧ as.findIdx? q = some j := by
  obtain ⟨hlt, rfl⟩ := List.findIdx?_eq_some_iff_findIdx_eq.1 hi
  have hle := List.findIdx_le_findIdx h
  exact ⟨as.findIdx q, hle, List.findIdx?_eq_some_iff_findIdx_eq.2 ⟨by omega, rfl⟩⟩

namespace Vocabulary

/-! ### Rows -/

/-- The place in its category of the rule that counts for a question: the first one of which the
lowercase question has a keyword. -/
def row? (query : String) (rules : List Rule) : Option Nat :=
  rules.findIdx? (·.matches (lowercase query.toList))

/-- The conditions in these places of the categories. -/
def conditionsAt (row? : List Rule → Option Nat) : List Condition :=
  categories.filterMap fun rules => (row? rules).bind fun i => rules[i]?.map Rule.condition

theorem firstRules_eq_rows (query : String) :
    firstRules query = categories.filterMap fun rules => (row? query rules).bind (rules[·]?) := by
  rw [← firedRules_lowercase]
  exact List.filterMap_congr fun rules _ => List.find?_eq_bind_findIdx?_getElem?

/-- The conditions of a question stand in its rows. -/
theorem map_condition_firstRules (query : String) :
    (firstRules query).map Rule.condition = conditionsAt (row? query) := by
  rw [firstRules_eq_rows, List.map_filterMap, conditionsAt]
  refine List.filterMap_congr fun rules _ => ?_
  rw [Option.map_bind]
  rfl

theorem firstRules_eq_nil_iff_rows (query : String) :
    firstRules query = [] ↔ ∀ rules ∈ categories, row? query rules = none := by
  rw [← firedRules_lowercase, firedRules, List.filterMap_eq_nil_iff]
  refine forall₂_congr fun rules _ => ?_
  rw [List.find?_eq_none, row?, List.findIdx?_eq_none_iff]
  exact forall₂_congr fun rule _ => iff_of_eq (Bool.not_eq_true _)

/-! ### More words -/

/-- The second question asks for all that the first one asks for. -/
structure Keeps (query longer : String) : Prop where
  /-- A question for the leading group remains the same one. -/
  aggregate : ∀ groupBy metric words, Intent.ofQuery query = .aggregate groupBy metric words →
    Intent.ofQuery longer = .aggregate groupBy metric words
  /-- A filter becomes the question for the leading owner, or it remains a filter, in which every
  category that fired fires in the same row or in an earlier one. -/
  filter : ∀ cs words, Intent.ofQuery query = .filter cs words →
    cs = conditionsAt (row? query) ∧
      (Intent.ofQuery longer = .aggregate Field.owner .count ownerDescription ∨
        ∃ words', Intent.ofQuery longer = .filter (conditionsAt (row? longer)) words' ∧
          ∀ rules ∈ categories, ∀ i, row? query rules = some i →
            ∃ j, j ≤ i ∧ row? longer rules = some j)
  /-- So what is not understood was not understood before. -/
  unrecognized : ∀ echo, Intent.ofQuery longer = .unrecognized echo →
    Intent.ofQuery query = .unrecognized query

variable {query : String}

theorem AsksOwner.surround (h : AsksOwner query) (before after : String) :
    AsksOwner (before ++ query ++ after) := by
  rw [AsksOwner, String.toList_append, String.toList_append]
  exact SpelledIn.surround h before.toList after.toList

theorem matches_surround {rules : List Rule} {rule : Rule} (hrules : rules ∈ categories)
    (hrule : rule ∈ rules) (before after : String)
    (h : rule.matches (lowercase query.toList)) :
    rule.matches (lowercase (before ++ query ++ after).toList) := by
  rw [matches_lowercase hrules hrule, decide_eq_true_iff] at h ⊢
  exact h.surround before after

theorem row?_surround {rules : List Rule} (hrules : rules ∈ categories) (before after : String)
    {i : Nat} (h : row? query rules = some i) :
    ∃ j, j ≤ i ∧ row? (before ++ query ++ after) rules = some j :=
  findIdx?_le_of_imp (fun _ hrule => matches_surround hrules hrule before after) h

theorem firstRules_eq_nil_of_surround {before after : String}
    (h : firstRules (before ++ query ++ after) = []) :
    firstRules query = [] := by
  rw [firstRules_eq_nil_iff_rows] at h ⊢
  intro rules hrules
  cases hrow : row? query rules with
  | none => rfl
  | some i =>
    obtain ⟨j, -, hj⟩ := row?_surround hrules before after hrow
    rw [h rules hrules] at hj
    cases hj

/-- **Words around a question never make it less recognized.** -/
theorem keeps_surrounded (before query after : String) :
    Keeps query (before ++ query ++ after) where
  aggregate := by
    intro groupBy metric words h
    have howner : AsksOwner query := by
      rw [← ofQuery_kind_iff, h]
      rfl
    rw [ofQuery_of_asksOwner (howner.surround before after), ← h, ofQuery_of_asksOwner howner]
  filter := by
    intro cs words h
    obtain ⟨-, rfl, hlast⟩ := (ofQuery_eq_filter_iff query cs words).1 h
    refine ⟨map_condition_firstRules query, ?_⟩
    obtain howner | ⟨-, hnil⟩ | ⟨howner, rule, hrule⟩ := asksOwner_or (before ++ query ++ after)
    · exact .inl (ofQuery_of_asksOwner howner)
    · -- a rule of the question applies to the longer one as well
      rw [firstRules_eq_nil_of_surround hnil] at hlast
      cases hlast
    · refine .inr ⟨rule.description, ?_, fun rules hrules i hi => ?_⟩
      · rw [ofQuery_of_getLast? howner hrule, map_condition_firstRules]
      · exact row?_surround hrules before after hi
  unrecognized := by
    intro echo h
    obtain ⟨-, howner, hnil⟩ := (ofQuery_eq_unrecognized_iff _ echo).1 h
    refine ofQuery_of_eq_nil (fun hq => howner (hq.surround before after)) ?_
    exact firstRules_eq_nil_of_surround hnil

-- a sigma that no longer ends its word, and a keyword of an earlier row before the question
example : row? "hvΟΔΟΣ" voltageRules = some 7 ∧ row? "138kV: hvΟΔΟΣΑ" voltageRules = some 3 := by
  decide +kernel

end Vocabulary

end Gridlines
