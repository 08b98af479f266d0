import Gridlines.Proofs.Text.Spelling
import Gridlines.Question.Vocabulary
import Mathlib.Data.List.Basic
import Mathlib.Data.List.Find
import Mathlib.Tactic.Common

/-!
# What questions are understood

The meaning of a question is read off its own characters, without a lowercase text between: a rule
applies if the question spells one of its keywords, in whatever case.

* `Vocabulary.firstRules` : of each category the first rule that applies.
* `Vocabulary.ofQuery_decides` : the owner phrase comes first, these rules next, and what is left is
  not understood.
-/

namespace Gridlines

/-- The question spells a keyword of the rule. -/
def Rule.SpelledIn (rule : Rule) (query : String) : Prop :=
  ∃ k ∈ rule.keywords, Gridlines.SpelledIn k.toList query.toList

instance (rule : Rule) (query : String) : Decidable (rule.SpelledIn query) :=
  inferInstanceAs (Decidable (∃ k ∈ rule.keywords, Gridlines.SpelledIn k.toList query.toList))

/-- The intent with the echo of the question left out. -/
def Intent.withoutEcho : Intent → Intent
  | unrecognized _ => unrecognized ""
  | intent => intent

namespace Vocabulary

/-- The question spells the phrase that asks for the owner of the most lines. -/
def AsksOwner (query : String) : Prop := SpelledIn ownerPhrase.toList query.toList

instance (query : String) : Decidable (AsksOwner query) :=
  inferInstanceAs (Decidable (SpelledIn ownerPhrase.toList query.toList))

/-- Of voltage, type and status the first rule that applies, if there is one. -/
def firstRules (query : String) : List Rule :=
  [voltageRules, typeRules, statusRules].filterMap fun rules =>
    rules.find? fun rule => rule.SpelledIn query

/-- The vocabulary decides what a question asks for. -/
structure Decides (query : String) : Prop where
  /-- The owner phrase settles the question, whatever else the question says. -/
  owner : Intent.ofQuery query = .aggregate Field.owner .count ownerDescription ↔ AsksOwner query
  /-- There is no other question for a group. -/
  aggregate : (Intent.ofQuery query).kind = .aggregate ↔ AsksOwner query
  /-- A filter has the conditions of the first rules and the words of the last of them. -/
  filter : ∀ conditions description, Intent.ofQuery query = .filter conditions description ↔
    ¬AsksOwner query ∧ conditions = (firstRules query).map Rule.condition ∧
      (firstRules query).getLast?.map Rule.description = some description
  /-- A filter has at least one condition, and no more than there are categories. -/
  few : ∀ conditions description, Intent.ofQuery query = .filter conditions description →
    1 ≤ conditions.length ∧ conditions.length ≤ 3
  /-- A question is not understood if it spells nothing of the vocabulary; it is kept as it is. -/
  unrecognized : ∀ echo, Intent.ofQuery query = .unrecognized echo ↔
    echo = query ∧ ¬AsksOwner query ∧
      ∀ rules ∈ [voltageRules, typeRules, statusRules], ∀ rule ∈ rules, ¬rule.SpelledIn query
  /-- The case of ASCII letters makes no difference but to the echo. -/
  caseless : ∀ query' : String,
    query'.toList.map Char.toLower = query.toList.map Char.toLower →
      (Intent.ofQuery query').withoutEcho = (Intent.ofQuery query).withoutEcho

/-! ### Keywords -/

theorem isKey_ownerPhrase : IsKey ownerPhrase.toList := by
  decide

theorem isKey_keywords : ∀ rules ∈ categories, ∀ rule ∈ rules, ∀ k ∈ rule.keywords,
    IsKey k.toList ∧ k.toList ≠ [] := by
  decide

theorem matches_lowercase {rules : List Rule} {rule : Rule} (hrules : rules ∈ categories)
    (hrule : rule ∈ rules) (query : String) :
    rule.matches (lowercase query.toList) = decide (rule.SpelledIn query) := by
  rw [Bool.eq_iff_iff, decide_eq_true_iff, Rule.matches, List.any_eq_true, Rule.SpelledIn]
  refine exists_congr fun k => and_congr_right fun hk => ?_
  obtain ⟨hkey, hne⟩ := isKey_keywords rules hrules rule hrule k hk
  exact occursIn_lowercase_iff hkey hne query.toList

/-! ### Rules -/

/-- The rules that fire on the lowercase question are those that apply to the question. -/
theorem firedRules_lowercase (query : String) :
    firedRules (lowercase query.toList) = firstRules query := by
  refine List.filterMap_congr fun rules hrules => List.find?_congr fun rule hrule => ?_
  exact matches_lowercase hrules hrule query

theorem length_firstRules_le (query : String) : (firstRules query).length ≤ 3 :=
  List.length_filterMap_le _ _

theorem firstRules_eq_nil_iff (query : String) :
    firstRules query = [] ↔
      ∀ rules ∈ [voltageRules, typeRules, statusRules], ∀ rule ∈ rules, ¬rule.SpelledIn query := by
  simp only [firstRules, List.filterMap_eq_nil_iff, List.find?_eq_none, decide_eq_true_eq]

theorem firstRules_congr {query query' : String}
    (h : ∀ key, SpelledIn key query'.toList ↔ SpelledIn key query.toList) :
    firstRules query' = firstRules query := by
  refine List.filterMap_congr fun rules _ => List.find?_congr fun rule _ => decide_eq_decide.2 ?_
  simp only [Rule.SpelledIn, h]

/-! ### Questions -/

theorem ofQuery_eq (query : String) :
    Intent.ofQuery query =
      if AsksOwner query then .aggregate Field.owner .count ownerDescription
      else match (firstRules query).getLast? with
        | some rule => .filter ((firstRules query).map Rule.condition) rule.description
        | none => .unrecognized query := by
  have howner := occursIn_lowercase_iff isKey_ownerPhrase (by decide) query.toList
  unfold Intent.ofQuery
  simp only [firedRules_lowercase, howner]
  rfl

theorem ofQuery_of_asksOwner {query : String} (h : AsksOwner query) :
    Intent.ofQuery query = .aggregate Field.owner .count ownerDescription := by
  rw [ofQuery_eq, if_pos h]

theorem ofQuery_of_eq_nil {query : String} (h : ¬AsksOwner query) (hnil : firstRules query = []) :
    Intent.ofQuery query = .unrecognized query := by
  rw [ofQuery_eq, if_neg h, hnil]
  rfl

theorem ofQuery_of_getLast? {query : String} {rule : Rule} (h : ¬AsksOwner query)
    (hlast : (firstRules query).getLast? = some rule) :
    Intent.ofQuery query = .filter ((firstRules query).map Rule.condition) rule.description := by
  rw [ofQuery_eq, if_neg h, hlast]

/-- A question falls under exactly one of three cases. -/
theorem asksOwner_or (query : String) :
    AsksOwner query ∨ (¬AsksOwner query ∧ firstRules query = []) ∨
      ¬AsksOwner query ∧ ∃ rule, (firstRules query).getLast? = some rule := by
  by_cases h : AsksOwner query
  · exact .inl h
  · cases hlast : (firstRules query).getLast? with
    | none => exact .inr (.inl ⟨h, List.getLast?_eq_none_iff.1 hlast⟩)
    | some rule => exact .inr (.inr ⟨h, rule, rfl⟩)

theorem ofQuery_eq_filter_iff (query : String) (conditions : List Condition)
    (description : String) : Intent.ofQuery query = .filter conditions description ↔
      ¬AsksOwner query ∧ conditions = (firstRules query).map Rule.condition ∧
        (firstRules query).getLast?.map Rule.description = some description := by
  obtain h | ⟨h, hnil⟩ | ⟨h, rule, hlast⟩ := asksOwner_or query
  · rw [ofQuery_of_asksOwner h]
    simp [h]
  · rw [ofQuery_of_eq_nil h hnil, hnil]
    simp
  · rw [ofQuery_of_getLast? h hlast, hlast]
    simp [h, eq_comm]

theorem ofQuery_eq_unrecognized_iff (query echo : String) :
    Intent.ofQuery query = .unrecognized echo ↔
      echo = query ∧ ¬AsksOwner query ∧ firstRules query = [] := by
  obtain h | ⟨h, hnil⟩ | ⟨h, rule, hlast⟩ := asksOwner_or query
  · rw [ofQuery_of_asksOwner h]
    simp [h]
  · rw [ofQuery_of_eq_nil h hnil]
    simp [h, hnil, eq_comm]
  · rw [ofQuery_of_getLast? h hlast]
    have hne : firstRules query ≠ [] := by
      rintro hnil
      rw [hnil] at hlast
      cases hlast
    simp [hne]

theorem ofQuery_kind_iff (query : String) :
    (Intent.ofQuery query).kind = .aggregate ↔ AsksOwner query := by
  obtain h | ⟨h, hnil⟩ | ⟨h, rule, hlast⟩ := asksOwner_or query
  · rw [ofQuery_of_asksOwner h]
    simp [Intent.kind, h]
  · rw [ofQuery_of_eq_nil h hnil]
    simp [Intent.kind, h]
  · rw [ofQuery_of_getLast? h hlast]
    simp [Intent.kind, h]

theorem withoutEcho_congr {query query' : String}
    (h : ∀ key, SpelledIn key query'.toList ↔ SpelledIn key query.toList) :
    (Intent.ofQuery query').withoutEcho = (Intent.ofQuery query).withoutEcho := by
  have howner : AsksOwner query' ↔ AsksOwner query := h ownerPhrase.toList
  rw [ofQuery_eq, ofQuery_eq, firstRules_congr h]
  simp only [howner]
  split
  · rfl
  · cases (firstRules query).getLast? <;> rfl

/-- **The vocabulary decides every question.**  The keywords are looked for in the question itself,
up to the case of ASCII letters and with the Kelvin sign as another `K`. -/
theorem ofQuery_decides (query : String) : Decides query where
  owner := by
    refine ⟨fun h => ?_, ofQuery_of_asksOwner⟩
    rw [← ofQuery_kind_iff, h]
    rfl
  aggregate := ofQuery_kind_iff query
  filter := ofQuery_eq_filter_iff query
  few := by
    intro conditions description h
    obtain ⟨-, rfl, hlast⟩ := (ofQuery_eq_filter_iff query conditions description).1 h
    rw [List.length_map]
    refine ⟨List.length_pos_iff.2 ?_, length_firstRules_le query⟩
    rintro hnil
    rw [hnil] at hlast
    cases hlast
  unrecognized := by
    intro echo
    rw [ofQuery_eq_unrecognized_iff, firstRules_eq_nil_iff]
  caseless := by
    intro query' h
    refine withoutEcho_congr fun key => ?_
    rw [← spelledIn_map_toLower, h, spelledIn_map_toLower]

-- the Kelvin sign is a `K`, but the dotted `İ` is no `I`
example : (Intent.ofQuery "138\u212AV, İn Service, OVERHEAD").conditions.length = 2 := by decide

end Vocabulary

end Gridlines
