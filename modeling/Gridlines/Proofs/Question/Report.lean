import Gridlines.Proofs.Question.Surrounded
import Gridlines.Proofs.Text.Unquoted
import Gridlines.Question.Explain

/-!
# Reports on questions

A question that is not understood is quoted in its report.  The report has three lines whatever the
question is, and the question can be read back from the last one, so no question looks like another
one.  Of a question that is understood nothing is reported but the rules that have fired.

* `Vocabulary.FiresAlike` : the same rules fire for two questions.
* `Vocabulary.Reported` : what the report says about a question.
* `Vocabulary.reported` : it says so about every question.
-/

namespace Gridlines

/-- The report on a question. -/
def reportOn (query : String) : String := (Explanation.ofIntent (.ofQuery query)).report

namespace Vocabulary

/-- The same rules fire for both questions: the owner phrase, or in each category the rule in the
same row or none. -/
def FiresAlike (query query' : String) : Prop :=
  AsksOwner query ∧ AsksOwner query' ∨
    ¬AsksOwner query ∧ ¬AsksOwner query' ∧ ∀ rules ∈ categories, row? query rules = row? query' rules

/-- The lines of the report on a question that is not understood: the last one ends with its quoted
text. -/
def unrecognizedLines (text : String) : List String :=
  ["=== EXPLAIN INTENT ===", "Kind: UNRECOGNIZED", "Query: " ++ text]

/-- The report says what has become of the question. -/
structure Reported (query : String) : Prop where
  /-- If the question is not understood, there are three lines, and the last one quotes it. -/
  lines : (Intent.ofQuery query).kind = .unrecognized →
    ∃ text, reportOn query = String.join ((unrecognizedLines text).map (· ++ "\n")) ∧
      unquote? text.toList = some query.toList ∧ ∀ c ∈ text.toList, ¬IsControl c
  /-- The line breaks behind these lines are the only controls, -/
  controls : (Intent.ofQuery query).kind = .unrecognized →
    (reportOn query).toList.filter IsControl = ['\n', '\n', '\n']
  /-- and no other question that is not understood has the same report. -/
  injective : (Intent.ofQuery query).kind = .unrecognized → ∀ query',
    (Intent.ofQuery query').kind = .unrecognized → reportOn query' = reportOn query →
      query' = query
  /-- If the question is understood, its report depends on the rules that fire, and on nothing
  else. -/
  fired : (Intent.ofQuery query).kind ≠ .unrecognized → ∀ query', FiresAlike query query' →
    reportOn query' = reportOn query

variable {query query' : String}

/-! ### Questions that are not understood -/

theorem ofQuery_of_kind (h : (Intent.ofQuery query).kind = .unrecognized) :
    Intent.ofQuery query = .unrecognized query := by
  obtain hask | ⟨hask, hnil⟩ | ⟨hask, rule, hlast⟩ := asksOwner_or query
  · rw [ofQuery_of_asksOwner hask] at h
    cases h
  · exact ofQuery_of_eq_nil hask hnil
  · rw [ofQuery_of_getLast? hask hlast] at h
    cases h

theorem lines_unrecognized (query : String) :
    (Explanation.ofIntent (.unrecognized query)).lines = unrecognizedLines (quoted query) := by
  simp [Explanation.ofIntent, Explanation.lines, Explanation.labelled, Intent.kind,
    Intent.conditions, Intent.description?, IntentKind.heading, unrecognizedLines]

theorem reportOn_of_kind (h : (Intent.ofQuery query).kind = .unrecognized) :
    reportOn query = String.join ((unrecognizedLines (quoted query)).map (· ++ "\n")) := by
  rw [reportOn, ofQuery_of_kind h, Explanation.report, lines_unrecognized]

/-- The controls in lines that have none themselves are the line breaks behind them. -/
theorem filter_isControl_join {lines : List String}
    (h : ∀ line ∈ lines, ∀ c ∈ line.toList, ¬IsControl c) :
    (String.join (lines.map (· ++ "\n"))).toList.filter IsControl =
      List.replicate lines.length '\n' := by
  induction lines with
  | nil => rfl
  | cons line lines ih =>
    obtain ⟨hline, hlines⟩ := List.forall_mem_cons.1 h
    have hnone : line.toList.filter IsControl = [] :=
      List.filter_eq_nil_iff.2 fun c hc => by simpa using hline c hc
    rw [List.map_cons, String.join_cons, String.toList_append, String.toList_append,
      List.filter_append, List.filter_append, hnone, ih hlines]
    rfl

theorem not_isControl_unrecognizedLines {text : String} (h : ∀ c ∈ text.toList, ¬IsControl c) :
    ∀ line ∈ unrecognizedLines text, ∀ c ∈ line.toList, ¬IsControl c := by
  simp only [unrecognizedLines, List.forall_mem_cons, String.toList_append]
  refine ⟨?_, ?_, List.forall_mem_append.2 ⟨?_, h⟩, List.forall_mem_nil _⟩
  all_goals exact not_isControl_of_all (by decide)

/-- The quoted text can be found in the lines. -/
theorem join_unrecognizedLines_injective {text text' : String}
    (h : String.join ((unrecognizedLines text).map (· ++ "\n")) =
      String.join ((unrecognizedLines text').map (· ++ "\n"))) : text = text' := by
  simpa [unrecognizedLines, String.join_cons] using h

/-! ### Questions that are understood -/

/-- Questions for which the same rules fire have the same intent. -/
theorem FiresAlike.ofQuery_eq (h : FiresAlike query query')
    (hkind : (Intent.ofQuery query).kind ≠ .unrecognized) :
    Intent.ofQuery query' = Intent.ofQuery query := by
  rcases h with ⟨hask, hask'⟩ | ⟨hask, hask', hrows⟩
  · rw [ofQuery_of_asksOwner hask, ofQuery_of_asksOwner hask']
  · have hrules : firstRules query' = firstRules query := by
      rw [firstRules_eq_rows, firstRules_eq_rows]
      exact List.filterMap_congr fun rules hmem => by rw [hrows rules hmem]
    obtain howner | ⟨-, hnil⟩ | ⟨-, rule, hlast⟩ := asksOwner_or query
    · exact absurd howner hask
    · rw [ofQuery_of_eq_nil hask hnil] at hkind
      exact absurd rfl hkind
    · rw [ofQuery_of_getLast? hask hlast, ofQuery_of_getLast? hask' (hrules ▸ hlast), hrules]

/-- **A question cannot forge its report.** -/
theorem reported (query : String) : Reported query where
  lines h := by
    refine ⟨quoted query, reportOn_of_kind h, unquote?_quoted query, fun c hc => ?_⟩
    exact not_isControl_of_mem_quoted hc
  controls h := by
    rw [reportOn_of_kind h, filter_isControl_join]
    · rfl
    · exact not_isControl_unrecognizedLines fun c hc => not_isControl_of_mem_quoted hc
  injective h query' h' heq := by
    rw [reportOn_of_kind h, reportOn_of_kind h'] at heq
    exact quoted_injective (join_unrecognizedLines_injective heq)
  fired h query' halike := by rw [reportOn, reportOn, halike.ofQuery_eq h]

end Vocabulary

end Gridlines
