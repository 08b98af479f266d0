import Gridlines.Proofs.Answer.Groups
import Gridlines.Proofs.Decimal.Thousands

/-!
# Answers that say one thing

The text of an answer, its features and its counts are made apart.  They agree whatever is asked:
the number in the text is that of the features, the total is in the text if there is one, and the
leading group has as many of the features as the text says.

* `foundText?` : the number that the text of a filter starts with, as it is written.
* `Dataset.FilterAnswer`, `Dataset.AggregateAnswer` : what the parts of an answer have in common.
* `Dataset.execute_agrees` : every answer is of that form.
-/

namespace Gridlines

/-! ### The number in a text -/

/-- What stands before the first occurrence of a mark, if it occurs. -/
def before? (mark : List Char) : List Char → Option (List Char)
  | [] => if mark.isEmpty then some [] else none
  | c :: cs => if mark.isPrefixOf (c :: cs) then some [] else (before? mark cs).map (c :: ·)

/-- The characters between the leading `Found **` and the next `**`. -/
def foundText? (text : String) : Option (List Char) :=
  let opening := "Found **".toList
  if opening.isPrefixOf text.toList then before? "**".toList (text.toList.drop opening.length)
  else none

theorem before?_append {m : Char} {cs : List Char} (h : m ∉ cs) (ms rest : List Char) :
    before? (m :: ms) (cs ++ ((m :: ms) ++ rest)) = some cs := by
  induction cs with
  | nil => simp [before?]
  | cons c cs ih =>
    obtain ⟨hc, hcs⟩ := not_or.1 (List.mem_cons.not.1 h)
    have ih := ih hcs
    rw [List.cons_append] at ih ⊢
    simp [before?, hc, ih]

theorem foundText?_append {count : String} (h : '*' ∉ count.toList) (rest : String) :
    foundText? ("Found **" ++ count ++ "** " ++ rest) = some count.toList := by
  have htext : ("Found **" ++ count ++ "** " ++ rest).toList =
      "Found **".toList ++ (count.toList ++ ("**".toList ++ (' ' :: rest.toList))) := by
    simp only [String.toList_append, List.append_assoc]
    rfl
  rw [foundText?, htext, if_pos (List.isPrefixOf_iff_prefix.2 (List.prefix_append _ _)),
    List.drop_left]
  exact before?_append h ['*'] (' ' :: rest.toList)

namespace Dataset

/-! ### The three kinds of answers -/

/-- The parts of an answer to a filter, in whose text a number is written as `count`. -/
structure FilterAnswer (d : Dataset) (cs : List Condition) (description : String) (count : String)
    (r : Result) : Prop where
  shown : foundText? r.text = some count.toList
  /-- Without its commas it is the number of the features. -/
  numeral : withoutCommas count.toList = (toString r.features.features.length).toList
  matched : r.stats.matched = r.features.features.length
  scanned : r.stats.scanned = d.size
  matched_le : r.stats.matched ≤ r.stats.scanned
  enforced : r.stats.enforced = cs.countP fun c => c.field ∈ d.columns
  total : r.stats.totalLength.isSome ↔ Field.length ∈ d.columns
  /-- The text gives a total if there is one and it is finite; -/
  says_total : (∃ total, r.text = "Found **" ++ count ++ "** " ++ description ++ " totaling **" ++
    total ++ "** units. Lines displayed on map.") ↔ ∃ t, r.stats.totalLength = some (.finite t)
  /-- otherwise it only gives the number. -/
  says_count : (∀ t, r.stats.totalLength ≠ some (.finite t)) →
    r.text = "Found **" ++ count ++ "** " ++ description ++ ". Lines displayed on map."

/-- The parts of an answer to the question for the leading group. -/
structure AggregateAnswer (d : Dataset) (groupBy description : String) (r : Result) : Prop where
  features : r.features.features = d.features
  leader : (∃ f ∈ d.features, ∃ x, f.properties.get? groupBy = some x ∧ x ≠ .null) →
    ∃ name, r.text = "The utility that " ++ description ++ " is **" ++ name ++ "** with " ++
        toString r.stats.matched ++ " lines." ∧
      groupSize r.features.features groupBy name = r.stats.matched
  no_leader : (∀ f ∈ d.features, ∀ x, f.properties.get? groupBy = some x → x = .null) →
    r.stats.matched = 0 ∧
      r.text = "No " ++ groupBy ++ " values are available to determine which " ++ description ++ "."

/-- The parts of an answer to a question that is not understood. -/
structure NoAnswer (r : Result) : Prop where
  features : r.features.features = []
  scanned : r.stats.scanned = 0
  matched : r.stats.matched = 0
  enforced : r.stats.enforced = 0
  total : r.stats.totalLength = none

/-- The parts of the answer to an intent agree. -/
def Agrees (d : Dataset) : Intent → Result → Prop
  | .filter cs description, r => ∃ count, d.FilterAnswer cs description count r
  | .aggregate groupBy _ description, r => d.AggregateAnswer groupBy description r
  | .unrecognized _, r => NoAnswer r

variable {d : Dataset} {cs : List Condition} {description groupBy : String}

/-! ### Filters -/

theorem length_filter_le (d : Dataset) (cs : List Condition) : (d.filter cs).length ≤ d.size :=
  List.length_filter_le _ d.features

theorem length_enforced (d : Dataset) (cs : List Condition) :
    (d.enforced cs).length = cs.countP fun c => c.field ∈ d.columns := by
  rw [enforced, ← List.countP_eq_length_filter]
  refine List.countP_congr fun c _ => ?_
  rw [decide_eq_true_iff, hasColumn_iff_mem]

/-- The text of the answer to a filter gives the total of the features if it is finite. -/
theorem text_executeFilter (d : Dataset) (cs : List Condition) (description : String) :
    (∃ t, (d.executeFilter cs description).stats.totalLength = some (.finite t) ∧
      (d.executeFilter cs description).text =
        "Found **" ++ groupThousands (d.filter cs).length ++ "** " ++ description ++
          " totaling **" ++ groupThousands (Binary64.finite t).toInt64 ++
          "** units. Lines displayed on map.") ∨
    (∀ t, (d.executeFilter cs description).stats.totalLength ≠ some (.finite t)) ∧
      (d.executeFilter cs description).text =
        "Found **" ++ groupThousands (d.filter cs).length ++ "** " ++ description ++
          ". Lines displayed on map." := by
  unfold executeFilter
  dsimp only
  generalize (if d.hasColumn Field.length then some (totalLength (d.filter cs)) else none) = total
  rcases total with _ | t | s | _
  · exact .inr ⟨by simp, rfl⟩
  · exact .inl ⟨t, rfl, rfl⟩
  · exact .inr ⟨by simp, rfl⟩
  · exact .inr ⟨by simp, rfl⟩

theorem says_total_ne (start total : String) :
    start ++ ". Lines displayed on map." ≠
      start ++ " totaling **" ++ total ++ "** units. Lines displayed on map." := by
  intro h
  simp only [String.append_assoc, String.append_right_inj] at h
  have hhead := congrArg (fun s => s.toList.head?) h
  simp [String.toList_append] at hhead

theorem executeFilter_agrees (d : Dataset) (cs : List Condition) (description : String) :
    d.FilterAnswer cs description (groupThousands (d.filter cs).length)
      (d.executeFilter cs description) := by
  have hstar : '*' ∉ (groupThousands (d.filter cs).length).toList := by
    intro h
    rcases mem_groupThousands h with h | h | h <;> exact absurd h (by decide)
  constructor
  case shown =>
    rcases text_executeFilter d cs description with ⟨t, -, htext⟩ | ⟨-, htext⟩
    · rw [htext, String.append_assoc, String.append_assoc, String.append_assoc]
      exact foundText?_append hstar _
    · rw [htext, String.append_assoc]
      exact foundText?_append hstar _
  case numeral =>
    rw [withoutCommas_groupThousands, Nat.toString_eq_repr, Nat.repr_eq_ofList_toDigits,
      String.toList_ofList]
    rfl
  case matched => rfl
  case scanned => rfl
  case matched_le => exact d.length_filter_le cs
  case enforced => exact d.length_enforced cs
  case total =>
    rw [← hasColumn_iff_mem]
    change (if d.hasColumn Field.length then some _ else none).isSome ↔ _
    cases d.hasColumn Field.length <;> simp
  case says_total =>
    rcases text_executeFilter d cs description with ⟨t, htotal, htext⟩ | ⟨hnone, htext⟩
    · exact iff_of_true ⟨_, htext⟩ ⟨t, htotal⟩
    · refine iff_of_false ?_ (by simpa using hnone)
      rintro ⟨total, htotal⟩
      exact says_total_ne _ _ (htext.symm.trans htotal)
  case says_count =>
    intro hnone
    rcases text_executeFilter d cs description with ⟨t, htotal, -⟩ | ⟨-, htext⟩
    · exact absurd htotal (hnone t)
    · exact htext

/-! ### Leading groups -/

theorem executeAggregate_agrees (d : Dataset) (groupBy description : String) :
    d.AggregateAnswer groupBy description (d.executeAggregate groupBy description) := by
  constructor
  case features => rfl
  case leader =>
    rintro ⟨f, hf, x, hx, hne⟩
    cases hleader : leadingGroup? d.features groupBy with
    | none =>
      have hget := leadingGroup?_eq_none_iff.1 hleader f hf
      rw [Feature.get?_eq_some_iff.2 ⟨hx, hne⟩] at hget
      cases hget
    | some e =>
      obtain ⟨name, n⟩ := e
      refine ⟨name, by simp [executeAggregate, hleader], ?_⟩
      rw [← count_groupNames]
      simpa [executeAggregate, hleader] using (leadingGroup?_eq_some_iff.1 hleader).count
  case no_leader =>
    intro hnull
    have hleader : leadingGroup? d.features groupBy = none :=
      leadingGroup?_eq_none_iff.2 fun f hf => Feature.get?_eq_none_iff.2 (hnull f hf)
    simp [executeAggregate, hleader]

/-- **The parts of every answer agree**: what the text says is what the features and the counts
are. -/
theorem execute_agrees (d : Dataset) (intent : Intent) : d.Agrees intent (d.execute intent) := by
  cases intent with
  | aggregate groupBy metric description => exact d.executeAggregate_agrees groupBy description
  | filter cs description => exact ⟨_, d.executeFilter_agrees cs description⟩
  | unrecognized query => exact ⟨rfl, rfl, rfl, rfl, rfl⟩

end Dataset

end Gridlines
