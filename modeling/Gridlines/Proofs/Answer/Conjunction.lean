import Gridlines.Proofs.Answer.Consistency
import Gridlines.Proofs.Answer.Places

/-!
# Lists of conditions

The conditions of a filter are a conjunction: a list of them finds what all of them admit, so it
only matters which conditions are in the list.  Their order changes nothing about the answer, and to
repeat some of them changes no more than the number of conditions that are enforced.  The total
length depends on the order in which lengths are added up, but it is taken over the features found,
and these are the same ones in the same order.

* `Dataset.executeFilter_congr` : the answer to the same conditions in another list.
* `Dataset.execute_filter_conjunction` : a filter takes a list of conditions as a conjunction.
-/

namespace Gridlines

/-- The answer with another number of enforced conditions. -/
def Result.withEnforced (r : Result) (n : Nat) : Result :=
  { r with stats := { r.stats with enforced := n } }

namespace Dataset

variable {d : Dataset} {cs cs' : List Condition}

/-- More conditions find fewer features. -/
theorem filter_sublist_of_subset (h : cs' ⊆ cs) : (d.filter cs).Sublist (d.filter cs') := by
  refine List.monotone_filter_right d.features fun f hf => ?_
  rw [meetsAll_enforced_iff] at hf ⊢
  exact fun c hc => hf c (h hc)

theorem filter_congr (h : ∀ c, c ∈ cs ↔ c ∈ cs') : d.filter cs = d.filter cs' := by
  refine List.filter_congr fun f _ => ?_
  rw [Bool.eq_iff_iff, meetsAll_enforced_iff, meetsAll_enforced_iff]
  exact forall_congr' fun c => imp_congr_left (h c)

/-- The same conditions in another list have the same answer, but for the number of those that are
enforced. -/
theorem executeFilter_congr (h : ∀ c, c ∈ cs ↔ c ∈ cs') (description : String) :
    d.executeFilter cs' description =
      (d.executeFilter cs description).withEnforced (d.enforced cs').length := by
  simp only [executeFilter, Result.withEnforced, filter_congr h]

theorem executeFilter_perm (h : cs.Perm cs') (description : String) :
    d.executeFilter cs' description = d.executeFilter cs description := by
  have henforced : (d.enforced cs').length = (d.enforced cs).length := (h.filter _).symm.length_eq
  rw [executeFilter_congr fun c => h.mem_iff, henforced]
  rfl

/-- **A filter takes its conditions as a conjunction.**  Two lists of conditions together find what
both of them find, place by place and in the order of the dataset.  The order of the conditions does
not change the answer, and repeating some of them only changes how many are enforced. -/
theorem execute_filter_conjunction (d : Dataset) (cs cs' : List Condition) (description : String) :
    let answer (cs : List Condition) := d.execute (.filter cs description)
    let found (cs : List Condition) := (answer cs).features.features
    (∃ is is', d.FoundAt (found cs) is ∧ d.FoundAt (found cs') is' ∧
        d.FoundAt (found (cs ++ cs')) (is.filter (· ∈ is'))) ∧
      (found (cs ++ cs')).Sublist (found cs) ∧ (found (cs ++ cs')).Sublist (found cs') ∧
      (cs.Perm cs' → answer cs' = answer cs) ∧
      ((∀ c, c ∈ cs' ↔ c ∈ cs) →
        answer cs' = (answer cs).withEnforced (cs'.countP fun c => c.field ∈ d.columns)) := by
  intro answer found
  refine ⟨⟨d.places cs, d.places cs', d.foundAt_places cs, d.foundAt_places cs', ?_⟩,
    filter_sublist_of_subset (List.subset_append_left cs cs'),
    filter_sublist_of_subset (List.subset_append_right cs cs'),
    fun h => executeFilter_perm h description, fun h => ?_⟩
  · rw [← places_of_mem_iff fun c => List.mem_append]
    exact d.foundAt_places (cs ++ cs')
  · rw [← length_enforced]
    exact executeFilter_congr (fun c => (h c).symm) description

/-- Overhead lines of 500 kV: with the conditions in the other order, and with one of them twice. -/
theorem execute_filter_conjunction_overhead :
    let d := ofFeatures "" [.ofProperties
      (.ofList [(Field.type, .string "AC; OVERHEAD"), (Field.voltage, .count 500)])]
    let volts : Condition := ⟨Field.voltage, .equals (.count 500)⟩
    let overhead : Condition := ⟨Field.type, .contains "OVERHEAD"⟩
    [volts, overhead].Perm [overhead, volts] ∧
      (∀ c, c ∈ [overhead, volts, overhead] ↔ c ∈ [volts, overhead]) ∧
      d.execute (.filter [overhead, volts] "lines") =
        d.execute (.filter [volts, overhead] "lines") ∧
      d.execute (.filter [overhead, volts, overhead] "lines") =
        (d.execute (.filter [volts, overhead] "lines")).withEnforced 3 := by
  intro d volts overhead
  have hperm : [volts, overhead].Perm [overhead, volts] := .swap overhead volts []
  have hsame : ∀ c, c ∈ [overhead, volts, overhead] ↔ c ∈ [volts, overhead] := by
    intro c
    simp only [List.mem_cons, List.not_mem_nil]
    tauto
  have hcount : [overhead, volts, overhead].countP (fun c => c.field ∈ d.columns) = 3 := by
    decide +kernel
  obtain ⟨-, -, -, hswapped, -⟩ :=
    execute_filter_conjunction d [volts, overhead] [overhead, volts] "lines"
  obtain ⟨-, -, -, -, hrepeated⟩ :=
    execute_filter_conjunction d [volts, overhead] [overhead, volts, overhead] "lines"
  exact ⟨hperm, hsame, hswapped hperm, hcount ▸ hrepeated hsame⟩

end Dataset

end Gridlines
