import Gridlines.Dataset.Summary
import Gridlines.Proofs.SortedMap
import Mathlib.Data.String.Basic
import Mathlib.Tactic.Common

/-!
# Ranked values

The values of a name are counted under their JSON texts and ranked: by count, and by text where
the counts are equal.  The ranking starts with a value that no other one precedes.

* `mem_countValues_iff` : values are counted exactly, those of one text together.
* `rankValues_eq_cons` : the value that comes first.
* `Dataset.get?_samples` : which names a summary samples.
-/

namespace Gridlines

/-! ### Counting -/

/-- The number of values with the text. -/
def countText (xs : List Json) (t : String) : Nat := xs.countP fun x => x.compact == t

theorem get?_foldl_countValue (xs : List Json) (m : SortedMap ValueCount) (t : String) :
    (xs.foldl countValue m).get? t =
      match m.get? t with
      | some v => some ⟨v.value, v.count + countText xs t⟩
      | none => (xs.find? fun x => x.compact == t).map fun x => ⟨x, countText xs t⟩ := by
  induction xs generalizing m with
  | nil => cases h : m.get? t <;> simp [countText, h]
  | cons x xs ih =>
    rw [List.foldl_cons, ih, countValue, SortedMap.get?_insert]
    by_cases ht : t = x.compact
    · subst ht
      have hcount : countText (x :: xs) x.compact = countText xs x.compact + 1 := by
        simp [countText]
      cases h : m.get? x.compact with
      | none => simp [hcount, Nat.add_comm]
      | some v => simp [hcount, Nat.add_comm, Nat.add_assoc]
    · have hne : (x.compact == t) = false := by simpa using Ne.symm ht
      have hcount : countText (x :: xs) t = countText xs t := by
        simp [countText, hne]
      cases m.get? t <;> simp [ht, hcount, hne]

/-- Each text of a value has one entry: a value with the text, and the number of such values. -/
theorem mem_countValues_iff {xs : List Json} {t : String} {v : ValueCount} :
    (t, v) ∈ (countValues xs).entries ↔
      (xs.find? fun x => x.compact == t) = some v.value ∧ v.count = countText xs t := by
  have hempty : (∅ : SortedMap ValueCount).get? t = none := rfl
  rw [SortedMap.mem_entries_iff, countValues, get?_foldl_countValue, hempty]
  obtain ⟨value, count⟩ := v
  cases h : xs.find? fun x => x.compact == t with
  | none => simp
  | some x => simp [eq_comm]

/-- Every value has an entry. -/
theorem exists_mem_countValues {xs : List Json} {x : Json} (h : x ∈ xs) :
    ∃ y, y.compact = x.compact ∧
      (x.compact, ⟨y, countText xs x.compact⟩) ∈ (countValues xs).entries := by
  have hfind : (xs.find? fun y => y.compact == x.compact).isSome :=
    List.find?_isSome.2 ⟨x, h, by simp⟩
  obtain ⟨y, hy⟩ := Option.isSome_iff_exists.1 hfind
  have hcompact : y.compact = x.compact := by simpa using List.find?_some hy
  exact ⟨y, hcompact, mem_countValues_iff.2 ⟨hy, rfl⟩⟩

/-! ### Ranking -/

theorem ranksBefore_iff {a b : String × ValueCount} :
    ranksBefore a b ↔ b.2.count < a.2.count ∨ a.2.count = b.2.count ∧ a.1 ≤ b.1 := by
  simp [ranksBefore]

theorem ranksBefore_trans (a b c : String × ValueCount) (hab : ranksBefore a b)
    (hbc : ranksBefore b c) : ranksBefore a c := by
  rw [ranksBefore_iff] at *
  rcases hab with hab | ⟨hab, hle⟩
  · rcases hbc with hbc | ⟨hbc, -⟩
    · exact .inl (by omega)
    · exact .inl (by omega)
  · rcases hbc with hbc | ⟨hbc, hle'⟩
    · exact .inl (by omega)
    · exact .inr ⟨by omega, le_trans hle hle'⟩

theorem ranksBefore_total (a b : String × ValueCount) : ranksBefore a b || ranksBefore b a := by
  rw [Bool.or_eq_true, ranksBefore_iff, ranksBefore_iff]
  rcases Nat.lt_trichotomy a.2.count b.2.count with h | h | h
  · exact .inr (.inl h)
  · rcases le_total a.1 b.1 with hle | hle
    · exact .inl (.inr ⟨h, hle⟩)
    · exact .inr (.inr ⟨h.symm, hle⟩)
  · exact .inl (.inl h)

/-- The entries of a ranking are in order. -/
theorem pairwise_ranked (entries : List (String × ValueCount)) :
    (entries.mergeSort ranksBefore).Pairwise fun a b => ranksBefore a b :=
  List.pairwise_mergeSort ranksBefore_trans ranksBefore_total entries

/-- The ranking of a list that is not empty starts with one of its values, counted, which no other
value precedes. -/
theorem rankValues_eq_cons {xs : List Json} (h : xs ≠ []) :
    ∃ v rest, rankValues xs = v :: rest ∧ v.value ∈ xs ∧ v.count = countText xs v.value.compact ∧
      ∀ x ∈ xs, countText xs x.compact < v.count ∨
        v.count = countText xs x.compact ∧ v.value.compact ≤ x.compact := by
  obtain ⟨x, hx⟩ := List.exists_mem_of_ne_nil xs h
  have hmem : ∀ e, e ∈ (countValues xs).entries.mergeSort ranksBefore ↔
      e ∈ (countValues xs).entries := fun e => List.mem_mergeSort
  have hsorted := pairwise_ranked (countValues xs).entries
  cases hranked : (countValues xs).entries.mergeSort ranksBefore with
  | nil =>
    obtain ⟨y, -, hy⟩ := exists_mem_countValues hx
    rw [← hmem, hranked] at hy
    cases hy
  | cons e es =>
    rw [hranked] at hsorted hmem
    obtain ⟨t, v⟩ := e
    obtain ⟨hfind, hcount⟩ := mem_countValues_iff.1 ((hmem (t, v)).1 List.mem_cons_self)
    have ht : v.value.compact = t := by simpa using List.find?_some hfind
    refine ⟨v, es.map Prod.snd, ?_, List.mem_of_find?_eq_some hfind, ht ▸ hcount, fun y hy => ?_⟩
    · rw [rankValues, hranked, List.map_cons]
    · obtain ⟨z, -, hz⟩ := exists_mem_countValues hy
      rcases List.mem_cons.1 ((hmem _).2 hz) with heq | hz
      · -- the text of `y` is the one that comes first
        cases heq
        exact .inr ⟨hcount, ht.le⟩
      · have hrank := ranksBefore_iff.1 ((List.pairwise_cons.1 hsorted).1 _ hz)
        rw [ht]
        exact hrank

/-! ### Summaries -/

/-- A summary samples the names that it looks for and that some feature has. -/
theorem Dataset.get?_samples (d : Dataset) (top : Nat) (name : String) :
    (d.summary top).samples.get? name =
      if name ∈ Summary.sampled ∧ d.hasColumn name then
        some ((rankValues (d.values name)).take top) else none := by
  have hmap := SortedMap.get?_ofList_map (fun l => (rankValues (d.values l)).take top)
    (Summary.sampled.filter d.hasColumn) name
  rw [summary, hmap]
  simp only [List.mem_filter]

end Gridlines
