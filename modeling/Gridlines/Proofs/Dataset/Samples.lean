import Gridlines.Proofs.Answer.Leaderboard
import Gridlines.Proofs.Dataset.Ranking

/-!
# Samples as they are written

Counted values are told apart by their JSON texts, and only these texts are written.  So what a
summary writes of its samples depends on nothing but how often each text occurs: on a tally of the
texts, ranked by count and text.  No two entries of a tally have the same rank, so the order in
which they are visited does not matter.

* `map_countValues` : counted values, by their texts, are a tally.
* `map_text_mergeSort` : the ranked texts are the tally in the order of rank.
* `Summary.sampleText?_congr` : the samples as a summary writes them depend on the texts alone.
-/

namespace Gridlines

/-! ### Texts of values -/

namespace Json

/-- The member of an object with a name. -/
def member? (x : Json) (name : String) : Option Json :=
  match x with
  | object ms => ms.lookup name
  | _ => none

/-- Arrays are written with the texts of their items, -/
theorem compactItems_congr {xs ys : List Json}
    (h : xs.map compactChars = ys.map compactChars) : compactItems xs = compactItems ys := by
  induction xs generalizing ys with
  | nil =>
    obtain rfl : ys = [] := by simpa using h.symm
    rfl
  | cons x xs ih =>
    cases ys with
    | nil => simp at h
    | cons y ys =>
      obtain ⟨hx, hxs⟩ := List.cons.inj h
      have hrest := ih hxs
      cases xs <;> cases ys <;> simp_all [compactItems]

/-- and objects with the names and the texts of their members. -/
theorem compactMembers_congr {ms ns : List (String × Json)}
    (h : ms.map (fun m => (m.1, m.2.compactChars)) = ns.map fun n => (n.1, n.2.compactChars)) :
    compactMembers ms = compactMembers ns := by
  induction ms generalizing ns with
  | nil =>
    obtain rfl : ns = [] := by simpa using h.symm
    rfl
  | cons m ms ih =>
    cases ns with
    | nil => simp at h
    | cons n ns =>
      obtain ⟨hm, hms⟩ := List.cons.inj h
      have hrest := ih hms
      cases ms <;> cases ns <;> simp_all [compactMembers]

end Json

/-! ### Counted texts -/

/-- The text of a counted value, and its count. -/
def ValueCount.text (v : ValueCount) : String × Nat := (v.value.compact, v.count)

theorem countText_eq_count (xs : List Json) (t : String) :
    countText xs t = (xs.map Json.compact).count t := by
  rw [List.count, List.countP_map]
  rfl

/-- A value is counted under its text. -/
theorem compact_of_mem {xs : List Json} {e : String × ValueCount}
    (h : e ∈ (countValues xs).entries) : e.2.value.compact = e.1 := by
  simpa using List.find?_some (mem_countValues_iff.1 h).1

theorem text_of_mem {xs : List Json} {e : String × ValueCount}
    (h : e ∈ (countValues xs).entries) : e.2.text = (e.1, e.2.count) := by
  rw [ValueCount.text, compact_of_mem h]

/-- Counted values, by their texts, are a tally. -/
theorem map_countValues (xs : List Json) :
    (countValues xs).entries.map (fun e => e.2.text) = (tally (xs.map Json.compact)).entries := by
  rw [List.map_congr_left fun e he => text_of_mem he]
  have hsorted : SortedEntries ((countValues xs).entries.map fun e => (e.1, e.2.count)) :=
    List.pairwise_map.2 (countValues xs).sorted
  have hmem : ∀ e, e ∈ ((countValues xs).entries.map fun e => (e.1, e.2.count)) ↔
      e ∈ (tally (xs.map Json.compact)).entries := by
    rintro ⟨t, n⟩
    rw [mem_tally_iff, List.mem_map, ← countText_eq_count, List.mem_map]
    constructor
    · rintro ⟨⟨_, v⟩, he, heq⟩
      cases heq
      obtain ⟨hfind, hcount⟩ := mem_countValues_iff.1 he
      exact ⟨⟨v.value, List.mem_of_find?_eq_some hfind, by simpa using List.find?_some hfind⟩,
        hcount.symm⟩
    · rintro ⟨⟨x, hx, rfl⟩, rfl⟩
      obtain ⟨y, -, hy⟩ := exists_mem_countValues hx
      exact ⟨_, hy, rfl⟩
  exact congrArg SortedMap.entries
    (SortedMap.ext_mem (m := ⟨_, hsorted⟩) (n := tally (xs.map Json.compact)) hmem)

/-! ### Ranked texts -/

/-- Whether a counted text comes before another. -/
def textRanksBefore (a b : String × Nat) : Bool :=
  ranksBefore (a.1, ⟨.null, a.2⟩) (b.1, ⟨.null, b.2⟩)

theorem textRanksBefore_antisymm {a b : String × Nat} (hab : textRanksBefore a b)
    (hba : textRanksBefore b a) : a = b := by
  have hab' := ranksBefore_iff.1 hab
  have hba' := ranksBefore_iff.1 hba
  dsimp only at hab' hba'
  rcases hab' with hab' | ⟨hcount, hle⟩
  · omega
  · rcases hba' with hba' | ⟨-, hge⟩
    · omega
    · exact Prod.ext (le_antisymm hle hge) hcount

/-- Counted texts are ranked in one way, whatever the order they come in. -/
theorem mergeSort_textRanksBefore_eq {es es' : List (String × Nat)} (h : es.Perm es') :
    es.mergeSort textRanksBefore = es'.mergeSort textRanksBefore := by
  have hsorted : ∀ es : List (String × Nat),
      (es.mergeSort textRanksBefore).Pairwise fun a b => textRanksBefore a b :=
    List.pairwise_mergeSort (fun _ _ _ => ranksBefore_trans _ _ _)
      fun _ _ => ranksBefore_total _ _
  refine List.Perm.eq_of_pairwise (fun _ _ _ _ => textRanksBefore_antisymm) (hsorted es)
    (hsorted es') ?_
  exact (List.mergeSort_perm es _).trans (h.trans (List.mergeSort_perm es' _).symm)

/-- The ranking of a list of values, by their texts, in whatever order the counted values are
visited. -/
theorem map_text_mergeSort {xs : List Json} {es : List (String × ValueCount)}
    (h : es.Perm (countValues xs).entries) :
    (es.mergeSort ranksBefore).map (fun e => e.2.text) =
      (tally (xs.map Json.compact)).entries.mergeSort textRanksBefore := by
  have htext : ∀ e ∈ es, e.2.text = (e.1, e.2.count) := fun e he =>
    text_of_mem (h.mem_iff.1 he)
  have hranks : ∀ a ∈ es, ∀ b ∈ es, ranksBefore a b = textRanksBefore a.2.text b.2.text := by
    intro a ha b hb
    rw [htext a ha, htext b hb]
    rfl
  rw [List.map_mergeSort hranks, ← map_countValues]
  exact mergeSort_textRanksBefore_eq (h.map fun e => e.2.text)

theorem map_text_rankValues (xs : List Json) :
    (rankValues xs).map ValueCount.text =
      (tally (xs.map Json.compact)).entries.mergeSort textRanksBefore := by
  rw [← map_text_mergeSort (.refl _), rankValues, List.map_map]
  rfl

/-! ### Written samples -/

/-- The characters of a counted value with the text. -/
def countedChars (e : String × Nat) : List Char :=
  '\x7b' :: (Json.stringText "value" ++ ':' ::
    (e.1.toList ++ ',' :: Json.compactMembers [("count", .count e.2)]))

theorem compactChars_valueCount (v : ValueCount) :
    v.toJson.compactChars = countedChars v.text := by
  rw [ValueCount.toJson, Json.compactChars, Json.compactMembers, countedChars, ValueCount.text,
    Json.compact, String.toList_ofList]

/-- The characters of a list of counted values. -/
def sampleChars (vs : List ValueCount) : List Char :=
  (Json.array (vs.map ValueCount.toJson)).compactChars

theorem sampleChars_congr {vs ws : List ValueCount}
    (h : vs.map ValueCount.text = ws.map ValueCount.text) : sampleChars vs = sampleChars ws := by
  have hchars : ∀ vs : List ValueCount, (vs.map ValueCount.toJson).map Json.compactChars =
      (vs.map ValueCount.text).map countedChars := by
    intro vs
    rw [List.map_map, List.map_map]
    exact List.map_congr_left fun v _ => compactChars_valueCount v
  simp only [sampleChars, Json.compactChars]
  rw [Json.compactItems_congr ((hchars vs).trans (h ▸ (hchars ws).symm))]

namespace Summary

/-- The samples as the summary writes them. -/
def sampleText? (s : Summary) : Option String := (s.toJson.member? "sample_data").map Json.compact

theorem sampleText?_eq (s : Summary) : s.sampleText? = some (Json.compact
    (.object (s.samples.entries.map fun e => (e.1, .array (e.2.map ValueCount.toJson))))) := rfl

theorem map_sampleChars_samples (d : Dataset) (top : Nat) :
    (d.summary top).samples.entries.map (fun e => (e.1, sampleChars e.2)) =
      (SortedMap.ofList ((sampled.filter d.hasColumn).map fun name =>
        (name, sampleChars ((rankValues (d.values name)).take top)))).entries := by
  rw [Dataset.summary, ← SortedMap.entries_ofList_map, List.map_map]
  rfl

/-- Datasets with the same names and equally frequent texts have the same samples. -/
theorem sampleText?_congr {d e : Dataset} (hcolumn : ∀ name, d.hasColumn name = e.hasColumn name)
    (htexts : ∀ name,
      ((d.values name).map Json.compact).Perm ((e.values name).map Json.compact)) (top : Nat) :
    (d.summary top).sampleText? = (e.summary top).sampleText? := by
  have hchars : (d.summary top).samples.entries.map (fun s => (s.1, sampleChars s.2)) =
      (e.summary top).samples.entries.map fun s => (s.1, sampleChars s.2) := by
    rw [map_sampleChars_samples, map_sampleChars_samples,
      List.filter_congr fun name _ => hcolumn name]
    congr 2
    refine List.map_congr_left fun name _ => congrArg (Prod.mk name) (sampleChars_congr ?_)
    rw [List.map_take, List.map_take, map_text_rankValues, map_text_rankValues,
      tally_perm (htexts name)]
  simp only [sampleText?_eq, Json.compact, Json.compactChars]
  rw [Json.compactMembers_congr]
  rw [List.map_map, List.map_map]
  exact hchars

end Summary

end Gridlines
