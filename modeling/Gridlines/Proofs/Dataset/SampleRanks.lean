import Gridlines.Proofs.Answer.Filter
import Gridlines.Proofs.Dataset.Samples
import Gridlines.Proofs.Json.Texts
import Mathlib.Data.Finset.Card

/-!
# What a summary samples

Values with one text are the same, so counting texts counts values: the ranking of a list has each
of its values once, with the number of its occurrences.  No two entries of a ranking are of the same
rank, so it is in strict order, and a summary cuts off its end.

* `ValueCount.Before` : the order of a ranking.
* `rankValues_perm` : the values of a ranking are those of the list, each once.
* `map_mergeSort_eq_rankValues` : counted values are ranked alike in any order.
* `Dataset.RanksValues` : the list that a summary has for a name.
* `Dataset.samples_exact` : which names a summary samples, and that their lists are such lists.
-/

namespace Gridlines

/-- A counted value ranks before another: it is more frequent, or equally frequent and its text is
smaller. -/
def ValueCount.Before (v w : ValueCount) : Prop :=
  w.count < v.count ∨ v.count = w.count ∧ v.value.compact < w.value.compact

theorem ValueCount.Before.ne {v w : ValueCount} (h : v.Before w) : v ≠ w := by
  rintro rfl
  rcases h with hlt | ⟨-, hlt⟩
  · exact lt_irrefl _ hlt
  · exact lt_irrefl _ hlt

/-! ### The whole ranking -/

section Ranking

variable {xs : List Json}

/-- Counting a text counts the value that has it. -/
theorem countText_compact (x : Json) : countText xs x.compact = xs.count x :=
  List.countP_congr fun y _ => by rw [beq_iff_eq, beq_iff_eq, Json.compact_inj]

/-- A ranking has the values of the list with the numbers of their occurrences. -/
theorem mem_rankValues_iff {v : ValueCount} :
    v ∈ rankValues xs ↔ v.value ∈ xs ∧ v.count = xs.count v.value := by
  have hentry : v ∈ rankValues xs ↔ ∃ t, (t, v) ∈ (countValues xs).entries := by
    simp [rankValues]
  rw [hentry]
  constructor
  · rintro ⟨t, ht⟩
    obtain ⟨hfind, hcount⟩ := mem_countValues_iff.1 ht
    have htext : v.value.compact = t := compact_of_mem ht
    refine ⟨List.mem_of_find?_eq_some hfind, ?_⟩
    rw [hcount, ← htext, countText_compact]
  · rintro ⟨hmem, hcount⟩
    obtain ⟨y, hy, hentry⟩ := exists_mem_countValues hmem
    obtain rfl := Json.compact_inj.1 hy
    rw [countText_compact, ← hcount] at hentry
    exact ⟨_, hentry⟩

/-- Each entry of a ranking ranks before those that follow it. -/
theorem pairwise_rankValues (xs : List Json) :
    (rankValues xs).Pairwise ValueCount.Before := by
  have hperm := List.mergeSort_perm (countValues xs).entries ranksBefore
  have hnodup : ((countValues xs).entries.mergeSort ranksBefore).Nodup :=
    hperm.nodup_iff.2 (countValues xs).nodup_entries
  refine List.pairwise_map.2 (((pairwise_ranked _).and hnodup).imp_of_mem ?_)
  rintro a b ha hb ⟨hranks, hne⟩
  have hatext := compact_of_mem (hperm.mem_iff.1 ha)
  have hbtext := compact_of_mem (hperm.mem_iff.1 hb)
  rcases ranksBefore_iff.1 hranks with hlt | ⟨hcount, hle⟩
  · exact .inl hlt
  · refine .inr ⟨hcount, ?_⟩
    rw [hatext, hbtext]
    refine lt_of_le_of_ne hle fun htext => hne ?_
    -- two entries with one text count the same value
    have hvalue : a.2.value = b.2.value := Json.compact_inj.1 (by rw [hatext, hbtext, htext])
    obtain ⟨_, ⟨_, _⟩⟩ := a
    obtain ⟨_, ⟨_, _⟩⟩ := b
    cases htext
    cases hvalue
    cases hcount
    rfl

theorem nodup_rankValues (xs : List Json) : ((rankValues xs).map ValueCount.value).Nodup := by
  refine List.pairwise_map.2 ((pairwise_rankValues xs).imp_of_mem ?_)
  rintro ⟨x, m⟩ ⟨y, n⟩ hv hw hbefore rfl
  have hm : m = xs.count x := (mem_rankValues_iff.1 hv).2
  have hn : n = xs.count x := (mem_rankValues_iff.1 hw).2
  exact hbefore.ne (by rw [hm, hn])

/-- A ranking has each value of the list once. -/
theorem rankValues_perm (xs : List Json) :
    ((rankValues xs).map ValueCount.value).Perm xs.dedup := by
  refine (List.perm_ext_iff_of_nodup (nodup_rankValues xs) xs.nodup_dedup).2 fun x => ?_
  rw [List.mem_dedup, List.mem_map]
  constructor
  · rintro ⟨v, hv, rfl⟩
    exact (mem_rankValues_iff.1 hv).1
  · intro hx
    exact ⟨⟨x, xs.count x⟩, mem_rankValues_iff.2 ⟨hx, rfl⟩, rfl⟩

theorem length_rankValues (xs : List Json) : (rankValues xs).length = xs.toFinset.card := by
  rw [List.card_toFinset, ← (rankValues_perm xs).length_eq, List.length_map]

/-- The counts of a ranking add up to the length of the list. -/
theorem sum_rankValues (xs : List Json) :
    ((rankValues xs).map ValueCount.count).sum = xs.length := by
  have hcounts : (rankValues xs).map ValueCount.count =
      ((rankValues xs).map ValueCount.value).map fun x => xs.count x := by
    rw [List.map_map]
    exact List.map_congr_left fun v hv => (mem_rankValues_iff.1 hv).2
  rw [hcounts, ((rankValues_perm xs).map _).sum_eq, List.sum_map_count_dedup_eq_length]

theorem ValueCount.text_injective : Function.Injective ValueCount.text := by
  rintro ⟨x, m⟩ ⟨y, n⟩ h
  obtain ⟨htext, hcount⟩ := Prod.mk.inj h
  obtain rfl : x = y := Json.compact_inj.1 htext
  exact congrArg (ValueCount.mk x) hcount

/-- The ranking is the same in whatever order the counted values are visited. -/
theorem map_mergeSort_eq_rankValues {es : List (String × ValueCount)}
    (h : es.Perm (countValues xs).entries) :
    (es.mergeSort ranksBefore).map Prod.snd = rankValues xs := by
  refine List.map_injective_iff.2 ValueCount.text_injective ?_
  rw [List.map_map, map_text_rankValues]
  exact map_text_mergeSort h

end Ranking

/-! ### Its beginning -/

namespace Dataset

/-- The values of a name that are not `null`, each once. -/
def distinctValues (d : Dataset) (name : String) : Finset Json := (d.values name).toFinset

/-- How many features have the value. -/
def countOf (d : Dataset) (name : String) (x : Json) : Nat :=
  d.features.countP fun f => f.get? name = some x

/-- The list ranks the values of a name and stops after so many. -/
structure RanksValues (d : Dataset) (name : String) (top : Nat) (vs : List ValueCount) : Prop where
  length : vs.length = min top (d.distinctValues name).card
  nodup : (vs.map ValueCount.value).Nodup
  counted : ∀ v ∈ vs, v.value ∈ d.distinctValues name ∧ v.count = d.countOf name v.value
  ordered : vs.Pairwise ValueCount.Before
  /-- In whatever order the counted values are visited, ranking them gives the same list. -/
  visited : ∀ es : List (String × ValueCount), es.Perm (countValues (d.values name)).entries →
    ((es.mergeSort ranksBefore).map Prod.snd).take top = vs
  /-- What is left out ranks after all that is there, -/
  cut : ∀ x ∈ d.distinctValues name, x ∉ vs.map ValueCount.value →
    ∀ v ∈ vs, v.Before ⟨x, d.countOf name x⟩
  /-- a longer list goes on where this one stops, -/
  longer : ∀ more, top ≤ more → ∃ ws, (d.summary more).samples.get? name = some ws ∧ vs <+: ws
  /-- and if nothing is left out, every feature with a value has been counted. -/
  total : (d.distinctValues name).card ≤ top →
    (vs.map ValueCount.count).sum = d.features.countP fun f => (f.get? name).isSome

variable {d : Dataset} {name : String} {top : Nat} {vs : List ValueCount}

theorem count_values (d : Dataset) (name : String) (x : Json) :
    (d.values name).count x = d.countOf name x := by
  rw [values, List.count_filterMap]
  exact List.countP_congr fun f _ => by rw [beq_iff_eq, decide_eq_true_iff]

theorem get?_samples_eq_some_iff :
    (d.summary top).samples.get? name = some vs ↔
      (name ∈ Summary.sampled ∧ d.hasColumn name) ∧ (rankValues (d.values name)).take top = vs := by
  rw [get?_samples, Option.ite_none_right_eq_some, Option.some_inj]

/-- The beginning of the ranking is such a list. -/
theorem ranksValues_of_get? (h : (d.summary top).samples.get? name = some vs) :
    d.RanksValues name top vs := by
  obtain ⟨hname, hvs⟩ := get?_samples_eq_some_iff.1 h
  have hstart : vs <+: rankValues (d.values name) := hvs ▸ List.take_prefix _ _
  obtain ⟨rest, hranked⟩ := hstart
  have hmem : ∀ v ∈ vs, v ∈ rankValues (d.values name) := fun v hv =>
    hranked ▸ List.mem_append_left _ hv
  have hordered := hranked ▸ pairwise_rankValues (d.values name)
  constructor
  case length => rw [← hvs, List.length_take, length_rankValues, distinctValues]
  case nodup =>
    have hnodup := nodup_rankValues (d.values name)
    rw [← hranked, List.map_append] at hnodup
    exact hnodup.of_append_left
  case counted =>
    intro v hv
    obtain ⟨hvalue, hcount⟩ := mem_rankValues_iff.1 (hmem v hv)
    exact ⟨List.mem_toFinset.2 hvalue, by rw [hcount, count_values]⟩
  case ordered => exact (List.pairwise_append.1 hordered).1
  case visited =>
    intro es hes
    rw [map_mergeSort_eq_rankValues hes, hvs]
  case cut =>
    intro x hx hout v hv
    have hentry : ⟨x, d.countOf name x⟩ ∈ vs ++ rest := by
      rw [hranked, mem_rankValues_iff, count_values]
      exact ⟨List.mem_toFinset.1 hx, rfl⟩
    rcases List.mem_append.1 hentry with hlisted | hleft
    · exact absurd (List.mem_map_of_mem hlisted) hout
    · exact (List.pairwise_append.1 hordered).2.2 v hv _ hleft
  case longer =>
    intro more hmore
    refine ⟨_, get?_samples_eq_some_iff.2 ⟨hname, rfl⟩, ?_⟩
    rw [← hvs, List.take_isPrefix_take]
    exact .inl hmore
  case total =>
    intro htop
    have hall : vs = rankValues (d.values name) := by
      rw [← hvs, List.take_of_length_le]
      rw [length_rankValues]
      exact htop
    rw [hall, sum_rankValues, values, List.length_filterMap_eq_countP]

/-- **A summary ranks the values of its names exactly**: it has those of the four names that some
feature has, and cutting a list takes nothing but its end. -/
theorem samples_exact (d : Dataset) (top : Nat) :
    (∀ name, name ∈ (d.summary top).samples.keys ↔
      name ∈ ["VOLTAGE", "OWNER", "STATUS", "TYPE"] ∧ d.Carries name) ∧
    ∀ name vs, (d.summary top).samples.get? name = some vs → d.RanksValues name top vs := by
  refine ⟨fun name => ?_, fun name vs => ranksValues_of_get?⟩
  rw [SortedMap.mem_keys_iff, ← hasColumn_iff]
  constructor
  · rintro ⟨vs, hvs⟩
    exact (get?_samples_eq_some_iff.1 hvs).1
  · intro hname
    exact ⟨_, get?_samples_eq_some_iff.2 ⟨hname, rfl⟩⟩

end Dataset

end Gridlines
