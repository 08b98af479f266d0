import Gridlines.Answer.Leaderboard
import Gridlines.Proofs.SortedMap
import Mathlib.Algebra.BigOperators.Group.List.Lemmas
import Mathlib.Algebra.GroupWithZero.Nat
import Mathlib.Data.List.Induction
import Mathlib.Data.String.Basic
import Mathlib.Tactic.Common

/-!
# Leading groups

A tally counts every name exactly, and the scan over its entries finds the leader: of the names
that occur most often the smallest one.  The scan goes through the names in order and only changes
its mind for a larger count, so what it ends with is the first of the largest entries
(`IsFirstLargest`); the order of the names makes it the smallest.

* `get?_tally` : a tally counts exactly; `sum_tally` : its counts add up to the number of names;
  `tally_perm` : it does not depend on their order.
* `Leads` : the leader of a list of names; `exists_leads` says that the scan finds it.
-/

namespace Gridlines

/-! ### Tallies -/

theorem get?_foldl_tally (names : List String) (m : SortedMap Nat) (k : String) :
    (names.foldl (fun counts l => counts.insert l ((counts.get? l).getD 0 + 1)) m).get? k =
      if k ∈ names then some ((m.get? k).getD 0 + names.count k) else m.get? k := by
  induction names generalizing m with
  | nil => simp
  | cons l names ih =>
    rw [List.foldl_cons, ih, SortedMap.get?_insert]
    by_cases hk : k = l
    · subst hk
      by_cases hmem : k ∈ names
      · have hcount : (m.get? k).getD 0 + 1 + names.count k =
            (m.get? k).getD 0 + (names.count k + 1) := by omega
        simp [hmem, hcount]
      · simp [hmem, List.count_eq_zero_of_not_mem]
    · simp [hk, Ne.symm hk]

/-- A tally holds each name of the list with the number of its occurrences. -/
theorem get?_tally (names : List String) (k : String) :
    (tally names).get? k = if k ∈ names then some (names.count k) else none := by
  have hempty : (∅ : SortedMap Nat).get? k = none := rfl
  rw [tally, get?_foldl_tally, hempty]
  simp

theorem mem_tally_iff {names : List String} {k : String} {n : Nat} :
    (k, n) ∈ (tally names).entries ↔ k ∈ names ∧ names.count k = n := by
  rw [SortedMap.mem_entries_iff, get?_tally]
  split <;> simp_all

theorem mem_keys_tally_iff {names : List String} {k : String} :
    k ∈ (tally names).keys ↔ k ∈ names := by
  rw [SortedMap.mem_keys_iff, get?_tally]
  by_cases hk : k ∈ names <;> simp [hk]

theorem getD_tally (names : List String) (k : String) :
    ((tally names).get? k).getD 0 = names.count k := by
  rw [get?_tally]
  by_cases hk : k ∈ names
  · rw [if_pos hk]
    rfl
  · rw [if_neg hk, List.count_eq_zero_of_not_mem hk]
    rfl

theorem map_snd_tally (names : List String) :
    (tally names).entries.map Prod.snd = (tally names).keys.map names.count := by
  rw [SortedMap.keys, List.map_map]
  exact List.map_congr_left fun e he => (mem_tally_iff.1 he).2.symm

/-- The counts of a tally add up to the number of names. -/
theorem sum_tally (names : List String) :
    ((tally names).entries.map Prod.snd).sum = names.length := by
  have hnodup : (tally names).keys.Nodup := (tally names).pairwise_keys.imp fun h => ne_of_lt h
  have hperm : (tally names).keys.Perm names.dedup := by
    rw [List.perm_ext_iff_of_nodup hnodup names.nodup_dedup]
    intro k
    rw [mem_keys_tally_iff, List.mem_dedup]
  rw [map_snd_tally, (hperm.map names.count).sum_eq, List.sum_map_count_dedup_eq_length]

/-- A tally does not depend on the order of the names. -/
theorem tally_perm {names names' : List String} (h : names.Perm names') :
    tally names = tally names' := by
  refine SortedMap.ext_get? fun k => ?_
  simp only [get?_tally, h.count_eq, h.mem_iff]

/-! ### The first of the largest entries -/

/-- The entry has the largest count, and the entries before it have smaller ones. -/
def IsFirstLargest (entries : List (String × Nat)) (e : String × Nat) : Prop :=
  ∃ before after, entries = before ++ e :: after ∧
    (∀ b ∈ before, b.2 < e.2) ∧ ∀ a ∈ after, a.2 ≤ e.2

theorem firstLargest_concat (entries : List (String × Nat)) (x : String × Nat) :
    firstLargest (entries ++ [x]) =
      match firstLargest entries with
      | some b => if b.2 < x.2 then some x else some b
      | none => some x := by
  rw [firstLargest, List.foldl_concat]
  rfl

/-- The scan finds the first of the largest entries, if there is any entry. -/
theorem isFirstLargest_of_ne_nil {entries : List (String × Nat)} (h : entries ≠ []) :
    ∃ e, firstLargest entries = some e ∧ IsFirstLargest entries e := by
  induction entries using List.reverseRecOn with
  | nil => exact absurd rfl h
  | append_singleton entries x ih =>
    rw [firstLargest_concat]
    by_cases hnil : entries = []
    · subst hnil
      exact ⟨x, rfl, [], [], rfl, by simp, by simp⟩
    · obtain ⟨b, hb, before, after, rfl, hbefore, hafter⟩ := ih hnil
      rw [hb]
      dsimp only
      split
      · next hlt =>
        -- the new entry is larger than all before it
        refine ⟨x, rfl, before ++ b :: after, [], rfl, fun a ha => ?_, by simp⟩
        rcases List.mem_append.1 ha with ha | ha
        · exact Nat.lt_trans (hbefore a ha) hlt
        · rcases List.mem_cons.1 ha with rfl | ha
          · exact hlt
          · exact Nat.lt_of_le_of_lt (hafter a ha) hlt
      · next hle =>
        refine ⟨b, rfl, before, after ++ [x], by simp, hbefore, fun a ha => ?_⟩
        rcases List.mem_append.1 ha with ha | ha
        · exact hafter a ha
        · obtain rfl := List.mem_singleton.1 ha
          exact Nat.not_lt.1 hle

/-! ### Leaders -/

/-- The name occurs so many times in the list, no name occurs more often, and of those that occur
as often it is the smallest. -/
structure Leads (names : List String) (k : String) (n : Nat) : Prop where
  mem : k ∈ names
  count : names.count k = n
  most : ∀ l, names.count l ≤ n
  first : ∀ l, names.count l = n → k ≤ l

theorem Leads.pos {names : List String} {k : String} {n : Nat} (h : Leads names k n) : 0 < n := by
  rw [← h.count]
  exact List.count_pos_iff.2 h.mem

/-- The names that occur as often as the leader are in the list. -/
theorem Leads.mem_of_count {names : List String} {k l : String} {n : Nat} (h : Leads names k n)
    (hl : names.count l = n) : l ∈ names := by
  have hpos := h.pos
  rw [← hl] at hpos
  exact List.count_pos_iff.1 hpos

theorem leads_of_isFirstLargest {names : List String} {k : String} {n : Nat}
    (h : IsFirstLargest (tally names).entries (k, n)) : Leads names k n := by
  obtain ⟨before, after, he, hbefore, hafter⟩ := h
  have hmem : (k, n) ∈ (tally names).entries := by
    rw [he]
    simp
  obtain ⟨hk, hn⟩ := mem_tally_iff.1 hmem
  -- a name of the list stands before `k`, after it, or is `k`
  have hcases : ∀ l ∈ names, (l, names.count l) ∈ before ∨ l = k ∨ (l, names.count l) ∈ after := by
    intro l hl
    have hentry : (l, names.count l) ∈ (tally names).entries := mem_tally_iff.2 ⟨hl, rfl⟩
    rw [he, List.mem_append, List.mem_cons] at hentry
    rcases hentry with hentry | hentry | hentry
    · exact .inl hentry
    · exact .inr (.inl (congrArg Prod.fst hentry))
    · exact .inr (.inr hentry)
  have hsorted : SortedEntries (before ++ (k, n) :: after) := he ▸ (tally names).sorted
  have hpos : 0 < n := by
    rw [← hn]
    exact List.count_pos_iff.2 hk
  refine ⟨hk, hn, fun l => ?_, fun l hl => ?_⟩
  · by_cases hmem : l ∈ names
    · rcases hcases l hmem with hl | rfl | hl
      · exact (hbefore _ hl).le
      · exact hn.le
      · exact hafter _ hl
    · rw [List.count_eq_zero_of_not_mem hmem]
      exact Nat.zero_le n
  · have hmem : l ∈ names := List.count_pos_iff.1 (hl ▸ hpos)
    rcases hcases l hmem with hl' | rfl | hl'
    · -- before `k` the counts are smaller
      have hlt : names.count l < n := hbefore _ hl'
      omega
    · exact le_rfl
    · have hlt := (List.pairwise_cons.1 (List.pairwise_append.1 hsorted).2.1).1 _ hl'
      exact le_of_lt hlt

/-- **The scan over a tally finds the leader**, if there is any name. -/
theorem exists_leads {names : List String} (h : names ≠ []) :
    ∃ k n, firstLargest (tally names).entries = some (k, n) ∧ Leads names k n := by
  have hne : (tally names).entries ≠ [] := by
    intro hnil
    obtain ⟨k, hk⟩ := List.exists_mem_of_ne_nil names h
    have hentry : (k, names.count k) ∈ (tally names).entries := mem_tally_iff.2 ⟨hk, rfl⟩
    rw [hnil] at hentry
    cases hentry
  obtain ⟨⟨k, n⟩, hfirst, hlargest⟩ := isFirstLargest_of_ne_nil hne
  exact ⟨k, n, hfirst, leads_of_isFirstLargest hlargest⟩

end Gridlines
