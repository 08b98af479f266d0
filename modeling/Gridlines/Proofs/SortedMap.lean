import Gridlines.SortedMap
import Mathlib.Data.List.Induction
import Mathlib.Tactic.Common

/-!
# Entries of sorted maps

What a name stands for and whether it is a key, and which entries the map of a list has: no others
than the list, and all of them if the list is sorted.

* `SortedMap.mem_entries_iff` : the entries of a map say what each name stands for.
* `SortedMap.ext_mem`, `SortedMap.ext_get?` : maps with the same entries are equal.
* `SortedMap.get?_ofList_map` : looking up in a map that is computed from its names.
* `SortedMap.entries_ofList_map` : applying a function to all that names stand for.
* `SortedMap.ofList_replace` : the last entry of a name is the one that stands.
-/

namespace Gridlines

variable {α : Type}

namespace SortedMap

theorem contains_iff {m : SortedMap α} {k : String} : m.contains k ↔ k ∈ m.keys := by
  rw [contains, get?, List.lookup_isSome_iff, keys, List.mem_map]
  exact exists_congr fun e => and_congr_right fun _ => beq_iff_eq.trans eq_comm

theorem mem_keys_iff {m : SortedMap α} {k : String} : k ∈ m.keys ↔ ∃ v, m.get? k = some v := by
  rw [← contains_iff, contains, Option.isSome_iff_exists]

theorem mem_of_mem_foldl_insert {es : List (String × α)} {m : SortedMap α} {e : String × α}
    (h : e ∈ (es.foldl (fun m e => m.insert e.1 e.2) m).entries) : e ∈ m.entries ∨ e ∈ es := by
  induction es generalizing m with
  | nil => exact .inl h
  | cons d es ih =>
    rcases ih h with h | h
    · rcases mem_insertEntry h with rfl | h
      · exact .inr List.mem_cons_self
      · exact .inl h
    · exact .inr (List.mem_cons_of_mem _ h)

theorem mem_of_mem_ofList {es : List (String × α)} {e : String × α}
    (h : e ∈ (ofList es).entries) : e ∈ es := by
  rcases mem_of_mem_foldl_insert h with h | h
  · cases h
  · exact h

/-- An entry whose name comes after all others is put at the end. -/
theorem insertEntry_of_forall_lt {k : String} {v : α} {es : List (String × α)}
    (h : ∀ e ∈ es, e.1 < k) : insertEntry k v es = es ++ [(k, v)] := by
  induction es with
  | nil => rfl
  | cons e es ih =>
    obtain ⟨he, hes⟩ := List.forall_mem_cons.1 h
    have hk : ¬k < e.1 := String.lt_asymm he
    have hne : k ≠ e.1 := fun hke => String.lt_irrefl k (hke ▸ he)
    simp [insertEntry, hk, hne, ih hes]

theorem foldl_insert_of_sorted {es : List (String × α)} {m : SortedMap α}
    (h : SortedEntries (m.entries ++ es)) :
    (es.foldl (fun m e => m.insert e.1 e.2) m).entries = m.entries ++ es := by
  induction es generalizing m with
  | nil => simp
  | cons e es ih =>
    have hlt : ∀ d ∈ m.entries, d.1 < e.1 := fun d hd =>
      (List.pairwise_append.1 h).2.2 d hd e List.mem_cons_self
    have hins : (m.insert e.1 e.2).entries = m.entries ++ [e] := insertEntry_of_forall_lt hlt
    rw [List.foldl_cons, ih (by rw [hins, List.append_assoc]; exact h), hins, List.append_assoc]
    rfl

/-- Sorted entries are the entries of their map. -/
theorem entries_ofList {es : List (String × α)} (h : SortedEntries es) :
    (ofList es).entries = es :=
  foldl_insert_of_sorted h

theorem entries_ofList_pair {k l : String} (v w : α) (h : l < k) :
    (ofList [(k, v), (l, w)]).entries = [(l, w), (k, v)] := by
  simp [ofList, insert, empty, insertEntry, h]

theorem ofList_entries (m : SortedMap α) : ofList m.entries = m :=
  SortedMap.ext (entries_ofList m.sorted)

theorem entries_insert (m : SortedMap α) (k : String) (v : α) :
    (m.insert k v).entries = insertEntry k v m.entries := rfl

theorem ofList_concat (es : List (String × α)) (e : String × α) :
    ofList (es ++ [e]) = (ofList es).insert e.1 e.2 := by
  rw [ofList, List.foldl_append]
  rfl

theorem insertEntry_map {β : Type} (f : α → β) (k : String) (v : α) (es : List (String × α)) :
    insertEntry k (f v) (es.map fun e => (e.1, f e.2)) =
      (insertEntry k v es).map fun e => (e.1, f e.2) := by
  induction es with
  | nil => rfl
  | cons e es ih =>
    simp only [insertEntry, List.map_cons]
    split_ifs <;> simp [ih]

/-- A function of what the names stand for can be applied before or after the map is built. -/
theorem entries_ofList_map {β : Type} (f : α → β) (es : List (String × α)) :
    (ofList (es.map fun e => (e.1, f e.2))).entries =
      (ofList es).entries.map fun e => (e.1, f e.2) := by
  induction es using List.reverseRecOn with
  | nil => rfl
  | append_singleton es e ih =>
    rw [List.map_append, List.map_singleton, ofList_concat, ofList_concat, entries_insert,
      entries_insert, ih]
    exact insertEntry_map f e.1 e.2 (ofList es).entries

/-- The entries are what the names stand for, each name once. -/
theorem mem_entries_iff {m : SortedMap α} {k : String} {v : α} :
    (k, v) ∈ m.entries ↔ m.get? k = some v := by
  rw [get?, List.lookup_eq_some_iff]
  constructor
  · intro h
    obtain ⟨before, after, he⟩ := List.append_of_mem h
    refine ⟨before, after, he, fun e hmem => ?_⟩
    -- the names before `k` are smaller
    have hsorted : SortedEntries (before ++ (k, v) :: after) := he ▸ m.sorted
    have hlt := (List.pairwise_append.1 hsorted).2.2 e hmem (k, v) List.mem_cons_self
    have hne : k ≠ e.1 := fun hk => String.lt_irrefl k (hk ▸ hlt)
    simpa using hne
  · rintro ⟨before, after, he, -⟩
    rw [he]
    simp

theorem pairwise_keys (m : SortedMap α) : m.keys.Pairwise (· < ·) := List.pairwise_map.2 m.sorted

theorem nodup_keys (m : SortedMap α) : m.keys.Nodup := by
  refine m.pairwise_keys.imp ?_
  rintro a b hlt rfl
  exact String.lt_irrefl _ hlt

theorem nodup_entries (m : SortedMap α) : m.entries.Nodup := by
  refine m.sorted.imp ?_
  rintro a b hlt rfl
  exact String.lt_irrefl _ hlt

/-- Maps with the same entries are equal, -/
theorem ext_mem {m n : SortedMap α} (h : ∀ e, e ∈ m.entries ↔ e ∈ n.entries) : m = n := by
  refine SortedMap.ext ?_
  have hperm : m.entries.Perm n.entries :=
    (List.perm_ext_iff_of_nodup m.nodup_entries n.nodup_entries).2 h
  refine hperm.eq_of_pairwise (fun a b _ _ hab hba => ?_) m.sorted n.sorted
  exact absurd hab (String.lt_asymm hba)

/-- and so are maps in which every name stands for the same. -/
theorem ext_get? {m n : SortedMap α} (h : ∀ k, m.get? k = n.get? k) : m = n := by
  refine ext_mem ?_
  rintro ⟨k, v⟩
  rw [mem_entries_iff, mem_entries_iff, h]

theorem get?_foldl_insert_map (f : String → α) (ks : List String) (m : SortedMap α) (k : String) :
    ((ks.map fun l => (l, f l)).foldl (fun m e => m.insert e.1 e.2) m).get? k =
      if k ∈ ks then some (f k) else m.get? k := by
  induction ks generalizing m with
  | nil => simp
  | cons l ks ih =>
    rw [List.map_cons, List.foldl_cons, ih, get?_insert]
    by_cases hk : k = l
    · simp [hk]
    · simp [hk]

/-- In a map that is computed from its names a name stands for what is computed from it. -/
theorem get?_ofList_map (f : String → α) (ks : List String) (k : String) :
    (ofList (ks.map fun l => (l, f l))).get? k = if k ∈ ks then some (f k) else none := by
  rw [ofList, get?_foldl_insert_map]
  rfl

/-! ### The entry that stands -/

/-- What a name stands for is the last entry of that name. -/
theorem exists_last_of_get?_ofList {es : List (String × α)} {k : String} {v : α}
    (h : (ofList es).get? k = some v) :
    ∃ es₁ es₂, es = es₁ ++ (k, v) :: es₂ ∧ ∀ e ∈ es₂, e.1 ≠ k := by
  induction es using List.reverseRecOn with
  | nil => cases h
  | append_singleton es e ih =>
    rw [ofList_concat, get?_insert] at h
    split_ifs at h with hk
    · cases h
      exact ⟨es, [], by rw [hk], List.forall_mem_nil _⟩
    · obtain ⟨es₁, es₂, rfl, hne⟩ := ih h
      refine ⟨es₁, es₂ ++ [e], by simp, List.forall_mem_append.2 ⟨hne, ?_⟩⟩
      exact List.forall_mem_singleton.2 (Ne.symm hk)

/-- Another value in the last entry of a name is what the name stands for then. -/
theorem ofList_replace {es₁ es₂ : List (String × α)} {k : String} (v w : α)
    (h : ∀ e ∈ es₂, e.1 ≠ k) :
    ofList (es₁ ++ (k, w) :: es₂) = (ofList (es₁ ++ (k, v) :: es₂)).adjust k fun _ => w := by
  induction es₂ using List.reverseRecOn with
  | nil =>
    refine ext_get? fun l => ?_
    rw [ofList_concat, ofList_concat, get?_adjust, get?_insert, get?_insert]
    split_ifs <;> rfl
  | append_singleton es₂ e ih =>
    obtain ⟨hes₂, he⟩ := List.forall_mem_append.1 h
    have hne : e.1 ≠ k := he e (List.mem_singleton_self e)
    refine ext_get? fun l => ?_
    rw [← List.cons_append, ← List.cons_append, ← List.append_assoc, ← List.append_assoc,
      ofList_concat, ofList_concat, ih hes₂, get?_insert, get?_adjust, get?_adjust, get?_insert]
    by_cases hl : l = k
    · subst hl
      rw [if_neg (Ne.symm hne), if_neg (Ne.symm hne)]
    · rw [if_neg hl, if_neg hl]

end SortedMap

end Gridlines
