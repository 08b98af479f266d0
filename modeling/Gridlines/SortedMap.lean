/-!
# Sorted maps

Named entries in the order of their names, each name once.  Strings are ordered by their code
points, which is also the order of their UTF-8 bytes.

* `insertEntry` : insertion into a list of entries, replacing what the name had.
* `SortedMap` : a list of entries with a proof that it is sorted.
* `SortedMap.get?_insert`, `SortedMap.get?_adjust` : what an operation does to every name.
-/

namespace Gridlines

variable {α : Type}

/-- Puts an entry in its place, replacing the entry of that name. -/
def insertEntry (k : String) (v : α) : List (String × α) → List (String × α)
  | [] => [(k, v)]
  | (l, w) :: es =>
    if k < l then (k, v) :: (l, w) :: es
    else if k = l then (k, v) :: es
    else (l, w) :: insertEntry k v es

/-- The entries are in the order of their names. -/
def SortedEntries (es : List (String × α)) : Prop := es.Pairwise fun a b => a.1 < b.1

theorem sortedEntries_nil : SortedEntries ([] : List (String × α)) := List.Pairwise.nil

theorem mem_insertEntry {k : String} {v : α} {e : String × α} {es : List (String × α)}
    (h : e ∈ insertEntry k v es) : e = (k, v) ∨ e ∈ es := by
  induction es with
  | nil => simpa [insertEntry] using h
  | cons d es ih =>
    simp only [insertEntry] at h
    split at h
    · simpa using h
    · split at h
      · rcases List.mem_cons.1 h with h | h
        · exact .inl h
        · exact .inr (List.mem_cons_of_mem _ h)
      · rcases List.mem_cons.1 h with h | h
        · exact .inr (h ▸ List.mem_cons_self)
        · exact (ih h).imp id (List.mem_cons_of_mem _)

theorem SortedEntries.insertEntry {es : List (String × α)} (h : SortedEntries es) (k : String)
    (v : α) : SortedEntries (Gridlines.insertEntry k v es) := by
  induction es with
  | nil => simp [Gridlines.insertEntry, SortedEntries]
  | cons d es ih =>
    obtain ⟨l, w⟩ := d
    have ⟨hl, hes⟩ := List.pairwise_cons.1 h
    simp only [Gridlines.insertEntry]
    split
    · next hk =>
      refine List.pairwise_cons.2 ⟨fun e he => ?_, h⟩
      rcases List.mem_cons.1 he with rfl | he
      · exact hk
      · exact String.lt_trans hk (hl e he)
    · next hk =>
      split
      · next hkl => subst hkl; exact List.pairwise_cons.2 ⟨hl, hes⟩
      · next hne =>
        refine List.pairwise_cons.2 ⟨fun e he => ?_, ih hes⟩
        rcases mem_insertEntry he with rfl | he
        · exact Decidable.byContradiction fun hlk =>
            hne (String.le_antisymm (String.not_lt.1 hlk) (String.not_lt.1 hk))
        · exact hl e he

/-- Named entries in the order of their names. -/
structure SortedMap (α : Type) where
  entries : List (String × α)
  sorted : SortedEntries entries

namespace SortedMap

/-- The map without entries. -/
def empty : SortedMap α := ⟨[], sortedEntries_nil⟩

instance : EmptyCollection (SortedMap α) := ⟨empty⟩

instance : Inhabited (SortedMap α) := ⟨empty⟩

/-- The names, in order. -/
def keys (m : SortedMap α) : List String := m.entries.map Prod.fst

/-- What a name stands for. -/
def get? (m : SortedMap α) (k : String) : Option α := m.entries.lookup k

/-- Whether a name has an entry. -/
def contains (m : SortedMap α) (k : String) : Bool := (m.get? k).isSome

/-- Sets what a name stands for. -/
def insert (m : SortedMap α) (k : String) (v : α) : SortedMap α :=
  ⟨insertEntry k v m.entries, m.sorted.insertEntry k v⟩

/-- The map of a list of entries; the last entry of a name stands. -/
def ofList (es : List (String × α)) : SortedMap α :=
  es.foldl (fun m e => m.insert e.1 e.2) empty

theorem ext {m n : SortedMap α} (h : m.entries = n.entries) : m = n := by
  cases m; cases n; cases h; rfl

end SortedMap

/-- Applies a function to what a name stands for, if it has an entry. -/
def adjustEntry (k : String) (f : α → α) (es : List (String × α)) : List (String × α) :=
  es.map fun e => if e.1 = k then (e.1, f e.2) else e

theorem keys_adjustEntry (k : String) (f : α → α) (es : List (String × α)) :
    (adjustEntry k f es).map Prod.fst = es.map Prod.fst := by
  simp only [adjustEntry, List.map_map]
  refine List.map_congr_left fun e _ => ?_
  simp only [Function.comp_apply]
  split <;> rfl

theorem SortedEntries.of_keys {es fs : List (String × α)} (h : SortedEntries es)
    (hk : fs.map Prod.fst = es.map Prod.fst) : SortedEntries fs := by
  have he : (es.map Prod.fst).Pairwise (· < ·) := List.pairwise_map.2 h
  exact List.pairwise_map.1 (hk ▸ he)

theorem lookup_insertEntry (k l : String) (v : α) (es : List (String × α)) :
    (insertEntry k v es).lookup l = if l = k then some v else es.lookup l := by
  have ne {a b : String} (h : ¬a = b) : (a == b) = false := by simpa using h
  induction es with
  | nil => by_cases h : l = k <;> simp [insertEntry, List.lookup_cons, h, ne]
  | cons d es ih =>
    obtain ⟨j, w⟩ := d
    simp only [insertEntry]
    split
    · by_cases h : l = k <;> simp [List.lookup_cons, h, ne]
    · split
      · next hkj => subst hkj; by_cases h : l = k <;> simp [List.lookup_cons, h, ne]
      · next hkj =>
        by_cases h : l = j
        · subst h; simp [Ne.symm hkj]
        · simp [List.lookup_cons, h, ne, ih]

theorem lookup_adjustEntry (k l : String) (f : α → α) (es : List (String × α)) :
    (adjustEntry k f es).lookup l = if l = k then (es.lookup l).map f else es.lookup l := by
  have ne {a b : String} (h : ¬a = b) : (a == b) = false := by simpa using h
  induction es with
  | nil => simp [adjustEntry]
  | cons d es ih =>
    obtain ⟨j, w⟩ := d
    rw [adjustEntry, List.map_cons, ← adjustEntry]
    by_cases hj : j = k
    · subst hj
      by_cases h : l = j <;> simp [List.lookup_cons, h, ne, ih]
    · by_cases h : l = j
      · subst h; simp [hj]
      · by_cases hl : l = k
        · subst hl; simp [List.lookup_cons, ne, hj, h, ih]
        · simp [List.lookup_cons, ne, hj, h, hl, ih]

namespace SortedMap

/-- Applies a function to what a name stands for, if it has an entry. -/
def adjust (m : SortedMap α) (k : String) (f : α → α) : SortedMap α :=
  ⟨adjustEntry k f m.entries, m.sorted.of_keys (keys_adjustEntry k f m.entries)⟩

theorem get?_insert (m : SortedMap α) (k l : String) (v : α) :
    (m.insert k v).get? l = if l = k then some v else m.get? l :=
  lookup_insertEntry k l v m.entries

theorem get?_adjust (m : SortedMap α) (k l : String) (f : α → α) :
    (m.adjust k f).get? l = if l = k then (m.get? l).map f else m.get? l :=
  lookup_adjustEntry k l f m.entries

theorem keys_adjust (m : SortedMap α) (k : String) (f : α → α) : (m.adjust k f).keys = m.keys :=
  keys_adjustEntry k f m.entries

end SortedMap

end Gridlines
