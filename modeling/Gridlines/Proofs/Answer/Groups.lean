import Gridlines.Proofs.Answer.Filter
import Gridlines.Proofs.Answer.Leaderboard
import Gridlines.Proofs.Decimal.ReadBack
import Gridlines.Proofs.Text.ByteOrder

/-!
# Groups of features

The groups of an attribute are counted exactly, and the leading group is the largest one, of equally
large ones the one whose name has the smallest bytes.  Counting goes over the names of the groups of
the features in the order of the features (`groupNames`), so it is a tally of these names, and two
lists of features one after the other have the sums of their counts.

* `Feature.group?` : the group of a feature; without a value it is in none.
* `NamesGroup` : the name of the group of a value, and `readDecimal?_of_namesGroup` that numbers
  with different binary64 values have different names.
* `leadingGroup?_eq_some_iff` : the leading group leads the names of the groups.
* `groupCounts_exact` : what the counts and the leading group are.
-/

namespace Gridlines

/-- The name of the group of a value: a text is its own name, a number has the text of its binary64
value, and all else has its JSON text. -/
inductive NamesGroup : Json → String → Prop
  | string (s : String) : NamesGroup (.string s) s
  | number (n : Json.Number) : NamesGroup (.number n) (groupStyle.writeAny n.toBinary64)
  | other {x : Json} (hstring : ∀ s, x ≠ .string s) (hnumber : ∀ n, x ≠ .number n) :
      NamesGroup x x.compact

/-- The name of the group of a feature, unless its value is missing or `null`. -/
def Feature.group? (f : Feature) (field : String) : Option String := (f.get? field).map groupName

/-- How many of the features are in a group. -/
def groupSize (features : List Feature) (field name : String) : Nat :=
  features.countP fun f => f.group? field == some name

/-- The names of the groups of the features that are in one, in the order of the features. -/
def groupNames (features : List Feature) (field : String) : List String :=
  features.filterMap (·.group? field)

variable {features : List Feature} {field name : String} {n : Nat}

/-! ### Names of groups -/

theorem namesGroup_iff {x : Json} : NamesGroup x name ↔ groupName x = name := by
  constructor
  · rintro (_ | _ | ⟨hstring, hnumber⟩)
    · rfl
    · rfl
    · cases x with
      | string s => exact absurd rfl (hstring s)
      | number n => exact absurd rfl (hnumber n)
      | _ => rfl
  · rintro rfl
    cases x with
    | string s => exact .string s
    | number n => exact .number n
    | _ => exact .other (fun _ => Json.noConfusion) fun _ => Json.noConfusion

/-- The value of a number is read off the name of its group. -/
theorem readDecimal?_of_namesGroup {m : Json.Number} {v : Finite}
    (h : NamesGroup (.number m) name) (hv : m.toBinary64 = .finite v) :
    readDecimal? name.toList = some (.finite v) := by
  rw [← namesGroup_iff.1 h, groupName, hv]
  exact Style.readDecimal?_write _ _

/-- A feature is in the group of its value, unless this is missing or `null`. -/
theorem Feature.group?_eq_some_iff {f : Feature} : f.group? field = some name ↔
    ∃ x, f.properties.get? field = some x ∧ x ≠ .null ∧ NamesGroup x name := by
  simp only [group?, Option.map_eq_some_iff, get?_eq_some_iff, namesGroup_iff, and_assoc]

theorem Feature.group?_eq_none_iff {f : Feature} : f.group? field = none ↔ f.get? field = none := by
  rw [group?, Option.map_eq_none_iff]

theorem groupCounts_eq_tally (features : List Feature) (field : String) :
    groupCounts features field = tally (groupNames features field) := by
  rw [groupCounts, List.map_filterMap]
  rfl

theorem count_groupNames (features : List Feature) (field name : String) :
    (groupNames features field).count name = groupSize features field name :=
  List.count_filterMap

theorem mem_groupNames_iff :
    name ∈ groupNames features field ↔ ∃ f ∈ features, f.group? field = some name :=
  List.mem_filterMap

theorem groupNames_eq_nil_iff :
    groupNames features field = [] ↔ ∀ f ∈ features, f.get? field = none := by
  rw [groupNames, List.filterMap_eq_nil_iff]
  exact forall₂_congr fun f _ => Feature.group?_eq_none_iff

theorem length_groupNames (features : List Feature) (field : String) :
    (groupNames features field).length = features.countP fun f => (f.get? field).isSome := by
  rw [groupNames, List.length_filterMap_eq_countP]
  refine List.countP_congr fun f _ => ?_
  rw [Feature.group?, Option.isSome_map]

/-! ### The leading group -/

theorem Leads.unique {names : List String} {k l : String} {m n : Nat} (h : Leads names k m)
    (h' : Leads names l n) : k = l ∧ m = n := by
  have hmn : m = n := by
    have hle := h'.most k
    have hge := h.most l
    rw [h.count] at hle
    rw [h'.count] at hge
    omega
  subst hmn
  exact ⟨le_antisymm (h.first l h'.count) (h'.first k h.count), rfl⟩

/-- The leading group depends on the names of the groups alone, and not on their order. -/
theorem leadingGroup?_congr {features' : List Feature}
    (h : (groupNames features field).Perm (groupNames features' field)) :
    leadingGroup? features field = leadingGroup? features' field := by
  rw [leadingGroup?, leadingGroup?, groupCounts_eq_tally, groupCounts_eq_tally, tally_perm h]

theorem leadingGroup?_eq_none_iff :
    leadingGroup? features field = none ↔ ∀ f ∈ features, f.get? field = none := by
  rw [← groupNames_eq_nil_iff, leadingGroup?, groupCounts_eq_tally]
  refine ⟨fun h => ?_, fun h => by rw [h]; rfl⟩
  by_contra hne
  obtain ⟨k, n, hfirst, -⟩ := exists_leads hne
  rw [hfirst] at h
  cases h

theorem leadingGroup?_eq_some_iff :
    leadingGroup? features field = some (name, n) ↔ Leads (groupNames features field) name n := by
  have hne : ∀ {e}, leadingGroup? features field = some e → groupNames features field ≠ [] := by
    intro e h hnil
    rw [leadingGroup?_eq_none_iff.2 (groupNames_eq_nil_iff.1 hnil)] at h
    cases h
  have hleads : groupNames features field ≠ [] → ∃ k m,
      leadingGroup? features field = some (k, m) ∧ Leads (groupNames features field) k m := by
    rw [leadingGroup?, groupCounts_eq_tally]
    exact exists_leads
  constructor
  · intro h
    obtain ⟨k, m, hfirst, hlead⟩ := hleads (hne h)
    cases h.symm.trans hfirst
    exact hlead
  · intro h
    obtain ⟨k, m, hfirst, hlead⟩ := hleads (List.ne_nil_of_mem h.mem)
    obtain ⟨rfl, rfl⟩ := h.unique hlead
    exact hfirst

/-! ### What is counted -/

/-- The counts are those of the groups of the features. -/
structure CountsGroups (features : List Feature) (field : String) (counts : SortedMap Nat) :
    Prop where
  /-- A feature is in the group of its value. -/
  named : ∀ f ∈ features, ∀ name, f.group? field = some name ↔
    ∃ x, f.properties.get? field = some x ∧ x ≠ .null ∧ NamesGroup x name
  /-- The name of the group of a number is read back to its binary64 value. -/
  numbers : ∀ f ∈ features, ∀ m v, f.properties.get? field = some (.number m) →
    m.toBinary64 = .finite v → ∃ name, f.group? field = some name ∧
      readDecimal? name.toList = some (.finite v)
  /-- The groups that are counted are those of the features with a value. -/
  mem_keys : ∀ name, name ∈ counts.keys ↔ ∃ f ∈ features, f.group? field = some name
  /-- Each of them is counted once, in the order of the bytes of their names. -/
  ordered : (counts.keys.map utf8Bytes).Pairwise (· < ·)
  size : ∀ e ∈ counts.entries, e.2 = groupSize features field e.1
  pos : ∀ e ∈ counts.entries, 0 < e.2
  /-- Every feature with a value is counted. -/
  total : (counts.entries.map Prod.snd).sum = features.countP fun f => (f.get? field).isSome

/-- The group has the largest of all counts, and of the groups with that count its name has the
smallest bytes. -/
structure LeadsCounts (counts : SortedMap Nat) (name : String) (n : Nat) : Prop where
  mem : (name, n) ∈ counts.entries
  most : ∀ e ∈ counts.entries, e.2 ≤ n
  first : ∀ e ∈ counts.entries, e.2 = n → utf8Bytes name ≤ utf8Bytes e.1

theorem countsGroups_groupCounts (features : List Feature) (field : String) :
    CountsGroups features field (groupCounts features field) := by
  rw [groupCounts_eq_tally]
  constructor
  case named => exact fun f _ name => Feature.group?_eq_some_iff
  case numbers =>
    intro f _ m v hm hv
    have hname : NamesGroup (.number m) (groupName (.number m)) := namesGroup_iff.2 rfl
    exact ⟨_, Feature.group?_eq_some_iff.2 ⟨_, hm, Json.noConfusion, hname⟩,
      readDecimal?_of_namesGroup hname hv⟩
  case mem_keys =>
    intro name
    rw [mem_keys_tally_iff, mem_groupNames_iff]
  case ordered =>
    refine List.pairwise_map.2 ((SortedMap.pairwise_keys _).imp ?_)
    exact utf8Bytes_lt_iff.2
  case size =>
    rintro ⟨name, n⟩ he
    rw [← count_groupNames]
    exact (mem_tally_iff.1 he).2.symm
  case pos =>
    rintro ⟨name, n⟩ he
    obtain ⟨hmem, rfl⟩ := mem_tally_iff.1 he
    exact List.count_pos_iff.2 hmem
  case total => rw [sum_tally, length_groupNames]

theorem leadsCounts_tally_iff {names : List String} {k : String} {n : Nat} :
    LeadsCounts (tally names) k n ↔ Leads names k n := by
  constructor
  · rintro ⟨hmem, hmost, hfirst⟩
    obtain ⟨hk, hn⟩ := mem_tally_iff.1 hmem
    have hpos : 0 < n := by
      rw [← hn]
      exact List.count_pos_iff.2 hk
    refine ⟨hk, hn, fun l => ?_, fun l hl => ?_⟩
    · by_cases hmem : l ∈ names
      · exact hmost (l, names.count l) (mem_tally_iff.2 ⟨hmem, rfl⟩)
      · rw [List.count_eq_zero_of_not_mem hmem]
        exact Nat.zero_le n
    · have hmem : l ∈ names := List.count_pos_iff.1 (hl ▸ hpos)
      exact utf8Bytes_le_iff.1 (hfirst (l, n) (mem_tally_iff.2 ⟨hmem, hl⟩) rfl)
  · intro h
    refine ⟨mem_tally_iff.2 ⟨h.mem, h.count⟩, ?_, ?_⟩
    · rintro ⟨l, m⟩ he
      rw [← (mem_tally_iff.1 he).2]
      exact h.most l
    · rintro ⟨l, m⟩ he rfl
      exact utf8Bytes_le_iff.2 (h.first l (mem_tally_iff.1 he).2)

/-- **Groups are counted exactly, and the leading group is the first of the largest ones.**  There
is none only if no feature has a value. -/
theorem groupCounts_exact (features : List Feature) (field : String) :
    CountsGroups features field (groupCounts features field) ∧
      (∀ more name, ((groupCounts (features ++ more) field).get? name).getD 0 =
        ((groupCounts features field).get? name).getD 0 +
          ((groupCounts more field).get? name).getD 0) ∧
      (leadingGroup? features field = none ↔
        ∀ f ∈ features, ∀ x, f.properties.get? field = some x → x = .null) ∧
      ∀ name n, leadingGroup? features field = some (name, n) ↔
        LeadsCounts (groupCounts features field) name n := by
  refine ⟨countsGroups_groupCounts features field, fun more name => ?_, ?_, fun name n => ?_⟩
  · simp only [groupCounts_eq_tally, getD_tally, groupNames, List.filterMap_append,
      List.count_append]
  · simp only [leadingGroup?_eq_none_iff, Feature.get?_eq_none_iff]
  · rw [leadingGroup?_eq_some_iff, groupCounts_eq_tally, leadsCounts_tally_iff]

end Gridlines
