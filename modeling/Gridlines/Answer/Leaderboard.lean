import Gridlines.Feature

/-!
# Leaderboards

Features are grouped by the text of an attribute and counted; features without the attribute are
in no group.  Texts stand for themselves and numbers for their value, so `1` and `1.0` are one
group.  The leading group is the first of the largest ones in the order of the texts.

* `groupCounts` : the number of features of each group.
* `leadingGroup?` : the leading group.
-/

namespace Gridlines

/-- Numbers as names of groups: always positional, whole numbers without a point. -/
def groupStyle : Style := ⟨fun _ => true, false, false, .away⟩

/-- The name of the group of a value. -/
def groupName : Json → String
  | .string s => s
  | .number n => groupStyle.writeAny n.toBinary64
  | x => x.compact

/-- How often each text occurs. -/
def tally (names : List String) : SortedMap Nat :=
  names.foldl (fun counts k => counts.insert k ((counts.get? k).getD 0 + 1)) ∅

/-- The number of features of each group of an attribute. -/
def groupCounts (features : List Feature) (field : String) : SortedMap Nat :=
  tally ((features.filterMap (·.get? field)).map groupName)

/-- The first entry with the largest count. -/
def firstLargest (entries : List (String × Nat)) : Option (String × Nat) :=
  entries.foldl (fun best e =>
    -- an equal count leaves the earlier entry in place
    match best with
    | some b => if b.2 < e.2 then some e else some b
    | none => some e) none

/-- The leading group of an attribute and its number of features. -/
def leadingGroup? (features : List Feature) (field : String) : Option (String × Nat) :=
  firstLargest (groupCounts features field).entries

end Gridlines
