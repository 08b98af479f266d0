import Gridlines.Proofs.Decimal.Thousands
import Gridlines.Proofs.Json.Texts

/-!
# Digits in groups

How an integer with separators may be written: a minus sign, one to three digits, and then groups
of three digits, each after a comma.  A grammar says so; the digits grow at their end there, because
the groups are counted from the end.  Digits have one grouping, so an integer has one text.

* `GroupsText` : the texts of digits in groups.
* `groupsText_iff` : it is `separate` that writes them.
* `IsSeparated` : the text of an integer with separators.
* `groupThousands_canonical` : every integer has one such text, and no two have the same.
-/

namespace Gridlines

/-- The text of digits in groups of three.  The first group may have fewer, and only the others
follow a comma. -/
inductive GroupsText : List Char → List Char → Prop where
  | first {ds : List Char} (hds : AllDigits ds) (hne : ds ≠ []) (hle : ds.length ≤ 3) :
      GroupsText ds ds
  | next {ds cs group : List Char} (h : GroupsText ds cs) (hgroup : AllDigits group)
      (hlength : group.length = 3) : GroupsText (ds ++ group) (cs ++ ',' :: group)

/-- The minus sign of an integer below zero. -/
def minusSign (n : ℤ) : List Char := if n < 0 then ['-'] else []

/-- The text of an integer with separators. -/
structure IsSeparated (n : ℤ) (text : String) : Prop where
  /-- A zero leads the digits of zero and of no other integer. -/
  grouped : ∃ ds cs, GroupsText ds cs ∧ text.toList = minusSign n ++ cs ∧
    (ds.head? = some '0' ↔ n = 0)
  numeral : String.ofList (withoutCommas text.toList) = toString n

/-! ### Grouping -/

theorem separate_of_length_le {cs : List Char} (h : cs.length ≤ 3) : separate cs = cs := by
  induction cs with
  | nil => rfl
  | cons c cs ih =>
    rw [List.length_cons] at h
    rw [separate, ih (by omega), if_neg]
    rintro ⟨hmod, hne⟩
    have hpos := List.length_pos_iff.2 hne
    omega

/-- A group at the end leaves the groups before it as they are. -/
theorem separate_append_group {ds group : List Char} (hne : ds ≠ []) (h : group.length = 3) :
    separate (ds ++ group) = separate ds ++ ',' :: group := by
  have hgroup : separate group = group := separate_of_length_le h.le
  have hgroup_ne : group ≠ [] := List.ne_nil_of_length_eq_add_one h
  induction ds with
  | nil => exact absurd rfl hne
  | cons c ds ih =>
    rw [List.cons_append, separate, List.length_append, h, Nat.add_mod_right]
    rcases eq_or_ne ds [] with rfl | hds
    · rw [List.nil_append, if_pos ⟨rfl, hgroup_ne⟩, hgroup]
      rfl
    · have hlast : ds ++ group ≠ [] := List.append_ne_nil_of_left_ne_nil hds group
      rw [separate, ih hds]
      by_cases hmod : ds.length % 3 = 0
      · rw [if_pos ⟨hmod, hlast⟩, if_pos ⟨hmod, hds⟩, List.cons_append, List.cons_append]
      · rw [if_neg fun hlate => hmod hlate.1, if_neg fun hlate => hmod hlate.1, List.cons_append]

theorem groupsText_separate {ds : List Char} (hds : AllDigits ds) (hne : ds ≠ []) :
    GroupsText ds (separate ds) := by
  induction hlength : ds.length using Nat.strongRecOn generalizing ds with
  | ind k ih =>
    subst hlength
    by_cases hle : ds.length ≤ 3
    · rw [separate_of_length_le hle]
      exact .first hds hne hle
    · -- the last three digits are a group
      obtain ⟨before, group, rfl, hgroup⟩ : ∃ before group, ds = before ++ group ∧
          group.length = 3 :=
        ⟨ds.take (ds.length - 3), ds.drop (ds.length - 3), (List.take_append_drop ..).symm, by
          rw [List.length_drop]
          omega⟩
      obtain ⟨hbefore, hgroup_digits⟩ := List.forall_mem_append.1 hds
      rw [List.length_append, hgroup] at ih hle
      have hbefore_ne : before ≠ [] := List.length_pos_iff.1 (by omega)
      rw [separate_append_group hbefore_ne hgroup]
      exact .next (ih before.length (by omega) hbefore hbefore_ne rfl) hgroup_digits hgroup

/-- **Digits have one text in groups.** -/
theorem groupsText_iff {ds cs : List Char} :
    GroupsText ds cs ↔ AllDigits ds ∧ ds ≠ [] ∧ cs = separate ds := by
  constructor
  · intro h
    induction h with
    | first hds hne hle => exact ⟨hds, hne, (separate_of_length_le hle).symm⟩
    | @next ds cs group _ hgroup hlength ih =>
      obtain ⟨hds, hne, rfl⟩ := ih
      exact ⟨hds.append hgroup, List.append_ne_nil_of_left_ne_nil hne group,
        (separate_append_group hne hlength).symm⟩
  · rintro ⟨hds, hne, rfl⟩
    exact groupsText_separate hds hne

/-- The commas are all that a text has beside the digits. -/
theorem GroupsText.withoutCommas {ds cs : List Char} (h : GroupsText ds cs) :
    withoutCommas cs = ds := by
  obtain ⟨hds, -, rfl⟩ := groupsText_iff.1 h
  exact withoutCommas_separate fun c hc => ne_comma_of_isDigit (hds c hc)

/-! ### Numerals -/

/-- Only zero is written with a leading zero. -/
theorem head?_toDigits_eq_zero_iff {n : ℕ} : (Nat.toDigits 10 n).head? = some '0' ↔ n = 0 := by
  induction n using Nat.strongRecOn with
  | ind n ih =>
    by_cases hn : n < 10
    · have hall : ∀ d < 10, some (Nat.digitChar d) = some '0' ↔ d = 0 := by decide
      rw [Nat.toDigits_of_lt_base hn]
      exact hall n hn
    · rw [Nat.toDigits_of_base_le (by decide) (Nat.le_of_not_lt hn),
        List.head?_append_of_ne_nil _ Nat.toDigits_ne_nil, ih (n / 10) (by omega)]
      omega

theorem integerText_eq (n : ℤ) :
    Json.integerText n = minusSign n ++ Nat.toDigits 10 n.natAbs := by
  unfold Json.integerText minusSign
  split_ifs <;> rfl

theorem toList_groupThousands (n : ℤ) :
    (groupThousands n).toList = minusSign n ++ separate (Nat.toDigits 10 n.natAbs) := by
  unfold groupThousands minusSign
  split_ifs <;> exact String.toList_ofList

theorem withoutCommas_minusSign (n : ℤ) (cs : List Char) :
    withoutCommas (minusSign n ++ cs) = minusSign n ++ withoutCommas cs := by
  unfold minusSign
  split_ifs <;> rfl

/-! ### Integers -/

theorem isSeparated_groupThousands (n : ℤ) : IsSeparated n (groupThousands n) where
  grouped := by
    refine ⟨Nat.toDigits 10 n.natAbs, separate (Nat.toDigits 10 n.natAbs), ?_,
      toList_groupThousands n, head?_toDigits_eq_zero_iff.trans Int.natAbs_eq_zero⟩
    exact groupsText_separate (allDigits_toDigits _) Nat.toDigits_ne_nil
  numeral := by rw [withoutCommas_groupThousands, Json.ofList_integerText]

/-- The numeral tells the digits, and the digits have one grouping. -/
theorem IsSeparated.eq_groupThousands {n : ℤ} {text : String} (h : IsSeparated n text) :
    text = groupThousands n := by
  obtain ⟨ds, cs, hgroups, htext, -⟩ := h.grouped
  have hds : ds = Nat.toDigits 10 n.natAbs := by
    have hnumeral := h.numeral
    rw [htext, withoutCommas_minusSign, hgroups.withoutCommas, ← Json.ofList_integerText,
      String.ofList_inj, integerText_eq] at hnumeral
    exact List.append_cancel_left hnumeral
  obtain ⟨-, -, rfl⟩ := groupsText_iff.1 hgroups
  rw [← String.toList_inj, htext, toList_groupThousands, hds]

/-- **An integer has one text with separators**, and different integers have different ones.  The
integers of 64 bits are among them, the least one included. -/
theorem groupThousands_canonical :
    (∀ n text, IsSeparated n text ↔ text = groupThousands n) ∧
      Function.Injective groupThousands := by
  constructor
  · intro n text
    constructor
    · exact IsSeparated.eq_groupThousands
    · rintro rfl
      exact isSeparated_groupThousands n
  · intro m n h
    have hnumeral : Json.integerText m = Json.integerText n := by
      rw [← withoutCommas_groupThousands m, h, withoutCommas_groupThousands]
    exact Json.integerText_inj hnumeral

example : groupThousands (-9223372036854775808) = "-9,223,372,036,854,775,808" := by decide +kernel

end Gridlines
