import Gridlines.Answer.Match
import Gridlines.Proofs.Answer.Groups
import Gridlines.Proofs.Binary64.Rounding
import Gridlines.Proofs.Decimal.ReadBack

/-!
# Groups of numbers

Two numbers are in one group if their values are written alike, and equal if their values are.  A
text determines the value that it is written for, so both come to the same, whatever integers and
floats the numbers are.  Only zero has two texts: `-0.0` equals `0` and is in another group.

* `Feature.SharesGroup` : the counts have two features in one group.
* `Finite.eq_and_minusZero_iff` : numbers are equal, and of one sign if they are zero, if they are
  the same.
* `Feature.sharesGroup_number_iff` : features with equal numbers are in one group, unless one of
  them has `-0.0` and the other has not.
-/

namespace Gridlines

/-! ### Sharing a group -/

/-- How many features the counts have in a group. -/
def groupCount (features : List Feature) (field name : String) : Nat :=
  ((groupCounts features field).get? name).getD 0

theorem groupCount_eq (features : List Feature) (field name : String) :
    groupCount features field name = groupSize features field name := by
  rw [groupCount, groupCounts_eq_tally, getD_tally, count_groupNames]

namespace Feature

/-- The counts have both features in one group: wherever they stand among others, the count of one
name is larger by two with them. -/
def SharesGroup (f g : Feature) (field : String) : Prop :=
  ∃ name, ∀ others all : List Feature, all.Perm (f :: g :: others) →
    groupCount all field name = groupCount others field name + 2

variable {f g : Feature} {field : String}

theorem sharesGroup_iff :
    f.SharesGroup g field ↔ ∃ name, f.group? field = some name ∧ g.group? field = some name := by
  refine exists_congr fun name => ?_
  simp only [groupCount_eq]
  constructor
  · intro h
    have htwo : groupSize [f, g] field name = [f, g].length := h [] [f, g] (.refl _)
    have hall := List.countP_eq_length.1 htwo
    simpa using hall
  · rintro ⟨hf, hg⟩ others all hperm
    simp [groupSize, hperm.countP_eq, hf, hg]

end Feature

/-! ### The two zeros -/

theorem Finite.eq_and_minusZero_iff {x y : Finite} :
    x.eq y ∧ (x = zero.neg ↔ y = zero.neg) ↔ x = y := by
  constructor
  · rintro ⟨heq, hzero⟩
    have hrank : x.signedRank = y.signedRank := beq_iff_eq.1 heq
    obtain ⟨s, m, hm⟩ := x
    obtain ⟨t, n, hn⟩ := y
    simp only [zero, neg, mk.injEq] at hzero
    simp only [signedRank] at hrank
    cases s <;> cases t <;> simp_all
  · rintro rfl
    exact ⟨beq_self_eq_true _, Iff.rfl⟩

namespace Json.Number

/-- The number that `-0.0` is read as. -/
def minusZero : Number := .float Finite.zero.neg

/-- No integer has the value `-0.0`. -/
theorem toBinary64_eq_minusZero_iff {n : Number} :
    n.toBinary64 = .finite Finite.zero.neg ↔ n = minusZero := by
  cases n with
  | int i =>
    refine ⟨fun h => ?_, fun h => by cases h⟩
    rw [toBinary64, Binary64.ofInt, Binary64.ofRatio, Binary64.ofRank] at h
    split at h
    · have hzero := Binary64.finite.inj h
      have hminus : decide (i < 0) = true := congrArg Finite.negative hzero
      have hrank : nearestRank i.natAbs 1 = 0 := congrArg Finite.rank hzero
      have hpos : 0 < nearestRank i.natAbs 1 :=
        nearestRank_pos (Int.natAbs_pos.2 (of_decide_eq_true hminus).ne)
      omega
    · cases h
  | float x => simp [toBinary64, minusZero]

theorem toBinary64_ne_nan (n : Number) : n.toBinary64 ≠ .nan := by
  cases n with
  | int i =>
    rw [toBinary64, Binary64.ofInt, Binary64.ofRatio, Binary64.ofRank]
    split <;> exact Binary64.noConfusion
  | float x => exact Binary64.noConfusion

/-- Numbers have the same value and the same sign if they are equal and both or neither is
`-0.0`. -/
theorem toBinary64_eq_iff {m n : Number} :
    m.toBinary64 = n.toBinary64 ↔
      m.toBinary64.eq n.toBinary64 ∧ (m = minusZero ↔ n = minusZero) := by
  rw [← toBinary64_eq_minusZero_iff, ← toBinary64_eq_minusZero_iff (n := n)]
  cases hm : m.toBinary64 with
  | finite x =>
    cases hn : n.toBinary64 with
    | finite y =>
      simp only [Binary64.finite.injEq]
      exact Finite.eq_and_minusZero_iff.symm
    | infinite t => simp [Binary64.eq]
    | nan => exact absurd hn n.toBinary64_ne_nan
  | infinite s =>
    cases hn : n.toBinary64 with
    | finite y => simp [Binary64.eq]
    | infinite t => simp [Binary64.eq]
    | nan => exact absurd hn n.toBinary64_ne_nan
  | nan => exact absurd hm m.toBinary64_ne_nan

end Json.Number

/-! ### Groups and equality -/

namespace Feature

variable {f g : Feature} {field : String} {m n : Json.Number}

theorem group?_of_number (hf : f.get? field = some (.number m)) :
    f.group? field = some (groupStyle.writeAny m.toBinary64) := by
  rw [group?, hf]
  rfl

theorem meets_of_number (hf : f.get? field = some (.number m)) :
    f.meets ⟨field, .equals (.number n)⟩ = m.toBinary64.eq n.toBinary64 := by
  simp only [meets, hf]
  rfl

/-- **Features with equal numbers are in one group, and no others**, but for `-0.0`, which only
shares a group with itself. -/
theorem sharesGroup_number_iff (hf : f.get? field = some (.number m))
    (hg : g.get? field = some (.number n)) :
    f.SharesGroup g field ↔
      f.meets ⟨field, .equals (.number n)⟩ ∧ (m = .minusZero ↔ n = .minusZero) := by
  rw [meets_of_number hf, ← Json.Number.toBinary64_eq_iff, sharesGroup_iff, group?_of_number hf,
    group?_of_number hg]
  constructor
  · rintro ⟨name, hm, hn⟩
    exact Style.writeAny_inj (Option.some.inj (hm.trans hn.symm))
  · intro h
    exact ⟨_, rfl, by rw [h]⟩

/-- A feature that has only a number of an owner. -/
def ownedByNumber (n : Json.Number) : Feature :=
  .ofProperties (.ofList [(Field.owner, .number n)])

/-- An integer is in the group of the float that it is rounded to. -/
theorem sharesGroup_number_rounded :
    let m : Json.Number := .int 9007199254740993
    let n : Json.Number := .float ⟨false, 1076 * Finite.binade, by decide⟩
    (ownedByNumber m).get? Field.owner = some (.number m) ∧
      (ownedByNumber n).get? Field.owner = some (.number n) ∧
      (ownedByNumber m).SharesGroup (ownedByNumber n) Field.owner := by
  intro m n
  have hm : (ownedByNumber m).get? Field.owner = some (.number m) := rfl
  have hn : (ownedByNumber n).get? Field.owner = some (.number n) := rfl
  have hmzero : m ≠ .minusZero := by decide +kernel
  have hnzero : n ≠ .minusZero := by decide +kernel
  have hequal : (ownedByNumber m).meets ⟨Field.owner, .equals (.number n)⟩ := by decide +kernel
  exact ⟨hm, hn, (sharesGroup_number_iff hm hn).2 ⟨hequal, iff_of_false hmzero hnzero⟩⟩

/-- `0` equals `-0.0`, and they are in two groups. -/
theorem not_sharesGroup_minusZero :
    let f := ownedByNumber (.int 0)
    let g := ownedByNumber .minusZero
    f.meets ⟨Field.owner, .equals (.number .minusZero)⟩ ∧ ¬f.SharesGroup g Field.owner ∧
      (groupCounts [f, g] Field.owner).entries = [("-0", 1), ("0", 1)] := by
  intro f g
  refine ⟨by decide +kernel, ?_, by decide +kernel⟩
  rw [sharesGroup_iff]
  rintro ⟨name, hf, hg⟩
  have hnames : f.group? Field.owner ≠ g.group? Field.owner := by decide +kernel
  exact hnames (hf.trans hg.symm)

end Feature

end Gridlines
