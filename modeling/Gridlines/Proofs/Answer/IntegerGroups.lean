import Gridlines.Proofs.Answer.NumberGroups
import Gridlines.Proofs.Binary64.Integers
import Gridlines.Proofs.Json.Numbers

/-!
# Groups of integers

Equality and groups go by the binary64 number of an integer, so integers that are rounded to the
same 53 binary digits are equal and in one group.  Below `2 ^ 53` these are the digits of the
integer, and identifiers stay apart.

* `Feature.ComparesIntegers` : how two features with integers compare.
* `Feature.comparesIntegers` : all features with integers of 64 bits do.
-/

namespace Gridlines

open Json (Number)

theorem Json.Number.natAbs_lt_of_inRange {a : ℤ} (h : (Number.int a).InRange) :
    a.natAbs < 2 ^ 64 := by
  obtain ⟨hlow, hhigh⟩ := h
  simp only [Nat.one_shiftLeft] at hlow hhigh
  omega

theorem Json.Number.int_ne_minusZero (a : ℤ) : Number.int a ≠ minusZero := Number.noConfusion

namespace Feature

/-- How features compare at a field where one of them has the integer `a` and the other one `b`. -/
structure ComparesIntegers (f g : Feature) (field : String) (a b : ℤ) : Prop where
  equal : f.meets ⟨field, .equals (.number (.int b))⟩ ↔ nearestHeld a = nearestHeld b
  shared : f.SharesGroup g field ↔ nearestHeld a = nearestHeld b
  /-- An integer below `2 ^ 53` is equal to itself alone. -/
  equal_below : a.natAbs < 2 ^ 53 ∨ b.natAbs < 2 ^ 53 →
    (f.meets ⟨field, .equals (.number (.int b))⟩ ↔ a = b)
  /-- An integer below `2 ^ 53` shares its group with no other. -/
  shared_below : a.natAbs < 2 ^ 53 ∨ b.natAbs < 2 ^ 53 → (f.SharesGroup g field ↔ a = b)

variable {f g : Feature} {field : String} {a b : ℤ}

/-- Integers are not `-0.0`, so those that are equal are in one group. -/
theorem sharesGroup_int_iff (hf : f.get? field = some (.number (.int a)))
    (hg : g.get? field = some (.number (.int b))) :
    f.SharesGroup g field ↔ f.meets ⟨field, .equals (.number (.int b))⟩ := by
  have hsame : (Number.int a).toBinary64 = (Number.int b).toBinary64 ↔
      (Number.int a).toBinary64.eq (Number.int b).toBinary64 := by
    rw [Number.toBinary64_eq_iff]
    exact and_iff_left (iff_of_false (Number.int_ne_minusZero a) (Number.int_ne_minusZero b))
  rw [meets_of_number hf, ← hsame, sharesGroup_iff, group?_of_number hf, group?_of_number hg]
  constructor
  · rintro ⟨name, hname, hname'⟩
    exact Style.writeAny_inj (Option.some.inj (hname.trans hname'.symm))
  · intro h
    exact ⟨_, rfl, by rw [h]⟩

theorem nearestHeld_eq_iff_of_or (h : a.natAbs < 2 ^ 53 ∨ b.natAbs < 2 ^ 53) :
    nearestHeld a = nearestHeld b ↔ a = b := by
  rcases h with ha | hb
  · exact nearestHeld_eq_iff ha
  · rw [eq_comm, nearestHeld_eq_iff hb, eq_comm]

/-- **Integers are equal and in one group exactly if they are rounded to the same 53 binary digits**,
so those below `2 ^ 53` are never taken for others. -/
theorem comparesIntegers (hf : f.get? field = some (.number (.int a)))
    (hg : g.get? field = some (.number (.int b))) (ha : (Number.int a).InRange)
    (hb : (Number.int b).InRange) : f.ComparesIntegers g field a b := by
  have hequal : f.meets ⟨field, .equals (.number (.int b))⟩ ↔ nearestHeld a = nearestHeld b := by
    rw [meets_of_number hf]
    exact Binary64.ofInt_eq_iff (Number.natAbs_lt_of_inRange ha) (Number.natAbs_lt_of_inRange hb)
  have hshared : f.SharesGroup g field ↔ nearestHeld a = nearestHeld b :=
    (sharesGroup_int_iff hf hg).trans hequal
  exact {
    equal := hequal
    shared := hshared
    equal_below := fun h => hequal.trans (nearestHeld_eq_iff_of_or h)
    shared_below := fun h => hshared.trans (nearestHeld_eq_iff_of_or h) }

/-- The two largest integers of 64 bits. -/
theorem comparesIntegers_last :
    let a : ℤ := 18446744073709551614
    let b : ℤ := 18446744073709551615
    (ownedByNumber (.int a)).get? Field.owner = some (.number (.int a)) ∧
      (ownedByNumber (.int b)).get? Field.owner = some (.number (.int b)) ∧
      (Number.int a).InRange ∧ (Number.int b).InRange ∧
      (ownedByNumber (.int a)).ComparesIntegers (ownedByNumber (.int b)) Field.owner a b := by
  intro a b
  have ha : (Number.int a).InRange := ⟨by decide, by decide⟩
  have hb : (Number.int b).InRange := ⟨by decide, by decide⟩
  exact ⟨rfl, rfl, ha, hb, comparesIntegers rfl rfl ha hb⟩

/-- Two owners with identifiers that differ in their last digit are one owner of two lines. -/
theorem sharesGroup_of_ne :
    let f := ownedByNumber (.int 9007199254740992)
    let g := ownedByNumber (.int 9007199254740993)
    (Number.int 9007199254740992).InRange ∧ (Number.int 9007199254740993).InRange ∧
      f.meets ⟨Field.owner, .equals (.number (.int 9007199254740993))⟩ ∧
      f.SharesGroup g Field.owner ∧
      (groupCounts [f, g] Field.owner).entries = [("9007199254740992", 2)] ∧
      leadingGroup? [f, g] Field.owner = some ("9007199254740992", 2) := by
  intro f g
  have hequal : f.meets ⟨Field.owner, .equals (.number (.int 9007199254740993))⟩ := by
    decide +kernel
  exact ⟨⟨by decide, by decide⟩, ⟨by decide, by decide⟩, hequal,
    (sharesGroup_int_iff rfl rfl).2 hequal, by decide +kernel, by decide +kernel⟩

end Feature

end Gridlines
