import Gridlines.Binary64.Round
import Mathlib.Algebra.Group.Even
import Mathlib.Algebra.Order.Field.Rat
import Mathlib.Data.Rat.Cast.Order
import Mathlib.Tactic.FieldSimp
import Mathlib.Tactic.Linarith

/-!
# The integer nearest to a number

Rounding to an integer divides the magnitude and compares the remainder with half of the divisor.
The outcome is described without the division: no integer is nearer, and if another one is as near
it is odd.

* `IsNearestInteger` : an integer nearest to a rational, the even one of two.
* `IsNearestInteger.unique` : there is only one.
* `Finite.isNearestInteger_roundInt` : finite numbers are rounded to it.
-/

namespace Gridlines

/-- `n` is the integer nearest to `q`, and the even one if there are two. -/
structure IsNearestInteger (n : ℤ) (q : ℚ) : Prop where
  near (m : ℤ) : |q - n| ≤ |q - m|
  even {m : ℤ} : m ≠ n → |q - n| = |q - m| → Even n

namespace IsNearestInteger

variable {q : ℚ} {m n : ℤ}

/-- An integer within a half is nearest. -/
theorem of_half (hhalf : |q - n| ≤ 1 / 2) (heven : |q - n| = 1 / 2 → Even n) :
    IsNearestInteger n q := by
  have hother : ∀ m : ℤ, m ≠ n → 1 ≤ |q - n| + |q - m| := by
    intro m hne
    have hdist : (1 : ℤ) ≤ |n - m| := Int.one_le_abs (sub_ne_zero.2 hne.symm)
    calc (1 : ℚ) ≤ |((n : ℚ) - m)| := by exact_mod_cast hdist
      _ = |(q - m) - (q - n)| := by rw [sub_sub_sub_cancel_left]
      _ ≤ |q - m| + |q - n| := abs_sub _ _
      _ = |q - n| + |q - m| := add_comm _ _
  constructor
  · intro m
    rcases eq_or_ne m n with rfl | hne
    · exact le_refl _
    · linarith [hother m hne]
  · intro m hne hsame
    exact heven (by linarith [hother m hne])

theorem neg (h : IsNearestInteger n q) : IsNearestInteger (-n) (-q) := by
  have habs : ∀ m : ℤ, |-q - (m : ℤ)| = |q - ((-m : ℤ) : ℚ)| := by
    intro m
    rw [← abs_neg, Int.cast_neg, neg_sub, sub_neg_eq_add, sub_neg_eq_add, add_comm]
  constructor
  · intro m
    rw [habs, habs, neg_neg]
    exact h.near (-m)
  · intro m hne hsame
    rw [habs, habs, neg_neg] at hsame
    exact (h.even (fun hm => hne (by omega)) hsame).neg

/-- Of two integers that are equally near the one between them is nearer, if both are even. -/
theorem unique (hm : IsNearestInteger m q) (hn : IsNearestInteger n q) : m = n := by
  by_contra hne
  have hsame : |q - m| = |q - n| := le_antisymm (hm.near n) (hn.near m)
  obtain ⟨i, rfl⟩ := hm.even (Ne.symm hne) hsame
  obtain ⟨j, rfl⟩ := hn.even hne hsame.symm
  push_cast at hsame
  rcases abs_eq_abs.1 hsame with heq | heq
  · have hij : (i : ℚ) = j := by linarith
    exact hne (by rw [Int.cast_inj.1 hij])
  · have hmiddle : q - ((i + j : ℤ) : ℚ) = 0 := by
      push_cast
      linarith
    have hzero := hm.near (i + j)
    rw [hmiddle, abs_zero] at hzero
    have hq := abs_nonpos_iff.1 hzero
    push_cast at hq
    have hij : (i : ℚ) = j := by linarith
    exact hne (by rw [Int.cast_inj.1 hij])

end IsNearestInteger

/-- A quotient is rounded to its nearest integer. -/
theorem isNearestInteger_roundDiv (n : ℕ) {d : ℕ} (hd : 0 < d) :
    IsNearestInteger (roundDiv n d) ((n : ℚ) / d) := by
  obtain ⟨f, hf⟩ : ∃ f : ℚ, f = (n % d : ℕ) / (d : ℚ) := ⟨_, rfl⟩
  have hd' : (0 : ℚ) < d := Nat.cast_pos.2 hd
  have hquotient : (n : ℚ) / d = (n / d : ℕ) + f := by
    have hn : (n : ℚ) = d * (n / d : ℕ) + (n % d : ℕ) := by
      exact_mod_cast (Nat.div_add_mod n d).symm
    rw [hf]
    field_simp
    linarith
  have hhalf : f ≤ 1 / 2 ↔ 2 * (n % d) ≤ d := by
    rw [hf, div_le_div_iff₀ hd' two_pos, ← Nat.cast_le (α := ℚ)]
    push_cast
    constructor <;> intro h <;> linarith
  have hhalf' : 1 / 2 ≤ f ↔ d ≤ 2 * (n % d) := by
    rw [hf, div_le_div_iff₀ two_pos hd', ← Nat.cast_le (α := ℚ)]
    push_cast
    constructor <;> intro h <;> linarith
  have hnonneg : 0 ≤ f := by
    rw [hf]
    exact div_nonneg (Nat.cast_nonneg _) hd'.le
  have hlt : f < 1 := by
    rw [hf, div_lt_iff₀ hd', one_mul]
    exact_mod_cast Nat.mod_lt n hd
  rw [hquotient]
  unfold roundDiv
  dsimp only
  split
  case isTrue h =>
    have hle : f ≤ 1 / 2 := hhalf.2 (by omega)
    have hdist : |((n / d : ℕ) : ℚ) + f - ((n / d : ℕ) : ℤ)| = f := by
      rw [Int.cast_natCast, add_sub_cancel_left, abs_of_nonneg hnonneg]
    refine .of_half (hdist.trans_le hle) fun htie => ?_
    have hge : d ≤ 2 * (n % d) := hhalf'.1 (by linarith)
    have heven : n / d % 2 = 0 := by omega
    exact (Int.even_coe_nat _).2 (Nat.even_iff.2 heven)
  case isFalse h =>
    have hge : 1 / 2 ≤ f := hhalf'.2 (by omega)
    have hdist : |((n / d : ℕ) : ℚ) + f - ((n / d + 1 : ℕ) : ℤ)| = 1 - f := by
      rw [Int.cast_natCast, Nat.cast_add, Nat.cast_one, add_sub_add_left_eq_sub, abs_sub_comm,
        abs_of_nonneg (by linarith)]
    refine .of_half (by linarith) fun htie => ?_
    have hle : 2 * (n % d) ≤ d := hhalf.1 (by linarith)
    have hodd : (n / d + 1) % 2 = 0 := by omega
    exact (Int.even_coe_nat _).2 (Nat.even_iff.2 hodd)

namespace Finite

/-- The value of a finite number. -/
def toRat (x : Finite) : ℚ := x.signedUnits / 2 ^ 1074

theorem toRat_eq (x : Finite) :
    x.toRat = if x.negative then -((x.units : ℚ) / (1 <<< 1074 : ℕ))
      else (x.units : ℚ) / (1 <<< 1074 : ℕ) := by
  have hpow : ∀ k : ℕ, ((1 <<< k : ℕ) : ℚ) = 2 ^ k := by
    intro k
    rw [Nat.one_shiftLeft, Nat.cast_pow, Nat.cast_ofNat]
  rw [toRat, signedUnits, hpow]
  split_ifs
  · rw [Int.cast_neg, Int.cast_natCast, neg_div]
  · rw [Int.cast_natCast]

/-- Numbers are rounded to their nearest integers. -/
theorem isNearestInteger_roundInt (x : Finite) : IsNearestInteger x.roundInt x.toRat := by
  have hunits := isNearestInteger_roundDiv x.units (Nat.one_shiftLeft 1074 ▸ Nat.two_pow_pos 1074)
  rw [toRat_eq, roundInt]
  split_ifs
  · exact hunits.neg
  · exact hunits

end Finite

end Gridlines
