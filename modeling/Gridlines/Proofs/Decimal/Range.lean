import Gridlines.Proofs.Binary64.Integers
import Gridlines.Proofs.Decimal.Nearest

/-!
# Decimals beyond the range

Above the largest finite number the next magnitude would be `2 ^ 1024`.  Half of the spacing before
it a number is as near to the one as to the other, and the even significand is that of `2 ^ 1024`.
So the numbers that are rounded to an infinity start with that one, `2 ^ 1024 - 2 ^ 970`.

* `nearestRank_lt_magnitudes_iff` : the quotients that are rounded to finite numbers.
* `Decimal.exists_finite_iff` : the decimals that are rounded to finite numbers.
-/

namespace Gridlines

/-- A quotient is rounded to less than an even number up to a half before that number. -/
theorem roundDiv_lt_iff {n d m : ℕ} (hd : 0 < d) (hm : 0 < m) :
    roundDiv n d < 2 * m ↔ 2 * n < (4 * m - 1) * d := by
  have hdiv := Nat.div_add_mod n d
  have hr := Nat.mod_lt n hd
  unfold roundDiv
  dsimp only
  generalize n / d = q at *
  generalize n % d = r at *
  rw [Nat.mul_comm] at hdiv
  have hcompare : q + 2 ≤ 2 * m ∨ q + 1 = 2 * m ∨ 2 * m ≤ q := by omega
  rcases hcompare with hlow | heq | hhigh
  · have hbound : (2 * q + 2) * d ≤ (4 * m - 1) * d := Nat.mul_le_mul_right d (by omega)
    rw [Nat.add_mul, Nat.mul_assoc] at hbound
    split <;> omega
  · -- the number before the even one is odd, so a half goes up
    have hodd : 4 * m - 1 = 2 * q + 1 := by omega
    rw [hodd, Nat.add_mul, Nat.mul_assoc]
    split <;> omega
  · have hbound : (4 * m - 1) * d ≤ (2 * q) * d := Nat.mul_le_mul_right d (by omega)
    rw [Nat.mul_assoc] at hbound
    split <;> omega

/-- The same for a quotient that is rounded in its own spacing, and for the end of a binade. -/
theorem spacing_add_roundDiv_lt_iff (n : ℕ) {den : ℕ} (hden : 0 < den) (t : ℕ) :
    let s := Nat.log2 (n / den) - 52
    s * Finite.binade + roundDiv n (den <<< s) < (t + 3) * Finite.binade ↔
      n < (4 * Finite.binade - 1) * (den * 2 ^ t) := by
  intro s
  have hB := binade_pos
  have hunit : ∀ e, 0 < den * 2 ^ e := fun e => Nat.mul_pos hden (Nat.two_pow_pos e)
  have hlt : n < 2 * Finite.binade * (den * 2 ^ s) := by
    have hspacing := lt_spacing (n / den)
    rw [Nat.div_lt_iff_lt_mul hden, Nat.mul_assoc, Nat.mul_comm _ den] at hspacing
    exact hspacing
  rw [Nat.shiftLeft_eq]
  rcases Nat.lt_trichotomy s (t + 1) with hlow | heq | hhigh
  · have hround : roundDiv n (den * 2 ^ s) ≤ 2 * Finite.binade :=
      (roundDiv_le _ _).trans ((Nat.div_lt_iff_lt_mul (hunit s)).2 hlt)
    have hrank : s * Finite.binade ≤ t * Finite.binade := Nat.mul_le_mul_right _ (by omega)
    have hbound : 2 * Finite.binade * (den * 2 ^ s) ≤
        (4 * Finite.binade - 1) * (den * 2 ^ t) := by
      refine Nat.mul_le_mul (by omega) (Nat.mul_le_mul_left den ?_)
      exact Nat.pow_le_pow_right Nat.two_pos (by omega)
    rw [Nat.add_mul]
    refine iff_of_true ?_ (hlt.trans_le hbound)
    omega
  · -- in the last binade the quotient is rounded to less than its end
    have hround := roundDiv_lt_iff (n := n) (hunit s) hB
    have hdouble : (4 * Finite.binade - 1) * (den * 2 ^ s) =
        2 * ((4 * Finite.binade - 1) * (den * 2 ^ t)) := by
      rw [heq, Nat.pow_succ]
      ring
    have hrank : s * Finite.binade = t * Finite.binade + Finite.binade := by
      rw [heq, Nat.add_mul, Nat.one_mul]
    rw [hdouble, Nat.mul_lt_mul_left Nat.two_pos] at hround
    rw [← hround, hrank, Nat.add_mul]
    constructor <;> intro h <;> omega
  · have hspacing : Finite.binade * (den * 2 ^ s) ≤ n := by
      have hle : Finite.binade * 2 ^ s ≤ n / den := spacing_le (by omega)
      rw [Nat.le_div_iff_mul_le hden, Nat.mul_assoc, Nat.mul_comm _ den] at hle
      exact hle
    have hround : Finite.binade ≤ roundDiv n (den * 2 ^ s) :=
      ((Nat.le_div_iff_mul_le (hunit s)).2 hspacing).trans (div_le_roundDiv _ _)
    have hrank : (t + 2) * Finite.binade ≤ s * Finite.binade := Nat.mul_le_mul_right _ hhigh
    have hbound : (4 * Finite.binade - 1) * (den * 2 ^ t) ≤ Finite.binade * (den * 2 ^ s) := by
      calc (4 * Finite.binade - 1) * (den * 2 ^ t) ≤ 4 * Finite.binade * (den * 2 ^ t) :=
            Nat.mul_le_mul_right _ (Nat.sub_le ..)
        _ = Finite.binade * (den * 2 ^ (t + 2)) := by ring
        _ ≤ Finite.binade * (den * 2 ^ s) := by
            refine Nat.mul_le_mul_left _ (Nat.mul_le_mul_left den ?_)
            exact Nat.pow_le_pow_right Nat.two_pos hhigh
    rw [Nat.add_mul] at hrank ⊢
    refine iff_of_false ?_ ?_ <;> omega

/-- Quotients are rounded to finite numbers below `2 ^ 1024 - 2 ^ 970`. -/
theorem nearestRank_lt_magnitudes_iff (num : ℕ) {den : ℕ} (hden : 0 < den) :
    nearestRank num den < Finite.magnitudes ↔
      num < (4 * Finite.binade - 1) * 2 ^ 970 * den := by
  have hunits : ∀ j k, num * 2 ^ k < (4 * Finite.binade - 1) * (den * 2 ^ (j + k)) ↔
      num < (4 * Finite.binade - 1) * 2 ^ j * den := by
    intro j k
    have hmul : (4 * Finite.binade - 1) * (den * 2 ^ (j + k)) =
        (4 * Finite.binade - 1) * 2 ^ j * den * 2 ^ k := by
      rw [Nat.pow_add]
      ring
    rw [hmul, Nat.mul_lt_mul_right (Nat.two_pow_pos k)]
  rw [← hunits 970 1074, ← Nat.shiftLeft_eq]
  exact spacing_add_roundDiv_lt_iff (num <<< 1074) hden (970 + 1074)

namespace Decimal

/-- The value of a decimal. -/
def value (d : Decimal) : ℚ := d.digits * 10 ^ d.exponent

variable {d : Decimal}

/-- The bound as a rational number. -/
theorem range_eq (j : ℕ) :
    ((4 * Finite.binade - 1) * 2 ^ j : ℕ) = (2 ^ (j + 54) - 2 ^ j : ℚ) := by
  have hB : 4 * Finite.binade = 2 ^ 54 := rfl
  have hone : 1 ≤ 4 * Finite.binade := by decide
  rw [Nat.cast_mul, Nat.cast_sub hone, hB, pow_add]
  push_cast
  ring

theorem cast_digits {k : ℕ} (h : 0 ≤ d.exponent + k) :
    ((d.digits * 10 ^ (d.exponent + k).toNat : ℕ) : ℚ) = d.value * (10 ^ k : ℕ) := by
  have hpow : (10 : ℚ) ^ (d.exponent + k).toNat = 10 ^ d.exponent * 10 ^ k := by
    rw [← zpow_natCast, Int.toNat_of_nonneg h, zpow_add₀ (by norm_num), zpow_natCast]
  rw [value, Nat.cast_mul, Nat.cast_pow, Nat.cast_pow, Nat.cast_ofNat, hpow, mul_assoc]

/-- **A decimal is rounded to a finite number below `2 ^ 1024 - 2 ^ 970`**, and to an infinity from
there on. -/
theorem exists_finite_iff (negative : Bool) (d : Decimal) :
    (∃ x, d.toBinary64 negative = .finite x) ↔ d.value < 2 ^ 1024 - 2 ^ 970 := by
  have hrank : (∃ x, d.toBinary64 negative = .finite x) ↔ d.nearestRank < Finite.magnitudes := by
    rw [toBinary64_eq, Binary64.ofRank]
    split_ifs with h <;> simp [h]
  have hexp : 0 ≤ d.exponent + d.exponent.natAbs := by omega
  have hpos : (0 : ℚ) < (10 ^ d.exponent.natAbs : ℕ) := by exact_mod_cast ten_pow_pos _
  rw [hrank, nearestRank_eq d hexp, nearestRank_lt_magnitudes_iff _ (ten_pow_pos _),
    ← Nat.cast_lt (α := ℚ), cast_digits hexp, Nat.cast_mul, range_eq, mul_lt_mul_iff_left₀ hpos]

end Decimal

end Gridlines
