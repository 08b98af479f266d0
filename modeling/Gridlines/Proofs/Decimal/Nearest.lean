import Gridlines.Decimal.Basic
import Gridlines.Proofs.Binary64.Rounding

/-!
# Numbers nearest to decimals

The number nearest to a decimal depends on its value alone: zeros after its digits change nothing
if the unit is as much smaller.  The bounds that are tested before a decimal is rounded decide
nothing that rounding would not.

* `Decimal.nearestRank_scale` : digits with zeros after them.
* `Decimal.toBinary64_eq` : rounding a decimal, without the bounds.
-/

namespace Gridlines

namespace Decimal

theorem ten_pow_pos (k : ℕ) : 0 < 10 ^ k := Nat.pow_pos (Nat.succ_pos 9)

/-- A decimal as a quotient over any power of ten that is large enough. -/
theorem nearestRank_eq (d : Decimal) {k : ℕ} (h : 0 ≤ d.exponent + k) :
    d.nearestRank =
      Gridlines.nearestRank (d.digits * 10 ^ (d.exponent + k).toNat) (10 ^ k) := by
  unfold nearestRank
  split
  · have hk : (d.exponent + k).toNat = d.exponent.toNat + k := by omega
    have hmul := nearestRank_mul_right (ten_pow_pos k) (d.digits * 10 ^ d.exponent.toNat) 1
    rw [Nat.one_mul, Nat.mul_assoc, ← Nat.pow_add, ← hk] at hmul
    exact hmul.symm
  · have hk : k = (-d.exponent).toNat + (d.exponent + k).toNat := by omega
    have hmul := nearestRank_mul_right (ten_pow_pos (d.exponent + k).toNat) d.digits
      (10 ^ (-d.exponent).toNat)
    rw [← Nat.pow_add, ← hk] at hmul
    exact hmul.symm

/-- Zeros after the digits change nothing if the unit is as much smaller. -/
theorem nearestRank_scale (digits k : ℕ) (e : ℤ) :
    nearestRank ⟨digits * 10 ^ k, e - k⟩ = nearestRank ⟨digits, e⟩ := by
  have hlow : 0 ≤ e - k + (k + e.natAbs : ℕ) := by omega
  have hhigh : 0 ≤ e + (k + e.natAbs : ℕ) := by omega
  have hexp : (e + (k + e.natAbs : ℕ)).toNat = k + (e - k + (k + e.natAbs : ℕ)).toNat := by omega
  rw [nearestRank_eq _ hlow, nearestRank_eq _ hhigh]
  dsimp only
  rw [hexp, Nat.mul_assoc, ← Nat.pow_add]

/-! ### The bounds -/

theorem nearestRank_of_digits_eq_zero {d : Decimal} (h : d.digits = 0) : d.nearestRank = 0 := by
  unfold nearestRank
  split
  · rw [h, Nat.zero_mul]
    exact nearestRank_eq_zero (by decide)
  · rw [h]
    refine nearestRank_eq_zero ?_
    rw [Nat.zero_shiftLeft]
    exact ten_pow_pos _

/-- From `10 ^ 309` on there are no finite numbers. -/
theorem magnitudes_le_of_le_exponent {d : Decimal} (h : d.digits ≠ 0) (he : 309 ≤ d.exponent) :
    Finite.magnitudes ≤ d.nearestRank := by
  have hbound : ∀ k, 309 ≤ k → 2 ^ 1024 * 1 ≤ d.digits * 10 ^ k := by
    intro k hk
    calc 2 ^ 1024 * 1 ≤ 10 ^ 309 := by decide +kernel
      _ ≤ 10 ^ k := pow_le_pow_right₀ (by decide) hk
      _ ≤ d.digits * 10 ^ k := Nat.le_mul_of_pos_left _ (Nat.pos_of_ne_zero h)
  unfold nearestRank
  rw [if_pos (by omega)]
  exact magnitudes_le_nearestRank Nat.one_pos (hbound _ (by omega))

/-- Ten is more than `2 ^ 3`, so small units leave nothing of the digits. -/
theorem nearestRank_eq_zero_of_le {d : Decimal}
    (h : (Nat.log2 d.digits : ℤ) + 1077 ≤ 3 * -d.exponent) : d.nearestRank = 0 := by
  unfold nearestRank
  rw [if_neg (by omega)]
  refine nearestRank_eq_zero ?_
  obtain ⟨j, hj⟩ : ∃ j, (-d.exponent).toNat = j := ⟨_, rfl⟩
  have hdigits : d.digits < 2 ^ (Nat.log2 d.digits + 1) := Nat.lt_log2_self
  have hdouble : ∀ n k : ℕ, 2 * (n * 2 ^ k) = n * 2 ^ (k + 1) := by
    intro n k
    rw [Nat.pow_succ]
    ring
  rw [hj, Nat.shiftLeft_eq]
  calc 2 * (d.digits * 2 ^ 1074) = d.digits * 2 ^ (1074 + 1) := hdouble ..
    _ < 2 ^ (Nat.log2 d.digits + 1) * 2 ^ (1074 + 1) :=
        Nat.mul_lt_mul_of_pos_right hdigits (Nat.two_pow_pos _)
    _ = 2 ^ (Nat.log2 d.digits + 1 + (1074 + 1)) := (pow_add ..).symm
    _ ≤ 2 ^ (3 * j) := Nat.pow_le_pow_right Nat.two_pos (by omega)
    _ = 8 ^ j := Nat.pow_mul ..
    _ ≤ 10 ^ j := Nat.pow_le_pow_left (by omega) j

/-- The bounds only save work. -/
theorem toBinary64_eq (negative : Bool) (d : Decimal) :
    d.toBinary64 negative = .ofRank negative d.nearestRank := by
  unfold toBinary64
  split_ifs with hzero hlarge hsmall
  · rw [nearestRank_of_digits_eq_zero hzero]
  · have hle := magnitudes_le_of_le_exponent hzero hlarge
    rw [Binary64.ofRank, dif_neg (Nat.not_lt.2 hle)]
  · rw [nearestRank_eq_zero_of_le hsmall]
  · rfl

end Decimal

end Gridlines
