import Gridlines.Binary64.Round
import Gridlines.Proofs.Binary64.Value

/-!
# Exact, large and small quotients

Which magnitude is nearest to a quotient depends on the quotient alone, not on its numerator and
denominator.  A quotient that is a magnitude is rounded to itself; one of `2 ^ 1024` or more is
beyond all finite magnitudes, and one below half of the least magnitude is rounded to zero.

* `nearestRank_mul_right` : a common factor changes nothing.
* `nearestRank_of_units` : magnitudes are rounded to themselves.
* `magnitudes_le_nearestRank`, `nearestRank_eq_zero` : the two ends.
-/

namespace Gridlines

/-! ### Rounding quotients -/

theorem roundDiv_mul_right {k : ℕ} (hk : 0 < k) (n d : ℕ) :
    roundDiv (n * k) (d * k) = roundDiv n d := by
  have hlt : 2 * (n % d * k) < d * k ↔ 2 * (n % d) < d := by
    rw [← Nat.mul_assoc]
    exact Nat.mul_lt_mul_right hk
  have heq : 2 * (n % d * k) = d * k ↔ 2 * (n % d) = d := by
    rw [← Nat.mul_assoc]
    exact Nat.mul_right_cancel_iff hk
  simp only [roundDiv, Nat.mul_div_mul_right _ _ hk, Nat.mul_mod_mul_right, hlt, heq]

theorem roundDiv_one (n : ℕ) : roundDiv n 1 = n := by
  simp [roundDiv, Nat.mod_one]

theorem div_le_roundDiv (n d : ℕ) : n / d ≤ roundDiv n d := by
  unfold roundDiv
  dsimp only
  split <;> omega

theorem roundDiv_eq_zero {n d : ℕ} (h : 2 * n < d) : roundDiv n d = 0 := by
  have hn : n < d := by omega
  simp [roundDiv, Nat.mod_eq_of_lt hn, Nat.div_eq_of_lt hn, h]

/-- Only the quotient counts. -/
theorem nearestRank_mul_right {k : ℕ} (hk : 0 < k) (num den : ℕ) :
    nearestRank (num * k) (den * k) = nearestRank num den := by
  have hshift : ∀ a s : ℕ, (a * k) <<< s = (a <<< s) * k := by
    intro a s
    rw [Nat.shiftLeft_eq, Nat.shiftLeft_eq, Nat.mul_right_comm]
  simp only [nearestRank, hshift, Nat.mul_div_mul_right _ _ hk, roundDiv_mul_right hk]

/-! ### Magnitudes -/

/-- The spacing of a magnitude, found from its units. -/
theorem log2_rankUnits (n : ℕ) : Nat.log2 (rankUnits n) - 52 = n / Finite.binade - 1 := by
  have hB : Finite.binade = 2 ^ 52 := rfl
  by_cases h : n < Finite.binade
  · rw [rankUnits_of_lt h, Nat.div_eq_of_lt h]
    by_cases h0 : n = 0
    · subst h0
      decide
    · have hlog : Nat.log2 n < 52 := (Nat.log2_lt h0).2 (hB ▸ h)
      omega
  · obtain ⟨e, m, hm, rfl⟩ := exists_binade (Nat.not_lt.1 h)
    have hdiv : ((e + 1) * Finite.binade + m) / Finite.binade = e + 1 := by
      rw [Nat.add_comm, Nat.add_mul_div_right _ _ binade_pos, Nat.div_eq_of_lt hm, Nat.zero_add]
    have hlog : Nat.log2 ((Finite.binade + m) * 2 ^ e) = 52 + e := by
      have hpos : 0 < Finite.binade + m := by omega
      refine (Nat.log2_eq_iff (Nat.mul_ne_zero hpos.ne' (Nat.two_pow_pos e).ne')).2 ⟨?_, ?_⟩
      · rw [Nat.pow_add, ← hB]
        exact Nat.mul_le_mul_right _ (by omega)
      · have hsplit : 2 ^ (52 + e + 1) = (2 * Finite.binade) * 2 ^ e := by
          rw [hB]
          ring
        rw [hsplit]
        exact Nat.mul_lt_mul_of_pos_right (by omega) (Nat.two_pow_pos e)
    rw [rankUnits_add e m hm, hlog, hdiv]
    omega

/-- A magnitude in units of its own spacing, counted from where that spacing starts. -/
theorem roundDiv_rankUnits (n : ℕ) :
    (n / Finite.binade - 1) * Finite.binade +
      roundDiv (rankUnits n) (2 ^ (n / Finite.binade - 1)) = n := by
  by_cases h : n < Finite.binade
  · rw [rankUnits_of_lt h, Nat.div_eq_of_lt h, Nat.zero_sub, Nat.zero_mul, Nat.zero_add,
      Nat.pow_zero, roundDiv_one]
  · obtain ⟨e, m, hm, rfl⟩ := exists_binade (Nat.not_lt.1 h)
    have hdiv : ((e + 1) * Finite.binade + m) / Finite.binade = e + 1 := by
      rw [Nat.add_comm, Nat.add_mul_div_right _ _ binade_pos, Nat.div_eq_of_lt hm, Nat.zero_add]
    have hround := roundDiv_mul_right (Nat.two_pow_pos e) (Finite.binade + m) 1
    rw [Nat.one_mul] at hround
    rw [hdiv, Nat.add_sub_cancel, rankUnits_add e m hm, hround, roundDiv_one]
    ring

/-- A quotient that is a magnitude is rounded to itself. -/
theorem nearestRank_of_units {num den n : ℕ} (hden : 0 < den)
    (h : num * 2 ^ 1074 = rankUnits n * den) : nearestRank num den = n := by
  have hdiv : rankUnits n * den / den = rankUnits n := Nat.mul_div_cancel _ hden
  have hround := roundDiv_mul_right hden (rankUnits n) (2 ^ (n / Finite.binade - 1))
  simp only [nearestRank, Nat.shiftLeft_eq, h, hdiv, log2_rankUnits]
  rw [Nat.mul_comm den, hround, roundDiv_rankUnits]

theorem Finite.nearestRank_eq_rank {x : Finite} {num den : ℕ} (hden : 0 < den)
    (h : num * 2 ^ 1074 = x.units * den) : nearestRank num den = x.rank :=
  nearestRank_of_units hden h

/-! ### The two ends -/

/-- A quotient of `s + 53` binary digits, counted in the least magnitude, has `s + 1` binades below
it. -/
theorem binades_le_nearestRank {num den s : ℕ} (h : Nat.log2 (num <<< 1074 / den) = s + 52) :
    (s + 1) * Finite.binade ≤ nearestRank num den := by
  unfold nearestRank
  dsimp only
  generalize num <<< 1074 = n at h ⊢
  have hne : n / den ≠ 0 := by
    intro h0
    rw [h0, Nat.log2_zero] at h
    omega
  have hpow : Finite.binade * 2 ^ s = 2 ^ Nat.log2 (n / den) := by
    rw [h, Nat.pow_add, Nat.mul_comm]
    rfl
  have hdigits : Finite.binade ≤ n / den / 2 ^ s := by
    rw [Nat.le_div_iff_mul_le (Nat.two_pow_pos s), hpow]
    exact Nat.log2_self_le hne
  have hround := div_le_roundDiv n (den <<< s)
  rw [Nat.shiftLeft_eq, ← Nat.div_div_eq_div_mul, ← Nat.shiftLeft_eq] at hround
  rw [h, Nat.add_sub_cancel, Nat.add_mul, Nat.one_mul]
  exact Nat.add_le_add_left (hdigits.trans hround) _

theorem le_log2_of_le {k n : ℕ} (h : 2 ^ k ≤ n) : k ≤ Nat.log2 n :=
  (Nat.le_log2 ((Nat.two_pow_pos k).trans_le h).ne').2 h

/-- From `2 ^ 1024` on there are no finite magnitudes. -/
theorem magnitudes_le_nearestRank {num den : ℕ} (hden : 0 < den) (h : 2 ^ 1024 * den ≤ num) :
    Finite.magnitudes ≤ nearestRank num den := by
  have hq : 2 ^ 2098 ≤ num <<< 1074 / den := by
    rw [Nat.le_div_iff_mul_le hden, Nat.shiftLeft_eq]
    calc 2 ^ 2098 * den = 2 ^ 1024 * den * 2 ^ 1074 := by
          rw [Nat.mul_right_comm, ← Nat.pow_add]
      _ ≤ num * 2 ^ 1074 := Nat.mul_le_mul_right _ h
  have hlog := le_log2_of_le hq
  obtain ⟨s, hs⟩ : ∃ s, Nat.log2 (num <<< 1074 / den) = s + 52 :=
    ⟨Nat.log2 (num <<< 1074 / den) - 52, by omega⟩
  calc Finite.magnitudes = 2047 * Finite.binade := rfl
    _ ≤ (s + 1) * Finite.binade := Nat.mul_le_mul_right _ (by omega)
    _ ≤ nearestRank num den := binades_le_nearestRank hs

/-- No whole number but zero is rounded to zero. -/
theorem nearestRank_pos {n : ℕ} (h : 0 < n) : 0 < nearestRank n 1 := by
  have hq : ∀ k, 2 ^ k ≤ n <<< k / 1 := by
    intro k
    rw [Nat.div_one, Nat.shiftLeft_eq]
    exact Nat.le_mul_of_pos_left _ h
  have hlog := le_log2_of_le (hq 1074)
  obtain ⟨s, hs⟩ : ∃ s, Nat.log2 (n <<< 1074 / 1) = s + 52 :=
    ⟨Nat.log2 (n <<< 1074 / 1) - 52, by omega⟩
  exact (Nat.mul_pos s.succ_pos binade_pos).trans_le (binades_le_nearestRank hs)

/-- Below half of the least magnitude there is only zero. -/
theorem nearestRank_eq_zero {num den : ℕ} (h : 2 * num <<< 1074 < den) :
    nearestRank num den = 0 := by
  unfold nearestRank
  dsimp only
  generalize num <<< 1074 = n at h ⊢
  have hdiv : n / den = 0 := Nat.div_eq_of_lt (by omega)
  rw [hdiv, Nat.log2_zero, Nat.zero_sub, Nat.zero_mul, Nat.zero_add, Nat.shiftLeft_zero]
  exact roundDiv_eq_zero h

end Gridlines
