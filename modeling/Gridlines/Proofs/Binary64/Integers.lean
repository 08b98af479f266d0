import Gridlines.Proofs.Binary64.Rounding

/-!
# Integers as binary64 numbers

An integer is rounded to 53 binary digits, with zeros after them.  Up to `2 ^ 53` that is the
integer itself, and an integer below `2 ^ 53` is what no other is rounded to.  From there on
neighbours are rounded to the same number.

* `rankUnits_nearestRank` : the magnitude that a quotient is rounded to.
* `nearestRank_lt_magnitudes` : it is finite for quotients of the usual sizes.
* `nearestHeld` : an integer with 53 binary digits.
* `Binary64.ofInt_eq_iff` : integers of 64 bits are one number if they are rounded alike.
-/

namespace Gridlines

/-! ### The magnitude of a quotient -/

theorem roundDiv_le (n d : ℕ) : roundDiv n d ≤ n / d + 1 := by
  unfold roundDiv
  dsimp only
  split <;> omega

/-- The magnitude of a spacing, counted in it from its first one on. -/
theorem rankUnits_spacing {s q : ℕ} (hq : q ≤ 2 * Finite.binade) (hs : s = 0 ∨ Finite.binade ≤ q) :
    rankUnits (s * Finite.binade + q) = q * 2 ^ s := by
  have hB := binade_pos
  rcases Nat.lt_or_ge q Finite.binade with hlt | hge
  · obtain rfl : s = 0 := hs.resolve_right (Nat.not_le.2 hlt)
    rw [Nat.zero_mul, Nat.zero_add, Nat.pow_zero, Nat.mul_one, rankUnits_of_lt hlt]
  rcases Nat.lt_or_ge q (2 * Finite.binade) with hlt | hge'
  · have hrank : s * Finite.binade + q = (s + 1) * Finite.binade + (q - Finite.binade) := by
      rw [Nat.add_mul, Nat.one_mul]
      omega
    rw [hrank, rankUnits_add s _ (by omega), Nat.add_sub_cancel' hge]
  · -- the next spacing starts here
    obtain rfl : q = 2 * Finite.binade := Nat.le_antisymm hq hge'
    have hrank : s * Finite.binade + 2 * Finite.binade = (s + 1 + 1) * Finite.binade + 0 := by
      ring
    rw [hrank, rankUnits_add (s + 1) 0 hB]
    ring

/-- A number in its spacing has at most 53 digits, -/
theorem lt_spacing (n : ℕ) : n < 2 * Finite.binade * 2 ^ (Nat.log2 n - 52) := by
  have hB : Finite.binade = 2 ^ 52 := rfl
  refine Nat.lt_log2_self.trans_le ?_
  rw [hB, ← Nat.pow_succ', ← Nat.pow_add]
  exact Nat.pow_le_pow_right Nat.two_pos (by omega)

/-- and no fewer unless the spacing is the smallest one. -/
theorem spacing_le {n : ℕ} (h : 0 < Nat.log2 n - 52) :
    Finite.binade * 2 ^ (Nat.log2 n - 52) ≤ n := by
  have hB : Finite.binade = 2 ^ 52 := rfl
  have hne : n ≠ 0 := by
    rintro rfl
    rw [Nat.log2_zero] at h
    omega
  rw [hB, ← Nat.pow_add, Nat.add_sub_cancel' (by omega)]
  exact Nat.log2_self_le hne

/-- The magnitude nearest to a quotient is the quotient rounded in its spacing. -/
theorem rankUnits_nearestRank (num den : ℕ) :
    rankUnits (nearestRank num den) =
      roundDiv (num <<< 1074) (den <<< (Nat.log2 (num <<< 1074 / den) - 52)) *
        2 ^ (Nat.log2 (num <<< 1074 / den) - 52) := by
  unfold nearestRank
  dsimp only
  generalize num <<< 1074 = n
  have hquotient : ∀ s, n / (den <<< s) = n / den / 2 ^ s := by
    intro s
    rw [Nat.shiftLeft_eq, Nat.div_div_eq_div_mul]
  refine rankUnits_spacing ((roundDiv_le _ _).trans ?_) ?_
  · rw [hquotient, Nat.succ_le_iff, Nat.div_lt_iff_lt_mul (Nat.two_pow_pos _)]
    exact lt_spacing (n / den)
  · rcases Nat.eq_zero_or_pos (Nat.log2 (n / den) - 52) with h0 | hpos
    · exact .inl h0
    · right
      refine le_trans ?_ (div_le_roundDiv _ _)
      rw [hquotient, Nat.le_div_iff_mul_le (Nat.two_pow_pos _)]
      exact spacing_le hpos

/-- Rounding does not double a quotient, but for the last unit. -/
theorem rankUnits_nearestRank_le (num den : ℕ) :
    rankUnits (nearestRank num den) ≤ 2 * (num <<< 1074 / den) + 1 := by
  rw [rankUnits_nearestRank]
  generalize num <<< 1074 = n
  obtain ⟨s, hs⟩ : ∃ s, Nat.log2 (n / den) - 52 = s := ⟨_, rfl⟩
  have hspacing : 2 ^ s ≤ n / den + 1 := by
    rcases Nat.eq_zero_or_pos (n / den) with h0 | hpos
    · rw [h0, Nat.log2_zero] at hs
      rw [← hs]
      exact Nat.le_add_left 1 _
    · calc 2 ^ s ≤ 2 ^ Nat.log2 (n / den) := Nat.pow_le_pow_right Nat.two_pos (by omega)
        _ ≤ n / den := Nat.log2_self_le hpos.ne'
        _ ≤ n / den + 1 := Nat.le_succ _
  rw [hs]
  calc roundDiv n (den <<< s) * 2 ^ s
      ≤ (n / (den <<< s) + 1) * 2 ^ s := Nat.mul_le_mul_right _ (roundDiv_le _ _)
    _ = n / den / 2 ^ s * 2 ^ s + 2 ^ s := by
        rw [Nat.shiftLeft_eq, ← Nat.div_div_eq_div_mul, Nat.add_mul, Nat.one_mul]
    _ ≤ n / den + (n / den + 1) := Nat.add_le_add (Nat.div_mul_le_self _ _) hspacing
    _ = 2 * (n / den) + 1 := by ring

/-- Quotients below `2 ^ 200` are far from the infinities. -/
theorem nearestRank_lt_magnitudes {num den : ℕ} (h : num < 2 ^ 200 * den) :
    nearestRank num den < Finite.magnitudes := by
  have hquotient : ∀ k, num <<< k / den < 2 ^ (200 + k) := by
    intro k
    rw [Nat.shiftLeft_eq, Nat.pow_add]
    refine Nat.div_lt_of_lt_mul ?_
    rw [← Nat.mul_assoc, Nat.mul_comm den]
    exact Nat.mul_lt_mul_of_pos_right h (Nat.two_pow_pos k)
  have hstart : ∀ e, rankUnits ((e + 1) * Finite.binade + 0) = 2 ^ (52 + e) := by
    intro e
    rw [rankUnits_add e 0 binade_pos, Nat.pow_add]
    rfl
  have hunits : ∀ e k, 201 + k = 52 + e → ∀ u, u ≤ 2 * (num <<< k / den) + 1 →
      u < rankUnits ((e + 1) * Finite.binade + 0) := by
    intro e k he u hu
    have hk := hquotient k
    have hdouble : 2 ^ (201 + k) = 2 ^ (200 + k) * 2 := by
      rw [← Nat.pow_succ]
      exact congrArg (2 ^ ·) (Nat.add_right_comm 200 1 k)
    rw [hstart, ← he, hdouble]
    omega
  have hrank := hunits 1223 1074 rfl _ (rankUnits_nearestRank_le num den)
  calc nearestRank num den < (1223 + 1) * Finite.binade := rankUnits_strictMono.lt_iff_lt.1 hrank
    _ < 2047 * Finite.binade := Nat.mul_lt_mul_of_pos_right (by decide) binade_pos

/-! ### Natural numbers -/

/-- The natural number nearest to `n` of those with 53 binary digits and zeros after them; the one
whose last digit is even if two are equally near. -/
def nearestHeldNat (n : ℕ) : ℕ :=
  let s := Nat.log2 n - 52
  roundDiv n (2 ^ s) * 2 ^ s

theorem log2_mul_pow {n : ℕ} (hpos : 0 < n) (k : ℕ) : Nat.log2 (n * 2 ^ k) = Nat.log2 n + k := by
  refine (Nat.log2_eq_iff (Nat.mul_ne_zero hpos.ne' (Nat.two_pow_pos k).ne')).2 ⟨?_, ?_⟩
  · rw [Nat.pow_add]
    exact Nat.mul_le_mul_right _ (Nat.log2_self_le hpos.ne')
  · rw [Nat.add_right_comm, Nat.pow_add]
    exact Nat.mul_lt_mul_of_pos_right Nat.lt_log2_self (Nat.two_pow_pos k)

/-- Zeros after the digits change nothing. -/
theorem nearestHeldNat_shiftLeft (n k : ℕ) :
    nearestHeldNat (n <<< k) = nearestHeldNat n * 2 ^ k := by
  rw [Nat.shiftLeft_eq]
  rcases Nat.eq_zero_or_pos n with rfl | hpos
  · simp [nearestHeldNat, roundDiv]
  rw [nearestHeldNat, nearestHeldNat, log2_mul_pow hpos]
  rcases Nat.le_total 52 (Nat.log2 n) with hle | hle
  · -- the spacing has the zeros too
    obtain ⟨j, hj⟩ := Nat.exists_eq_add_of_le hle
    have hj' : Nat.log2 n + k - 52 = j + k := by omega
    rw [hj', hj, Nat.add_sub_cancel_left, Nat.pow_add, roundDiv_mul_right (Nat.two_pow_pos k),
      Nat.mul_assoc]
  · -- nothing is rounded, as the spacing is one of the zeros at most
    rw [Nat.sub_eq_zero_of_le hle, Nat.pow_zero, roundDiv_one, Nat.mul_one]
    obtain ⟨i, hi⟩ : ∃ i, Nat.log2 n + k - 52 = i := ⟨_, rfl⟩
    obtain ⟨j, rfl⟩ : ∃ j, k = j + i := ⟨k - i, by omega⟩
    have hexact := roundDiv_mul_right (Nat.two_pow_pos i) (n * 2 ^ j) 1
    rw [Nat.one_mul, roundDiv_one, Nat.mul_assoc, ← Nat.pow_add] at hexact
    rw [hi, hexact, Nat.mul_assoc, ← Nat.pow_add]

theorem rankUnits_nearestRank_nat (n : ℕ) :
    rankUnits (nearestRank n 1) = nearestHeldNat n * 2 ^ 1074 := by
  have hheld : ∀ m, roundDiv m (1 <<< (Nat.log2 (m / 1) - 52)) * 2 ^ (Nat.log2 (m / 1) - 52) =
      nearestHeldNat m := by
    intro m
    rw [Nat.div_one, Nat.shiftLeft_eq, Nat.one_mul, nearestHeldNat]
  rw [rankUnits_nearestRank, hheld, nearestHeldNat_shiftLeft]

theorem nearestHeldNat_of_le {n : ℕ} (h : n ≤ 2 ^ 53) : nearestHeldNat n = n := by
  rcases h.lt_or_eq with hlt | rfl
  · rcases Nat.eq_zero_or_pos n with rfl | hpos
    · decide
    · have hlog : Nat.log2 n < 53 := (Nat.log2_lt hpos.ne').2 hlt
      rw [nearestHeldNat, Nat.sub_eq_zero_of_le (by omega)]
      simp [roundDiv_one]
  · decide

/-- Rounding does not go below `2 ^ 53` from above. -/
theorem le_nearestHeldNat {n : ℕ} (h : 2 ^ 53 ≤ n) : 2 ^ 53 ≤ nearestHeldNat n := by
  have hne : n ≠ 0 := by omega
  have hlog : 53 ≤ Nat.log2 n := (Nat.le_log2 hne).2 h
  obtain ⟨s, hs⟩ : ∃ s, Nat.log2 n = s + 52 := ⟨Nat.log2 n - 52, by omega⟩
  have hquotient : 2 ^ 52 ≤ n / 2 ^ s := by
    rw [Nat.le_div_iff_mul_le (Nat.two_pow_pos s), ← Nat.pow_add, Nat.add_comm, ← hs]
    exact Nat.log2_self_le hne
  rw [nearestHeldNat, hs, Nat.add_sub_cancel]
  calc 2 ^ 53 ≤ 2 ^ 52 * 2 ^ s := by
        rw [← Nat.pow_add]
        exact Nat.pow_le_pow_right Nat.two_pos (by omega)
    _ ≤ roundDiv n (2 ^ s) * 2 ^ s :=
        Nat.mul_le_mul_right _ (hquotient.trans (div_le_roundDiv _ _))

/-! ### Integers -/

/-- The integer with 53 binary digits and zeros after them that is nearest to `n`; the one whose
last digit is even if two are equally near. -/
def nearestHeld (n : ℤ) : ℤ := n.sign * nearestHeldNat n.natAbs

theorem nearestHeld_of_le {n : ℤ} (h : n.natAbs ≤ 2 ^ 53) : nearestHeld n = n := by
  rw [nearestHeld, nearestHeldNat_of_le h, Int.sign_mul_natAbs]

/-- Below `2 ^ 53` nothing is rounded, and nothing is rounded to there from above. -/
theorem nearestHeld_eq_iff {m n : ℤ} (h : m.natAbs < 2 ^ 53) :
    nearestHeld m = nearestHeld n ↔ m = n := by
  refine ⟨fun heq => ?_, congrArg nearestHeld⟩
  rcases Nat.lt_or_ge n.natAbs (2 ^ 53) with hlt | hge
  · rwa [nearestHeld_of_le h.le, nearestHeld_of_le hlt.le] at heq
  · have habs := congrArg Int.natAbs heq
    have hle := le_nearestHeldNat hge
    have hne : n ≠ 0 := by
      rintro rfl
      exact absurd hge (by decide)
    rw [nearestHeld_of_le h.le, nearestHeld, Int.natAbs_mul, Int.natAbs_sign_of_ne_zero hne,
      Nat.one_mul, Int.natAbs_natCast] at habs
    omega

namespace Binary64

/-- An integer of 64 bits is the finite number of the integer that is held for it. -/
theorem exists_ofInt {n : ℤ} (h : n.natAbs < 2 ^ 64) :
    ∃ x : Finite, ofInt n = finite x ∧ x.signedUnits = nearestHeld n * 2 ^ 1074 := by
  have hlt : nearestRank n.natAbs 1 < Finite.magnitudes := nearestRank_lt_magnitudes (by omega)
  refine ⟨⟨decide (n < 0), nearestRank n.natAbs 1, hlt⟩, ?_, ?_⟩
  · rw [ofInt, ofRatio, ofRank, dif_pos hlt]
  · have hsigned : ∀ u : ℕ, (if decide (n < 0) then -((nearestHeldNat n.natAbs * u : ℕ) : ℤ)
        else (nearestHeldNat n.natAbs * u : ℕ)) = nearestHeld n * u := by
      intro u
      rw [nearestHeld]
      rcases lt_trichotomy n 0 with hneg | rfl | hpos
      · simp [hneg, Int.sign_eq_neg_one_of_neg hneg]
      · simp [nearestHeldNat_of_le]
      · simp [hpos.le, Int.sign_eq_one_of_pos hpos]
    rw [Finite.signedUnits, Finite.units_eq, rankUnits_nearestRank_nat]
    exact (hsigned _).trans (congrArg _ (Nat.cast_pow 2 1074))

/-- Integers of 64 bits are equal as binary64 numbers if the same integer is held for them. -/
theorem ofInt_eq_iff {m n : ℤ} (hm : m.natAbs < 2 ^ 64) (hn : n.natAbs < 2 ^ 64) :
    (ofInt m).eq (ofInt n) ↔ nearestHeld m = nearestHeld n := by
  obtain ⟨x, hx, hxunits⟩ := exists_ofInt hm
  obtain ⟨y, hy, hyunits⟩ := exists_ofInt hn
  have hpos : (2 ^ 1074 : ℤ) ≠ 0 := pow_ne_zero _ two_ne_zero
  rw [hx, hy, eq, Finite.eq, beq_iff_eq, ← Finite.signedUnits_eq_iff, hxunits, hyunits]
  exact Int.mul_eq_mul_right_iff hpos

end Binary64

end Gridlines
