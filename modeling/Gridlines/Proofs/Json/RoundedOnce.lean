import Gridlines.Proofs.Json.Literals

/-!
# Literals that are rounded once

The reader of a JSON text collects digits as long as 64 bits hold them, takes the nearest binary64
number, and multiplies it by a power of ten or divides it by one.  Each of these steps may round.
If only one of them does the outcome is the number nearest to the decimal that is written.

* `NumberText.RoundsOnce` : the literals for which one step rounds at most.
* `NumberText.exists_value_of_roundsOnce` : these are read as the number nearest to their decimal.
-/

namespace Gridlines

theorem Binary64.finite?_ofRank {negative : Bool} {rank : ℕ} (h : rank < Finite.magnitudes) :
    (ofRank negative rank).finite? = some ⟨negative, rank, h⟩ := by
  rw [ofRank, dif_pos h, finite?]

/-- Rounding twice is rounding once. -/
theorem nearestRank_nearestHeldNat (n : ℕ) : nearestRank (nearestHeldNat n) 1 = nearestRank n 1 := by
  refine nearestRank_of_units Nat.one_pos ?_
  rw [rankUnits_nearestRank_nat, Nat.mul_one]

namespace Json.NumberText

/-! ### Collecting digits -/

theorem le_foldl_digits (ds : List ℕ) (n : ℕ) : n ≤ ds.foldl (fun n d => 10 * n + d) n := by
  induction ds generalizing n with
  | nil => exact Nat.le_refl n
  | cons d ds ih =>
    have hstep : n ≤ 10 * n + d := by omega
    exact hstep.trans (ih _)

theorem collect_of_lt {ds : List ℕ} {n : ℕ} (h : ds.foldl (fun n d => 10 * n + d) n < 2 ^ 64) :
    collect n ds = (ds.foldl (fun n d => 10 * n + d) n, []) := by
  induction ds generalizing n with
  | nil => rfl
  | cons d ds ih =>
    have hstep : 10 * n + d < 1 <<< 64 := (le_foldl_digits ds _).trans_lt h
    rw [collect, if_pos hstep, ih h]
    rfl

variable {t : NumberText}

/-- The magnitude of a literal all of whose digits are collected. -/
theorem magnitude_eq (h : t.decimal.digits < 2 ^ 64) :
    t.magnitude =
      if 1 <<< 31 ≤ t.exponentValue.natAbs then
        if t.decimal.digits ≠ 0 ∧ 0 < t.exponentValue then .error .numberOutOfRange else .ok .zero
      else scaled (((Binary64.ofInt t.decimal.digits).finite?).getD .zero) t.decimal.exponent := by
  have hdigits : t.decimal.digits =
      (t.places.getD []).foldl (fun n d => 10 * n + d) (digitsNat t.whole) := List.foldl_append ..
  have hwhole : collect 0 t.whole = (digitsNat t.whole, []) :=
    collect_of_lt ((le_foldl_digits _ _).trans_lt (hdigits ▸ h))
  have hplaces : collect (digitsNat t.whole) (t.places.getD []) = (t.decimal.digits, []) := by
    rw [collect_of_lt (hdigits ▸ h), ← hdigits]
  have hexp : t.exponentValue + ([] : List ℕ).length -
      (((t.places.getD []).length - ([] : List ℕ).length : ℕ) : ℤ) = t.decimal.exponent := by
    simp [decimal]
  unfold magnitude
  rw [hwhole]
  dsimp only
  rw [hplaces]
  dsimp only
  rw [hexp]

/-! ### Powers of ten -/

/-- Powers of ten have few digits. -/
theorem nearestHeldNat_ten_pow {k : ℕ} (h : k ≤ 22) : nearestHeldNat (10 ^ k) = 10 ^ k := by
  have hall : ∀ k < 23, nearestHeldNat (10 ^ k) = 10 ^ k := by decide +kernel
  exact hall k (by omega)

theorem powerOfTen_units {k : ℕ} (h : k ≤ 22) :
    (powerOfTen k).negative = false ∧ (powerOfTen k).units = 10 ^ k * 2 ^ 1074 := by
  have hrank : Decimal.nearestRank ⟨1, k⟩ = nearestRank (10 ^ k) 1 := by
    rw [Decimal.nearestRank, if_pos (Int.natCast_nonneg k), Int.toNat_natCast, Nat.one_mul]
    rfl
  have hlt : nearestRank (10 ^ k) 1 < Finite.magnitudes := by
    refine nearestRank_lt_magnitudes ?_
    calc 10 ^ k ≤ 10 ^ 22 := Nat.pow_le_pow_right (by decide) h
      _ < 2 ^ 200 * 1 := by decide
  have hfinite : powerOfTen k = ⟨false, nearestRank (10 ^ k) 1, hlt⟩ := by
    rw [powerOfTen, Decimal.toBinary64_eq, hrank, Binary64.finite?_ofRank hlt, Option.getD_some]
  rw [hfinite]
  refine ⟨rfl, ?_⟩
  rw [Finite.units_eq, rankUnits_nearestRank_nat, nearestHeldNat_ten_pow h]

/-- A whole number times a power of ten, or divided by one, is rounded once. -/
theorem scaled_of_units {x : Finite} {u : ℕ} {e : ℤ} (hneg : x.negative = false)
    (hunits : x.units = u * 2 ^ 1074) (he : e.natAbs ≤ 22)
    (hlt : Decimal.nearestRank ⟨u, e⟩ < Finite.magnitudes) :
    scaled x e = .ok ⟨false, Decimal.nearestRank ⟨u, e⟩, hlt⟩ := by
  have hfactor : ∀ k j : ℕ,
      nearestRank (u * 2 ^ j * (10 ^ k * 2 ^ j)) (1 <<< (j + j)) = nearestRank (u * 10 ^ k) 1 := by
    intro k j
    have hmul := nearestRank_mul_right (Nat.two_pow_pos (j + j)) (u * 10 ^ k) 1
    rw [Nat.one_mul, Nat.pow_add] at hmul
    rw [Nat.one_shiftLeft, ← hmul, Nat.pow_add]
    congr 1
    ring
  have hquotient : ∀ k j : ℕ, nearestRank (u * 2 ^ j) (10 ^ k * 2 ^ j) = nearestRank u (10 ^ k) :=
    fun k j => nearestRank_mul_right (Nat.two_pow_pos j) u (10 ^ k)
  unfold scaled
  rw [if_neg (by omega)]
  split_ifs with hpos
  · obtain ⟨hneg', hunits'⟩ := powerOfTen_units (k := e.toNat) (by omega)
    have hrank : Decimal.nearestRank ⟨u, e⟩ = nearestRank (u * 10 ^ e.toNat) 1 := by
      rw [Decimal.nearestRank, if_pos hpos]
      rfl
    have hmul : x.mul (powerOfTen e.toNat) = .finite ⟨false, Decimal.nearestRank ⟨u, e⟩, hlt⟩ := by
      have hratio : nearestRank (x.units * (powerOfTen e.toNat).units) (1 <<< 2148) =
          Decimal.nearestRank ⟨u, e⟩ := by
        rw [hunits, hunits', hrank]
        exact hfactor e.toNat 1074
      rw [Finite.mul, hneg, hneg', Binary64.ofRatio, hratio, Binary64.ofRank, dif_pos hlt]
      rfl
    rw [hmul]
  · have hk : (e.natAbs - 1) % 308 + 1 = e.natAbs := by omega
    have hsteps : (e.natAbs - 1) / 308 = 0 := by omega
    obtain ⟨hneg', hunits'⟩ := powerOfTen_units he
    have hrank : Decimal.nearestRank ⟨u, e⟩ = nearestRank u (10 ^ e.natAbs) := by
      have hexp : (-e).toNat = e.natAbs := by omega
      rw [Decimal.nearestRank, if_neg hpos, hexp]
      rfl
    have hdiv : x.div (powerOfTen e.natAbs) = .finite ⟨false, Decimal.nearestRank ⟨u, e⟩, hlt⟩ := by
      have hratio : nearestRank x.units (powerOfTen e.natAbs).units =
          Decimal.nearestRank ⟨u, e⟩ := by
        rw [hunits, hunits', hrank]
        exact hquotient e.natAbs 1074
      rw [Finite.div, hneg, hneg', Binary64.ofRatio, hratio, Binary64.ofRank, dif_pos hlt]
      rfl
    dsimp only
    rw [hk, hsteps, shrink, divPower, hdiv]
    rfl

/-! ### Zero -/

theorem nearestRank_zero (den : ℕ) : nearestRank 0 den = 0 := by
  have hround : ∀ d, roundDiv 0 d = 0 := by
    intro d
    rcases Nat.eq_zero_or_pos d with rfl | hpos
    · rfl
    · exact roundDiv_eq_zero (by omega)
  rw [nearestRank, Nat.zero_shiftLeft, Nat.zero_div, Nat.log2_zero, hround]
  rfl

theorem powerOfTen_negative (k : ℕ) : (powerOfTen k).negative = false := by
  rw [powerOfTen, Decimal.toBinary64_eq, Binary64.ofRank]
  split <;> rfl

theorem zero_mul (y : Finite) (h : y.negative = false) : Finite.zero.mul y = .finite .zero := by
  have hunits : Finite.zero.units * y.units = 0 := Nat.zero_mul _
  rw [Finite.mul, h, hunits, Binary64.ofRatio, nearestRank_zero]
  rfl

theorem divPower_zero (k : ℕ) : divPower .zero k = .zero := by
  have hunits : Finite.zero.units = 0 := rfl
  rw [divPower, Finite.div, powerOfTen_negative, hunits, Binary64.ofRatio, nearestRank_zero]
  rfl

/-- Zero stays zero whatever the exponent. -/
theorem scaled_zero (e : ℤ) : scaled .zero e = .ok .zero := by
  unfold scaled
  split_ifs
  · rfl
  · exact absurd rfl ‹¬Finite.zero.isZero = true›
  · rw [zero_mul _ (powerOfTen_negative _)]
  · dsimp only
    cases (e.natAbs - 1) / 308 with
    | zero => rw [shrink, divPower_zero]
    | succ steps => rfl

/-! ### Literals that are rounded once -/

/-- The literals for which the reader rounds at most once. -/
inductive RoundsOnce (t : NumberText) : Prop
  /-- Zero is never rounded. -/
  | zero (h : t.decimal.digits = 0)
  /-- Without a power of ten only the digits are rounded. -/
  | whole (hdigits : t.decimal.digits < 2 ^ 64) (hexp : t.exponentValue.natAbs < 1 <<< 31)
    (h : t.decimal.exponent = 0)
  /-- If the digits and the power of ten are held as they are, only the product or the quotient is
  rounded. -/
  | scaled (hdigits : t.decimal.digits < 2 ^ 64) (hexp : t.exponentValue.natAbs < 1 <<< 31)
    (hheld : nearestHeldNat t.decimal.digits = t.decimal.digits)
    (h : t.decimal.exponent.natAbs ≤ 22)

/-- The first digits as they are rounded. -/
theorem exists_significand {m : ℕ} (h : m < 2 ^ 64) :
    ∃ x : Finite, ((Binary64.ofInt m).finite?).getD .zero = x ∧ x.negative = false ∧
      x.units = nearestHeldNat m * 2 ^ 1074 := by
  have hlt : nearestRank m 1 < Finite.magnitudes := nearestRank_lt_magnitudes (by omega)
  have hpos : decide ((m : ℤ) < 0) = false := by simp
  refine ⟨⟨false, nearestRank m 1, hlt⟩, ?_, rfl, ?_⟩
  · rw [Binary64.ofInt, Binary64.ofRatio, Int.natAbs_natCast, Binary64.finite?_ofRank hlt, hpos,
      Option.getD_some]
  · rw [Finite.units_eq, rankUnits_nearestRank_nat]

theorem nearestRank_whole (m : ℕ) : Decimal.nearestRank ⟨m, 0⟩ = nearestRank m 1 := by
  rw [Decimal.nearestRank, if_pos (Int.le_refl 0)]
  exact congrArg (nearestRank · 1) (Nat.mul_one m)

theorem exists_magnitude_of_roundsOnce (h : t.RoundsOnce) :
    ∃ x, t.magnitude = .ok x ∧ x.negative = false ∧ x.rank = t.decimal.nearestRank := by
  cases h with
  | zero h =>
    have hrank := Decimal.nearestRank_of_digits_eq_zero h
    refine ⟨.zero, ?_, rfl, hrank.symm⟩
    have hzero : ((Binary64.ofInt ((0 : ℕ) : ℤ)).finite?).getD .zero = Finite.zero := by
      decide +kernel
    rw [magnitude_eq (by omega), h, hzero, scaled_zero]
    simp
  | whole hdigits hexp h =>
    obtain ⟨x, hx, hneg, hunits⟩ := exists_significand hdigits
    have hrank : Decimal.nearestRank ⟨nearestHeldNat t.decimal.digits, 0⟩ =
        t.decimal.nearestRank := by
      obtain ⟨m, hm⟩ : ∃ m, t.decimal = ⟨m, 0⟩ := ⟨t.decimal.digits, by rw [← h]⟩
      rw [hm, nearestRank_whole, nearestRank_whole, nearestRank_nearestHeldNat]
    have hlt : Decimal.nearestRank ⟨nearestHeldNat t.decimal.digits, 0⟩ < Finite.magnitudes := by
      rw [nearestRank_whole, nearestRank_nearestHeldNat]
      exact nearestRank_lt_magnitudes (by omega)
    refine ⟨⟨false, _, hlt⟩, ?_, rfl, hrank⟩
    rw [magnitude_eq hdigits, if_neg (Nat.not_le.2 hexp), hx, h]
    exact scaled_of_units hneg hunits (by decide) hlt
  | scaled hdigits hexp hheld h =>
    obtain ⟨x, hx, hneg, hunits⟩ := exists_significand hdigits
    rw [hheld] at hunits
    have hlt : t.decimal.nearestRank < Finite.magnitudes := by
      unfold Decimal.nearestRank
      split_ifs with hpos
      · refine nearestRank_lt_magnitudes ?_
        calc t.decimal.digits * 10 ^ t.decimal.exponent.toNat
            ≤ 2 ^ 64 * 10 ^ 22 :=
              Nat.mul_le_mul hdigits.le (Nat.pow_le_pow_right (by decide) (by omega))
          _ < 2 ^ 200 * 1 := by decide
      · refine nearestRank_lt_magnitudes ?_
        calc t.decimal.digits < 2 ^ 64 := hdigits
          _ ≤ 2 ^ 200 := by decide
          _ ≤ 2 ^ 200 * 10 ^ (-t.decimal.exponent).toNat :=
            Nat.le_mul_of_pos_right _ (Decimal.ten_pow_pos _)
    refine ⟨⟨false, t.decimal.nearestRank, hlt⟩, ?_, rfl, rfl⟩
    rw [magnitude_eq hdigits, if_neg (Nat.not_le.2 hexp), hx]
    exact scaled_of_units hneg hunits h hlt

/-- A literal is read as an integer if it is written as one, or else as its magnitude. -/
theorem value_cases (t : NumberText) :
    t.value = t.magnitude.map (fun x => .float (if t.negative then x.neg else x)) ∨
      t.places = none ∧ t.exponent = none ∧ digitsNat t.whole < 2 ^ 64 ∧
        (t.negative = true ∧ digitsNat t.whole ≠ 0 ∧ t.value = .ok (.int (-digitsNat t.whole)) ∨
          t.negative = false ∧ t.value = .ok (.int (digitsNat t.whole))) := by
  unfold value
  dsimp only
  generalize t.magnitude.map (fun x => Number.float (if t.negative then x.neg else x)) = float
  split_ifs with hparts hminus hrange hrange
  · exact .inl rfl
  · simp only [not_or, Bool.not_eq_true, Option.isSome_eq_false_iff, Option.isNone_iff_eq_none]
      at hparts
    have hlt : digitsNat t.whole < 2 ^ 64 := hrange.2.trans_lt (by decide)
    exact .inr ⟨hparts.1, hparts.2, hlt, .inl ⟨hminus, hrange.1, rfl⟩⟩
  · exact .inl rfl
  · simp only [not_or, Bool.not_eq_true, Option.isSome_eq_false_iff, Option.isNone_iff_eq_none]
      at hparts
    rw [Nat.one_shiftLeft] at hrange
    exact .inr ⟨hparts.1, hparts.2, hrange, .inr ⟨Bool.eq_false_of_not_eq_true hminus, rfl⟩⟩
  · exact .inl rfl

/-- What is read is finite: integers that 64 bits hold, and numbers in range. -/
theorem exists_finite_of_value {n : Number} (h : t.value = .ok n) :
    ∃ x, n.toBinary64 = .finite x := by
  rcases value_cases t with hvalue | ⟨-, -, hlt, ⟨-, -, hvalue⟩ | ⟨-, hvalue⟩⟩
  · rw [hvalue] at h
    obtain ⟨x, -, hn⟩ := map_eq_ok h
    cases hn
    exact ⟨_, rfl⟩
  all_goals
    rw [hvalue] at h
    cases h
    exact (Binary64.exists_ofInt (by simpa using hlt)).imp fun x hx => hx.1

/-- **Literals that are rounded once are read as the number nearest to their decimal.** -/
theorem exists_value_of_roundsOnce (h : t.RoundsOnce) :
    ∃ n, t.value = .ok n ∧ n.toBinary64 = t.decimal.toBinary64 t.negative := by
  rcases value_cases t with hvalue | ⟨hplaces, hexp, -, hvalue⟩
  · obtain ⟨x, hx, hneg, hrank⟩ := exists_magnitude_of_roundsOnce h
    have hsigned : (if t.negative then x.neg else x) = ⟨t.negative, x.rank, x.rank_lt⟩ := by
      obtain ⟨s, r, hr⟩ := x
      obtain rfl : s = false := hneg
      cases t.negative <;> rfl
    refine ⟨.float (if t.negative then x.neg else x), ?_, ?_⟩
    · rw [hvalue, hx]
      rfl
    · rw [hsigned, Decimal.toBinary64_eq, ← hrank, Binary64.ofRank, dif_pos x.rank_lt]
      rfl
  · have hdecimal : t.decimal = ⟨digitsNat t.whole, 0⟩ := by
      simp [decimal, exponentValue, hplaces, hexp]
    rw [Decimal.toBinary64_eq, hdecimal, nearestRank_whole]
    rcases hvalue with ⟨hminus, hne, hvalue⟩ | ⟨hplus, hvalue⟩
    · refine ⟨_, hvalue, ?_⟩
      have hnegative : decide (-(digitsNat t.whole : ℤ) < 0) = true := by
        simpa using Nat.pos_of_ne_zero hne
      rw [Number.toBinary64, Binary64.ofInt, Binary64.ofRatio, hnegative, hminus, Int.natAbs_neg,
        Int.natAbs_natCast]
    · refine ⟨_, hvalue, ?_⟩
      have hnonneg : decide ((digitsNat t.whole : ℤ) < 0) = false := by simp
      rw [Number.toBinary64, Binary64.ofInt, Binary64.ofRatio, hnonneg, hplus, Int.natAbs_natCast]

end Json.NumberText

end Gridlines
