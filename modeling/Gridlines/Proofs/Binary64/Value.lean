import Gridlines.Binary64.Basic
import Mathlib

/-!
# Exact values of binary64 numbers

Ranks stand for magnitudes in increasing order (`rankUnits_strictMono`), so the comparisons of
ranks in `Binary64.eq` and `Binary64.le` are comparisons of exact values: `Binary64.eq_iff` and
`Binary64.le_iff`.
-/

namespace Gridlines

/-- The magnitude with a rank, in units of `2 ^ -1074`. -/
def rankUnits (n : ℕ) : ℕ :=
  (if n < Finite.binade then n else Finite.binade + n % Finite.binade) <<<
    (n / Finite.binade - 1)

theorem binade_pos : 0 < Finite.binade := by decide

theorem rankUnits_of_lt {n : ℕ} (h : n < Finite.binade) : rankUnits n = n := by
  simp [rankUnits, h, Nat.div_eq_of_lt h]

theorem rankUnits_add (e m : ℕ) (h : m < Finite.binade) :
    rankUnits ((e + 1) * Finite.binade + m) = (Finite.binade + m) * 2 ^ e := by
  have hB := binade_pos
  have hge : ¬(e + 1) * Finite.binade + m < Finite.binade := by
    rw [Nat.add_mul]; omega
  have hdiv : ((e + 1) * Finite.binade + m) / Finite.binade = e + 1 := by
    rw [Nat.add_comm, Nat.add_mul_div_right _ _ hB, Nat.div_eq_of_lt h, Nat.zero_add]
  have hmod : ((e + 1) * Finite.binade + m) % Finite.binade = m := by
    rw [Nat.add_comm, Nat.add_mul_mod_self_right, Nat.mod_eq_of_lt h]
  simp [rankUnits, hge, hdiv, hmod, Nat.shiftLeft_eq]

/-- Ranks after the first binade lie in a later one. -/
theorem exists_binade {n : ℕ} (h : Finite.binade ≤ n) :
    ∃ e m, m < Finite.binade ∧ n = (e + 1) * Finite.binade + m := by
  refine ⟨n / Finite.binade - 1, n % Finite.binade, Nat.mod_lt _ binade_pos, ?_⟩
  have h1 : 1 ≤ n / Finite.binade := (Nat.one_le_div_iff binade_pos).2 h
  rw [Nat.sub_add_cancel h1, Nat.div_add_mod']

/-- A greater rank stands for a greater magnitude. -/
theorem rankUnits_strictMono : StrictMono rankUnits := by
  refine strictMono_nat_of_lt_succ fun n => ?_
  have hB := binade_pos
  rcases lt_trichotomy (n + 1) Finite.binade with h | h | h
  · rw [rankUnits_of_lt h, rankUnits_of_lt (by omega)]
    exact n.lt_succ_self
  · have h0 : n + 1 = (0 + 1) * Finite.binade + 0 := by omega
    rw [rankUnits_of_lt (by omega), h0, rankUnits_add 0 0 hB]
    omega
  · -- both ranks lie in the binades after the first
    obtain ⟨e, m, hm, hn⟩ := exists_binade (n := n) (by omega)
    by_cases hm' : m + 1 < Finite.binade
    · rw [hn, Nat.add_assoc, rankUnits_add e m hm, rankUnits_add e (m + 1) hm']
      exact Nat.mul_lt_mul_of_pos_right (by omega) (Nat.two_pow_pos e)
    · have hs : (e + 1) * Finite.binade + m + 1 = (e + 1 + 1) * Finite.binade + 0 := by
        rw [Nat.add_mul (e + 1)]; omega
      rw [hn, hs, rankUnits_add e m hm, rankUnits_add (e + 1) 0 hB, Nat.pow_succ, Nat.add_zero]
      calc (Finite.binade + m) * 2 ^ e
          < (Finite.binade * 2) * 2 ^ e :=
            Nat.mul_lt_mul_of_pos_right (by omega) (Nat.two_pow_pos e)
        _ = Finite.binade * (2 ^ e * 2) := by ring

namespace Finite

theorem units_eq (x : Finite) : x.units = rankUnits x.rank := rfl

theorem units_le_iff {x y : Finite} : x.units ≤ y.units ↔ x.rank ≤ y.rank := by
  rw [units_eq, units_eq, rankUnits_strictMono.le_iff_le]

theorem units_eq_zero_iff {x : Finite} : x.units = 0 ↔ x.rank = 0 := by
  have h0 : rankUnits 0 = 0 := rankUnits_of_lt binade_pos
  rw [units_eq, ← rankUnits_strictMono.injective.eq_iff (a := x.rank), h0]

/-- Ranks with signs are ordered as the values are. -/
theorem signedUnits_le_iff {x y : Finite} :
    x.signedUnits ≤ y.signedUnits ↔ x.signedRank ≤ y.signedRank := by
  have hle := @units_le_iff x y
  have hge := @units_le_iff y x
  have hx := @units_eq_zero_iff x
  have hy := @units_eq_zero_iff y
  unfold signedUnits signedRank
  cases x.negative <;> cases y.negative <;> simp only [Bool.false_eq_true, ↓reduceIte] <;> omega

theorem signedUnits_eq_iff {x y : Finite} :
    x.signedUnits = y.signedUnits ↔ x.signedRank = y.signedRank := by
  rw [le_antisymm_iff, le_antisymm_iff, signedUnits_le_iff, signedUnits_le_iff]

end Finite

namespace Binary64

/-- The exact value in units of `2 ^ -1074`, with the infinities below and above all others; `nan`
has none. -/
def value? : Binary64 → Option (WithBot (WithTop ℤ))
  | finite x => some ((x.signedUnits : WithTop ℤ) : WithBot (WithTop ℤ))
  | infinite negative => some (if negative then ⊥ else ⊤)
  | nan => none

/-- Numbers are equal if they have the same value. -/
theorem eq_iff {x y : Binary64} : x.eq y ↔ ∃ v, x.value? = some v ∧ y.value? = some v := by
  cases x with
  | finite x =>
    rcases y with y | t | _
    · have h : x.eq y = true ↔ y.signedUnits = x.signedUnits := by
        rw [Finite.signedUnits_eq_iff, Finite.eq, beq_iff_eq, eq_comm]
      simpa [eq, value?] using h
    · cases t <;> simp [eq, value?]
    · simp [eq, value?]
  | infinite s =>
    rcases y with y | t | _
    · cases s <;> simp [eq, value?]
    · cases s <;> cases t <;> simp [eq, value?]
    · simp [eq, value?]
  | nan => simp [eq, value?]

/-- A number is at most another if its value is. -/
theorem le_iff {x y : Binary64} :
    x.le y ↔ ∃ v w, x.value? = some v ∧ y.value? = some w ∧ v ≤ w := by
  cases x with
  | finite x =>
    rcases y with y | t | _
    · simp [le, value?, Finite.signedUnits_le_iff]
    · cases t <;> simp [le, value?]
    · simp [le, value?]
  | infinite s =>
    rcases y with y | t | _
    · cases s <;> simp [le, value?]
    · cases s <;> cases t <;> simp [le, value?]
    · simp [le, value?]
  | nan => simp [le, value?]

end Binary64

end Gridlines
