import Gridlines.Decimal.Style
import Gridlines.Json.Printer
import Mathlib.Tactic.Common

/-!
# Reading integers with separators

The commas of an integer stand between its digits and nowhere else: without them the digits are
left, and nothing but digits, commas and a leading sign is written.

* `withoutCommas_groupThousands` : the decimal digits are read back.
* `mem_groupThousands` : the characters of the text.
-/

namespace Gridlines

/-- The text without its commas. -/
def withoutCommas (cs : List Char) : List Char := cs.filter (· ≠ ',')

@[simp] theorem withoutCommas_comma (cs : List Char) :
    withoutCommas (',' :: cs) = withoutCommas cs := rfl

theorem withoutCommas_cons {c : Char} (h : c ≠ ',') (cs : List Char) :
    withoutCommas (c :: cs) = c :: withoutCommas cs := by
  rw [withoutCommas, List.filter_cons_of_pos (by simpa using h), ← withoutCommas]

theorem withoutCommas_separate {cs : List Char} (h : ∀ c ∈ cs, c ≠ ',') :
    withoutCommas (separate cs) = cs := by
  induction cs with
  | nil => rfl
  | cons c cs ih =>
    obtain ⟨hc, hcs⟩ := List.forall_mem_cons.1 h
    rw [separate]
    split_ifs <;> simp [withoutCommas_cons hc, ih hcs]

theorem mem_separate {c : Char} {cs : List Char} (h : c ∈ separate cs) : c = ',' ∨ c ∈ cs := by
  induction cs with
  | nil => exact .inr h
  | cons d cs ih =>
    rw [separate] at h
    split_ifs at h <;> simp only [List.mem_cons] at h ⊢
    · rcases h with rfl | rfl | h
      · exact .inr (.inl rfl)
      · exact .inl rfl
      · exact (ih h).imp_right .inr
    · rcases h with rfl | h
      · exact .inr (.inl rfl)
      · exact (ih h).imp_right .inr

theorem ne_comma_of_isDigit {c : Char} (h : c.isDigit) : c ≠ ',' := by
  rintro rfl
  exact absurd h (by decide)

/-- Without its commas the text of an integer is its decimal numeral. -/
theorem withoutCommas_groupThousands (n : Int) :
    withoutCommas (groupThousands n).toList = Json.integerText n := by
  have hdigits : withoutCommas (separate (Nat.toDigits 10 n.natAbs)) = Nat.toDigits 10 n.natAbs :=
    withoutCommas_separate fun _ hc =>
      ne_comma_of_isDigit (Nat.isDigit_of_mem_toDigits (by decide) (by decide) hc)
  simp only [groupThousands, Json.integerText, String.toList_ofList]
  split_ifs
  · rw [withoutCommas_cons (by decide), hdigits]
  · exact hdigits

theorem mem_groupThousands {n : Int} {c : Char} (h : c ∈ (groupThousands n).toList) :
    c = '-' ∨ c = ',' ∨ c.isDigit := by
  have hdigits : c ∈ separate (Nat.toDigits 10 n.natAbs) → c = ',' ∨ c.isDigit := fun h =>
    (mem_separate h).imp_right (Nat.isDigit_of_mem_toDigits (by decide) (by decide))
  simp only [groupThousands, String.toList_ofList] at h
  split_ifs at h
  · rcases List.mem_cons.1 h with rfl | h
    · exact .inl rfl
    · exact .inr (hdigits h)
  · exact .inr (hdigits h)

end Gridlines
