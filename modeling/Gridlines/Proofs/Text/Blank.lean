import Gridlines.Text.Basic
import Mathlib.Data.List.DropRight
import Mathlib.Tactic.Common

/-!
# Text without the white space at its ends

Only white space is removed, and only at the ends, so what is left of a text that has white space
nowhere else is known.

* `exists_trimBlank` : what is removed.
* `trimBlank_surround` : white space around a text.
* `trimBlank_eq_nil_iff` : nothing is left of white space alone.
-/

namespace Gridlines

theorem trimBlank_eq (cs : List Char) :
    trimBlank cs = (cs.dropWhile isBlank).rdropWhile isBlank := rfl

theorem exists_trimBlank (cs : List Char) :
    ∃ before after, cs = before ++ trimBlank cs ++ after ∧ (∀ c ∈ before, isBlank c) ∧
      ∀ c ∈ after, isBlank c := by
  refine ⟨cs.takeWhile isBlank, (cs.dropWhile isBlank).rtakeWhile isBlank, ?_,
    fun c hc => List.mem_takeWhile_imp hc, fun c hc => List.mem_rtakeWhile_imp hc⟩
  rw [trimBlank_eq, List.append_assoc, List.rdropWhile_append_rtakeWhile,
    List.takeWhile_append_dropWhile]

theorem trimBlank_eq_nil_iff {cs : List Char} : trimBlank cs = [] ↔ ∀ c ∈ cs, isBlank c := by
  constructor
  · intro h
    obtain ⟨before, after, hcs, hbefore, hafter⟩ := exists_trimBlank cs
    rw [h, List.append_nil] at hcs
    rw [hcs]
    exact List.forall_mem_append.2 ⟨hbefore, hafter⟩
  · intro h
    rw [trimBlank_eq, List.dropWhile_eq_nil_iff.2 h, List.rdropWhile_nil]

theorem trimBlank_surround {before cs after : List Char} (hbefore : ∀ c ∈ before, isBlank c)
    (hafter : ∀ c ∈ after, isBlank c) (hcs : ∀ c ∈ cs, ¬isBlank c) :
    trimBlank (before ++ cs ++ after) = cs := by
  have hdrop : ∀ ds es : List Char, (∀ c ∈ ds, isBlank c) → (∀ c ∈ es, ¬isBlank c) → es ≠ [] →
      ∀ rest, (ds ++ (es ++ rest)).dropWhile isBlank = es ++ rest := by
    intro ds es hds hes hne rest
    obtain ⟨c, es, rfl⟩ := List.exists_cons_of_ne_nil hne
    rw [List.dropWhile_append_of_pos hds, List.cons_append, List.dropWhile_cons_of_neg]
    exact hes c List.mem_cons_self
  rcases eq_or_ne cs [] with rfl | hne
  · rw [trimBlank_eq_nil_iff, List.append_nil]
    exact List.forall_mem_append.2 ⟨hbefore, hafter⟩
  · have hback := hdrop after.reverse cs.reverse (by simpa using hafter) (by simpa using hcs)
      (by simpa using hne) []
    rw [List.append_nil, ← List.reverse_append] at hback
    rw [trimBlank, List.append_assoc, hdrop before cs hbefore hcs hne, hback, List.reverse_reverse]

/-! ### Characters that are not blank -/

theorem not_isBlank_of_isDigit {c : Char} (h : c.isDigit) : ¬isBlank c := by
  have hcode := Char.isDigit_iff_toNat.1 h
  have hzero : '0'.toNat = 48 := rfl
  have hnine : '9'.toNat = 57 := rfl
  intro hblank
  simp [isBlank, blankRanges, CodeRanges.holds] at hblank
  omega

end Gridlines
