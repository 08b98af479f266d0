import Gridlines.Json.Scan
import Gridlines.Proofs.Binary64.Integers
import Gridlines.Proofs.Decimal.ReadBack
import Gridlines.Proofs.Json.Numbers
import Gridlines.Proofs.Text.Blank

/-!
# Number literals

A number of a JSON text is also a decimal in the plain grammar of text cells, with the same digits
and the same exponent.  There it is rounded once, to the nearest binary64 number.

* `exists_parts` : the digits, the point and the exponent of a literal.
* `NumberText.decimal` : the decimal that is written.
* `readDecimal?_literal` : a literal between blanks is read as the number nearest to its decimal.
-/

namespace Gridlines

namespace Json

/-! ### The text of a literal -/

/-- The value of a digit. -/
def digitOf (c : Char) : Nat := c.toNat - '0'.toNat

theorem splitDigits_map (cs : List Char) :
    splitDigits (cs.map .char) =
      ((cs.takeWhile Char.isDigit).map digitOf, (cs.dropWhile Char.isDigit).map .char) := by
  have hdigit : (fun x => (digit? x).isSome) ∘ Symbol.char = Char.isDigit := by
    funext c
    cases hc : c.isDigit <;> simp [digit?, hc]
  rw [splitDigits, List.takeWhile_map, List.dropWhile_map, hdigit, List.filterMap_map]
  refine congrArg (·, _) (List.filterMap_eq_map_iff_forall_eq_some.2 fun c hc => ?_)
  have hc' : c.isDigit := List.mem_takeWhile_imp hc
  simp [digit?, hc', digitOf]

theorem digitsNat_map (ds : List Char) : NumberText.digitsNat (ds.map digitOf) = digitsValue ds :=
  List.foldl_map ..

theorem needDigits_map {cs : List Char} {ds : List Nat} {r : Content}
    (h : needDigits (cs.map .char) = .ok (ds, r)) :
    ∃ digits rest, cs = digits ++ rest ∧ digits ≠ [] ∧ AllDigits digits ∧
      ds = digits.map digitOf ∧ r = rest.map .char := by
  rw [needDigits, splitDigits_map] at h
  split at h
  · cases h
  · cases h
  · next ds' r' hne _ heq =>
    cases h
    obtain ⟨rfl, rfl⟩ := Prod.mk.inj heq
    refine ⟨cs.takeWhile Char.isDigit, cs.dropWhile Char.isDigit,
      (List.takeWhile_append_dropWhile ..).symm, ?_, fun c hc => List.mem_takeWhile_imp hc, rfl, rfl⟩
    intro hnil
    rw [hnil] at hne
    cases hrest : (cs.dropWhile Char.isDigit).map Symbol.char with
    | nil => simp_all
    | cons x s => simp_all

theorem lexPlaces_map {cs : List Char} {p : Option (List Nat)} {r : Content}
    (h : lexPlaces (cs.map .char) = .ok (p, r)) :
    ∃ places rest, cs = fraction places ++ rest ∧ AllDigits places ∧
      p.getD [] = places.map digitOf ∧ r = rest.map .char := by
  cases cs with
  | nil =>
    cases h
    exact ⟨[], [], rfl, List.forall_mem_nil _, rfl, rfl⟩
  | cons c cs =>
    by_cases hc : c = '.'
    · subst hc
      obtain ⟨⟨ds, r'⟩, hds, h⟩ := bind_eq_ok h
      cases h
      obtain ⟨digits, rest, rfl, hne, hall, rfl, rfl⟩ := needDigits_map hds
      refine ⟨digits, rest, ?_, hall, rfl, rfl⟩
      rw [fraction, if_neg hne, List.cons_append]
    · rw [List.map_cons, lexPlaces] at h
      · cases h
        exact ⟨[], c :: cs, rfl, List.forall_mem_nil _, rfl, rfl⟩
      · rintro s hs
        exact hc (Symbol.char.inj (List.cons.inj hs).1)

theorem lexSign_map (cs : List Char) :
    lexSign (cs.map .char) = ((splitSign cs).1, (splitSign cs).2.map .char) := by
  cases cs with
  | nil => rfl
  | cons c cs =>
    rw [List.map_cons]
    unfold lexSign splitSign
    split <;> split <;> simp_all

theorem lexExponent_map {cs : List Char} {e : Option (Bool × List Nat)}
    (h : lexExponent (cs.map .char) = .ok (e, [])) (t : NumberText) :
    readExponent? cs = some { t with exponent := e }.exponentValue := by
  cases cs with
  | nil =>
    cases h
    rfl
  | cons c cs =>
    rw [List.map_cons, lexExponent] at h
    split_ifs at h with hc
    · rw [lexSign_map] at h
      obtain ⟨⟨ds, r'⟩, hds, h⟩ := bind_eq_ok h
      cases h
      obtain ⟨digits, rest, hdigits, hne, hall, rfl, hrest⟩ := needDigits_map hds
      obtain rfl : rest = [] := List.map_eq_nil_iff.1 hrest.symm
      rw [List.append_nil] at hdigits
      obtain ⟨negative, ds, hsign⟩ : ∃ negative ds, splitSign cs = (negative, ds) := ⟨_, _, rfl⟩
      rw [hsign] at hdigits
      obtain rfl : ds = digits := hdigits
      have hread : ∀ x ∈ ds, x.isDigit := hall
      simpa [readExponent?, hc, hsign, hne, NumberText.exponentValue, digitsNat_map] using hread
    · cases h

/-- The parts of a literal after its sign. -/
theorem exists_parts {negative : Bool} {cs : List Char} {t : NumberText}
    (h : lexNumber negative (cs.map .char) = .ok (t, [])) :
    ∃ whole places ending, cs = whole ++ (fraction places ++ ending) ∧ whole ≠ [] ∧
      AllDigits whole ∧ AllDigits places ∧
      readExponent? ending = some t.exponentValue ∧ t.negative = negative ∧
      t.whole = whole.map digitOf ∧ t.places.getD [] = places.map digitOf := by
  unfold lexNumber at h
  obtain ⟨⟨ws, s₁⟩, hw, h⟩ := bind_eq_ok h
  obtain ⟨⟨ps, s₂⟩, hp, h⟩ := bind_eq_ok h
  obtain ⟨⟨e, s₃⟩, he, h⟩ := bind_eq_ok h
  cases h
  obtain ⟨⟨ds, r⟩, hds, hw⟩ := bind_eq_ok hw
  obtain ⟨whole, rest, rfl, hne, hwhole, rfl, rfl⟩ := needDigits_map hds
  have hws : ws = whole.map digitOf ∧ s₁ = rest.map .char := by
    dsimp only at hw
    split at hw
    · cases hw
    · cases hw
      exact ⟨rfl, rfl⟩
  obtain ⟨rfl, rfl⟩ := hws
  obtain ⟨places, ending, rfl, hplaces, hps, rfl⟩ := lexPlaces_map hp
  have hexp := lexExponent_map he ⟨negative, whole.map digitOf, ps, e⟩
  exact ⟨whole, places, ending, rfl, hne, hwhole, hplaces, hexp, rfl, rfl, hps⟩

/-! ### Literals in text cells -/

namespace NumberText

/-- The decimal that is written, without its sign. -/
def decimal (t : NumberText) : Decimal :=
  let places := t.places.getD []
  ⟨digitsNat (t.whole ++ places), t.exponentValue - places.length⟩

end NumberText

/-- A literal between blanks is read as the number nearest to its decimal. -/
theorem readDecimal?_literal {negative : Bool} {cs before after : List Char} {t : NumberText}
    (h : lexNumber negative (cs.map .char) = .ok (t, [])) (hbefore : ∀ c ∈ before, isBlank c)
    (hafter : ∀ c ∈ after, isBlank c) :
    readDecimal? (trimBlank (before ++ ((if negative then ['-'] else []) ++ cs) ++ after)) =
      some (Decimal.toBinary64 t.negative t.decimal) := by
  obtain ⟨whole, places, ending, rfl, hne, hwhole, hplaces, hexp, rfl, hw, hp⟩ := exists_parts h
  have htext := decimalText_parts hne hwhole hplaces hexp t.negative
  rw [trimBlank_surround hbefore hafter htext.not_isBlank, readDecimal?_eq_some_iff]
  refine ⟨t.negative, _, htext, ?_⟩
  rw [NumberText.decimal, hw, hp, ← List.map_append, digitsNat_map, List.length_map]

end Json

end Gridlines
