import Gridlines.Proofs.Dataset.Columns
import Gridlines.Proofs.Decimal.Range
import Gridlines.Proofs.Decimal.Texts

/-!
# The lengths of a dataset

A dataset holds a number or `null` for a length.  Numbers stay as they are.  A text is held as a
number if it is a decimal below the infinities; white space around it does not count.  Whatever else
has been written is held as `null`.  Nothing but lengths is changed, and held lengths are held
unchanged.

* `HoldsLength` : what is held for what has been written.
* `Feature.Coerces` : what coercing the length of a feature changes, and what it does not.
* `Dataset.lengths_exact` : that is what a dataset holds.
-/

namespace Gridlines

/-! ### Texts of lengths -/

/-- The string is the text of a decimal with white space around it or without. -/
def SpellsDecimal (s : String) (negative : Bool) (d : Decimal) : Prop :=
  ∃ left cs right, s.toList = left ++ cs ++ right ∧ (∀ c ∈ left, isBlank c) ∧
    (∀ c ∈ right, isBlank c) ∧ DecimalText negative d cs

/-- The string is a word for an infinity or for what is no number, with or without a sign and white
space around it. -/
def SpellsWord (s : String) : Prop :=
  ∃ left sign cs right negative, s.toList = left ++ (sign ++ cs) ++ right ∧
    (∀ c ∈ left, isBlank c) ∧ (∀ c ∈ right, isBlank c) ∧ SignText negative sign ∧ IsNumberWord cs

/-- Where the infinities start. -/
def infinityBound : ℚ := 2 ^ 1024 - 2 ^ 970

/-- What a dataset holds for a length that has been written. -/
inductive HoldsLength : Json → Json → Prop where
  | number (n : Json.Number) : HoldsLength (.number n) (.number n)
  | null : HoldsLength .null .null
  | decimal {s : String} {negative : Bool} {d : Decimal} {x : Finite}
      (hs : SpellsDecimal s negative d) (hd : d.value < infinityBound)
      (hx : d.toBinary64 negative = .finite x) :
      HoldsLength (.string s) (.number (.float x))
  | overflow {s : String} {negative : Bool} {d : Decimal} (hs : SpellsDecimal s negative d)
      (hd : infinityBound ≤ d.value) : HoldsLength (.string s) .null
  | word {s : String} (hs : SpellsWord s) : HoldsLength (.string s) .null
  | noDecimal {s : String} (hs : ∀ negative d, ¬SpellsDecimal s negative d) :
      HoldsLength (.string s) .null
  | bool (b : Bool) : HoldsLength (.bool b) .null
  | array (xs : List Json) : HoldsLength (.array xs) .null
  | object (es : List (String × Json)) : HoldsLength (.object es) .null

theorem readDecimal?_trimBlank_eq_some_iff {s : String} {x : Binary64} :
    readDecimal? (trimBlank s.toList) = some x ↔
      ∃ negative d, SpellsDecimal s negative d ∧ x = d.toBinary64 negative := by
  rw [readDecimal?_eq_some_iff]
  refine exists_congr fun negative => exists_congr fun d => and_congr_left fun _ => ?_
  constructor
  · intro h
    obtain ⟨left, right, hs, hleft, hright⟩ := exists_trimBlank s.toList
    exact ⟨left, _, right, hs, hleft, hright, h⟩
  · rintro ⟨left, cs, right, hs, hleft, hright, h⟩
    rwa [hs, trimBlank_surround hleft hright h.not_isBlank]

/-- A word is no decimal. -/
theorem SpellsWord.not_spellsDecimal {s : String} (h : SpellsWord s) (negative : Bool)
    (d : Decimal) : ¬SpellsDecimal s negative d := by
  obtain ⟨left, sign, cs, right, _, hs, hleft, hright, hsign, hcs⟩ := h
  rintro ⟨left', cs', right', hs', hleft', hright', hd⟩
  have hblank : ∀ c ∈ sign ++ cs, ¬isBlank c :=
    List.forall_mem_append.2 ⟨hsign.not_isBlank, hcs.not_isBlank⟩
  have htrim := trimBlank_surround hleft' hright' hd.not_isBlank
  rw [← hs', hs, trimBlank_surround hleft hright hblank] at htrim
  exact not_decimalText_of_isNumberWord hsign hcs (htrim ▸ hd)

theorem coerceLength_of_not_spellsDecimal {s : String}
    (h : ∀ negative d, ¬SpellsDecimal s negative d) : coerceLength (.string s) = .null := by
  have hread : readDecimal? (trimBlank s.toList) = none := by
    refine Option.eq_none_iff_forall_ne_some.2 fun x hx => ?_
    obtain ⟨negative, d, hs, -⟩ := readDecimal?_trimBlank_eq_some_iff.1 hx
    exact h negative d hs
  rw [coerceLength, hread]

/-! ### Held lengths -/

theorem holdsLength_coerceLength (x : Json) : HoldsLength x (coerceLength x) := by
  cases x with
  | null => exact .null
  | bool b => exact .bool b
  | number n => exact .number n
  | array xs => exact .array xs
  | object es => exact .object es
  | string s =>
    rw [coerceLength]
    cases hread : readDecimal? (trimBlank s.toList) with
    | none =>
      refine .noDecimal fun negative d hs => ?_
      have hsome := readDecimal?_trimBlank_eq_some_iff.2 ⟨negative, d, hs, rfl⟩
      rw [hread] at hsome
      cases hsome
    | some y =>
      obtain ⟨negative, d, hs, hy⟩ := readDecimal?_trimBlank_eq_some_iff.1 hread
      cases y with
      | finite x => exact .decimal hs ((d.exists_finite_iff negative).1 ⟨x, hy.symm⟩) hy.symm
      | infinite | nan =>
        refine .overflow hs (not_lt.1 fun hlt => ?_)
        obtain ⟨x, hx⟩ := (d.exists_finite_iff negative).2 hlt
        rw [← hy] at hx
        cases hx

theorem HoldsLength.eq_coerceLength {x y : Json} (h : HoldsLength x y) : y = coerceLength x := by
  cases h with
  | decimal hs hd hx =>
    rw [coerceLength, readDecimal?_trimBlank_eq_some_iff.2 ⟨_, _, hs, hx.symm⟩]
  | @overflow s negative d hs hd =>
    rw [coerceLength, readDecimal?_trimBlank_eq_some_iff.2 ⟨_, _, hs, rfl⟩]
    cases hx : d.toBinary64 negative with
    | finite x => exact absurd ((d.exists_finite_iff negative).1 ⟨x, hx⟩) (not_lt.2 hd)
    | infinite | nan => rfl
  | noDecimal hs => exact (coerceLength_of_not_spellsDecimal hs).symm
  | word hs => exact (coerceLength_of_not_spellsDecimal hs.not_spellsDecimal).symm
  | _ => rfl

/-- What is held is determined by what has been written. -/
theorem holdsLength_iff {x y : Json} : HoldsLength x y ↔ y = coerceLength x := by
  constructor
  · exact HoldsLength.eq_coerceLength
  · rintro rfl
    exact holdsLength_coerceLength x

/-- Only numbers and `null` are held, and they are held unchanged. -/
theorem HoldsLength.number_or_null {x y : Json} (h : HoldsLength x y) :
    y = .null ∨ (∃ n, y = .number (.int n)) ∨ ∃ z : Finite, y = .number (.float z) := by
  cases h with
  | number n =>
    cases n with
    | int n => exact .inr (.inl ⟨n, rfl⟩)
    | float z => exact .inr (.inr ⟨z, rfl⟩)
  | @decimal s negative d x => exact .inr (.inr ⟨x, rfl⟩)
  | _ => exact .inl rfl

/-! ### Features -/

/-- The second feature is the first one with the length that is held for it. -/
structure Feature.Coerces (f g : Feature) : Prop where
  id : g.id = f.id
  geometry : g.geometry = f.geometry
  keys : g.properties.keys = f.properties.keys
  others : ∀ name, name ≠ Field.length → g.properties.get? name = f.properties.get? name
  length : ∀ y, g.properties.get? Field.length = some y ↔
    ∃ x, f.properties.get? Field.length = some x ∧ HoldsLength x y

theorem Feature.coerces_coerceLength (f : Feature) : f.Coerces f.coerceLength where
  id := rfl
  geometry := rfl
  keys := f.properties.keys_adjust _ _
  others name hname := by rw [coerceLength, SortedMap.get?_adjust, if_neg hname]
  length y := by
    rw [coerceLength, SortedMap.get?_adjust, if_pos rfl, Option.map_eq_some_iff]
    exact exists_congr fun x => and_congr_right fun _ => eq_comm.trans holdsLength_iff.symm

/-- There is one such feature. -/
theorem Feature.coerces_iff {f g : Feature} : f.Coerces g ↔ g = f.coerceLength := by
  constructor
  · intro h
    have hf := f.coerces_coerceLength
    have hproperties : g.properties = f.coerceLength.properties := by
      refine SortedMap.ext_get? fun name => ?_
      by_cases hname : name = Field.length
      · subst hname
        exact Option.ext fun y => (h.length y).trans (hf.length y).symm
      · exact (h.others name hname).trans (hf.others name hname).symm
    cases g
    exact Feature.mk.injEq .. ▸ ⟨h.id, h.geometry, hproperties⟩
  · rintro rfl
    exact f.coerces_coerceLength

namespace Dataset

theorem forall₂_coerces_iff {fs gs : List Feature} :
    List.Forall₂ Feature.Coerces fs gs ↔ gs = fs.map Feature.coerceLength := by
  have hcoerces : Feature.Coerces = fun f g => f.coerceLength = g := by
    funext f g
    exact propext (Feature.coerces_iff.trans eq_comm)
  rw [hcoerces, ← List.forall₂_map_left_iff (R := Eq), List.forall₂_eq_eq_eq, eq_comm]

/-- **Building a dataset coerces lengths and changes nothing else.**  Held lengths are numbers or
`null`, so a dataset of the same features holds the same features and has the same columns. -/
theorem lengths_exact (now later : String) (fs : List Feature) :
    let d := ofFeatures now fs
    (∀ gs, List.Forall₂ Feature.Coerces fs gs ↔ gs = d.features) ∧
      (∀ f ∈ d.features, ∀ x, f.properties.get? Field.length = some x →
        x = .null ∨ (∃ n, x = .number (.int n)) ∨ ∃ y : Finite, x = .number (.float y)) ∧
      (ofFeatures later d.features).features = d.features ∧
      (ofFeatures later d.features).columns = d.columns := by
  intro d
  have hagain : d.features.map Feature.coerceLength = d.features :=
    (List.map_congr_left d.lengths_coerced).trans (List.map_id d.features)
  refine ⟨fun gs => forall₂_coerces_iff, fun f hf x hx => ?_, hagain, ?_⟩
  · have hheld := f.coerces_coerceLength.length x
    rw [d.lengths_coerced f hf] at hheld
    obtain ⟨y, -, hy⟩ := hheld.1 hx
    exact hy.number_or_null
  · rw [columns_ofFeatures]
    rfl

end Dataset

end Gridlines
