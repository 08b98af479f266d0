import Gridlines.Decimal.Basic
import Gridlines.Proofs.Text.Blank
import Mathlib

/-!
# The texts of decimals

Which texts are read as decimals, and as which ones: a grammar that says how the parts of a decimal
may be written.  There may be a sign, there are digits before or after a point that may be missing,
and there may be an exponent.  Words for infinities are no decimals.

* `DecimalText` : the texts of a decimal.
* `readDecimal?_eq_some_iff` : a text is read as the number nearest to its decimal.
* `not_decimalText_of_isNumberWord` : words are not read.
-/

namespace Gridlines

/-- Whether all characters are digits. -/
def AllDigits (cs : List Char) : Prop := ∀ c ∈ cs, c.isDigit

/-- The text of a sign, a minus or not. -/
inductive SignText : Bool → List Char → Prop where
  | none : SignText false []
  | plus : SignText false ['+']
  | minus : SignText true ['-']

/-- The text of the digits after the point.  Without them the point may be missing, too. -/
inductive PlacesText : List Char → List Char → Prop where
  | none : PlacesText [] []
  | point {ds : List Char} (hds : AllDigits ds) : PlacesText ds ('.' :: ds)

/-- The text of an exponent.  It is missing or has at least one digit. -/
inductive ExponentText : Int → List Char → Prop where
  | none : ExponentText 0 []
  | mark {negative : Bool} {m : Char} {sign ds : List Char} (hm : m = 'e' ∨ m = 'E')
      (hsign : SignText negative sign) (hne : ds ≠ []) (hds : AllDigits ds) :
      ExponentText (if negative then -(digitsValue ds : Int) else digitsValue ds)
        (m :: (sign ++ ds))

/-- The text of a decimal with a sign. -/
inductive DecimalText : Bool → Decimal → List Char → Prop where
  | parts {negative : Bool} {sign whole places point ending : List Char} {e : Int}
      (hsign : SignText negative sign) (hwhole : AllDigits whole) (hpoint : PlacesText places point)
      (hne : ¬(whole = [] ∧ places = [])) (hending : ExponentText e ending) :
      DecimalText negative ⟨digitsValue (whole ++ places), e - places.length⟩
        (sign ++ (whole ++ (point ++ ending)))

/-! ### Signs and exponents -/

theorem exists_signText (cs : List Char) :
    ∃ negative sign rest, splitSign cs = (negative, rest) ∧ SignText negative sign ∧
      cs = sign ++ rest := by
  unfold splitSign
  split
  · exact ⟨_, _, _, rfl, .minus, rfl⟩
  · exact ⟨_, _, _, rfl, .plus, rfl⟩
  · exact ⟨_, _, _, rfl, .none, rfl⟩

theorem SignText.splitSign {negative : Bool} {sign cs : List Char} (h : SignText negative sign)
    (hcs : cs.head? ≠ some '-' ∧ cs.head? ≠ some '+') :
    splitSign (sign ++ cs) = (negative, cs) := by
  cases h with
  | plus => rfl
  | minus => rfl
  | none =>
    cases cs with
    | nil => rfl
    | cons c cs =>
      unfold Gridlines.splitSign
      split <;> simp_all

theorem head?_ne_sign {cs : List Char} (h : ∃ c, cs.head? = some c ∧ (c.isDigit ∨ c = '.')) :
    cs.head? ≠ some '-' ∧ cs.head? ≠ some '+' := by
  obtain ⟨c, hc, hdigit⟩ := h
  rw [hc]
  constructor <;> rintro heq <;> obtain rfl := Option.some.inj heq <;> revert hdigit <;> decide

theorem AllDigits.head? {cs : List Char} (h : AllDigits cs) (hne : cs ≠ []) :
    ∃ c, cs.head? = some c ∧ (c.isDigit ∨ c = '.') := by
  obtain ⟨c, cs, rfl⟩ := List.exists_cons_of_ne_nil hne
  exact ⟨c, rfl, .inl (h c List.mem_cons_self)⟩

/-- The digits of a decimal start with a digit or with the point. -/
theorem PlacesText.head? {places point whole : List Char} (h : PlacesText places point)
    (hwhole : AllDigits whole) (hne : ¬(whole = [] ∧ places = [])) (rest : List Char) :
    ∃ c, (whole ++ (point ++ rest)).head? = some c ∧ (c.isDigit ∨ c = '.') := by
  cases whole with
  | cons c cs => exact ⟨c, rfl, .inl (hwhole c List.mem_cons_self)⟩
  | nil =>
    cases h with
    | none => exact absurd ⟨rfl, rfl⟩ hne
    | point => exact ⟨'.', rfl, .inr rfl⟩

theorem readExponent?_eq_some_iff {cs : List Char} {e : Int} :
    readExponent? cs = some e ↔ ExponentText e cs := by
  constructor
  · intro h
    cases cs with
    | nil =>
      cases h
      exact .none
    | cons c cs =>
      by_cases hc : c = 'e' ∨ c = 'E'
      · obtain ⟨negative, sign, ds, hsplit, hsign, rfl⟩ := exists_signText cs
        rw [readExponent?, if_pos hc, hsplit] at h
        dsimp only at h
        by_cases hds : ds.isEmpty ∨ !ds.all Char.isDigit
        · rw [if_pos hds] at h
          cases h
        · rw [if_neg hds] at h
          cases h
          obtain ⟨hne, hall⟩ := not_or.1 hds
          exact .mark hc hsign (by simpa using hne) (by simpa [AllDigits] using hall)
      · rw [readExponent?, if_neg hc] at h
        cases h
  · intro h
    cases h with
    | none => rfl
    | @mark negative m sign ds hm hsign hne hds =>
      have hall : ds.all Char.isDigit := List.all_eq_true.2 hds
      rw [readExponent?, if_pos hm, hsign.splitSign (head?_ne_sign (hds.head? hne))]
      simp [hne, hall]

/-- An exponent starts with a letter, -/
theorem ExponentText.head?_isDigit {e : Int} {cs : List Char} (h : ExponentText e cs) :
    cs.head?.any Char.isDigit = false := by
  cases h with
  | none => rfl
  | mark hm => obtain rfl | rfl := hm <;> rfl

/-- and so do not the digits after a point. -/
theorem ExponentText.head?_ne {e : Int} {cs : List Char} (h : ExponentText e cs) :
    cs.head? ≠ some '.' := by
  cases h with
  | none => simp
  | mark hm => obtain rfl | rfl := hm <;> simp

/-! ### Decimals -/

theorem takeWhile_isDigit_append {cs rest : List Char} (h : AllDigits cs)
    (hrest : rest.head?.any Char.isDigit = false) :
    (cs ++ rest).takeWhile Char.isDigit = cs ∧ (cs ++ rest).dropWhile Char.isDigit = rest := by
  rw [List.takeWhile_append_of_pos h, List.dropWhile_append_of_pos h]
  cases rest with
  | nil => simp
  | cons c rest =>
    have hc : ¬c.isDigit := by simpa using hrest
    simp [hc]

/-- What is split off a text without a sign: digits, a point and more digits. -/
theorem exists_placesText (body : List Char) :
    ∃ whole places point ending, body = whole ++ (point ++ ending) ∧ AllDigits whole ∧
      PlacesText places point ∧ ending.head?.any Char.isDigit = false ∧
      (point = [] → ending.head? ≠ some '.') := by
  have hsplit : ∀ cs : List Char, ∃ ds rest, cs = ds ++ rest ∧ AllDigits ds ∧
      rest.head?.any Char.isDigit = false := by
    intro cs
    refine ⟨cs.takeWhile Char.isDigit, cs.dropWhile Char.isDigit,
      (List.takeWhile_append_dropWhile ..).symm, fun c hc => List.mem_takeWhile_imp hc, ?_⟩
    have hhead := List.head?_dropWhile_not Char.isDigit cs
    cases hrest : (cs.dropWhile Char.isDigit).head? with
    | none => rfl
    | some c => simpa [hrest] using hhead
  obtain ⟨whole, rest, rfl, hwhole, hrest⟩ := hsplit body
  by_cases hdot : rest.head? = some '.'
  · obtain ⟨rest, rfl⟩ := List.head?_eq_some_iff.1 hdot
    obtain ⟨places, ending, rfl, hplaces, hending⟩ := hsplit rest
    exact ⟨whole, places, '.' :: places, ending, rfl, hwhole, .point hplaces, hending, by simp⟩
  · exact ⟨whole, [], [], rest, rfl, hwhole, .none, hrest, fun _ => hdot⟩

/-- Reading a text that has been split. -/
theorem readDecimal?_eq_of_split {cs body whole places point ending : List Char} {negative : Bool}
    (hsign : splitSign cs = (negative, body)) (hbody : body = whole ++ (point ++ ending))
    (hwhole : AllDigits whole) (hpoint : PlacesText places point)
    (hdigit : ending.head?.any Char.isDigit = false) (hdot : point = [] → ending.head? ≠ some '.') :
    readDecimal? cs = if whole = [] ∧ places = [] then none
      else (readExponent? ending).map fun e =>
        Decimal.toBinary64 negative ⟨digitsValue (whole ++ places), e - places.length⟩ := by
  have hmark : (point ++ ending).head?.any Char.isDigit = false := by
    cases hpoint with
    | none => exact hdigit
    | point => rfl
  obtain ⟨htake, hdrop⟩ := takeWhile_isDigit_append hwhole hmark
  unfold readDecimal?
  rw [hsign]
  dsimp only
  rw [hbody, htake, hdrop]
  cases hpoint with
  | none =>
    rw [List.nil_append]
    split
    · exact absurd rfl (hdot rfl)
    · simp
  | point hplaces =>
    obtain ⟨htake, hdrop⟩ := takeWhile_isDigit_append hplaces hdigit
    rw [List.cons_append]
    simp [htake, hdrop]

/-- **A text is read as the number nearest to its decimal**, and no other text is read. -/
theorem readDecimal?_eq_some_iff {cs : List Char} {x : Binary64} :
    readDecimal? cs = some x ↔
      ∃ negative d, DecimalText negative d cs ∧ x = d.toBinary64 negative := by
  constructor
  · intro h
    obtain ⟨negative, sign, body, hsplit, hsign, rfl⟩ := exists_signText cs
    obtain ⟨whole, places, point, ending, rfl, hwhole, hpoint, hdigit, hdot⟩ :=
      exists_placesText body
    rw [readDecimal?_eq_of_split hsplit rfl hwhole hpoint hdigit hdot] at h
    by_cases hne : whole = [] ∧ places = []
    · rw [if_pos hne] at h
      cases h
    · rw [if_neg hne] at h
      obtain ⟨e, he, rfl⟩ := Option.map_eq_some_iff.1 h
      exact ⟨_, _, .parts hsign hwhole hpoint hne (readExponent?_eq_some_iff.1 he), rfl⟩
  · rintro ⟨negative, _, ⟨hsign, hwhole, hpoint, hne, hending⟩, rfl⟩
    have hhead := hpoint.head? hwhole hne
    rw [readDecimal?_eq_of_split (hsign.splitSign (head?_ne_sign (hhead _))) rfl hwhole hpoint
      hending.head?_isDigit fun _ => hending.head?_ne, if_neg hne,
      readExponent?_eq_some_iff.2 hending]
    rfl

theorem SignText.not_isBlank {negative : Bool} {sign : List Char} (h : SignText negative sign) :
    ∀ c ∈ sign, ¬isBlank c := by
  cases h <;> simp [isBlank, blankRanges, CodeRanges.holds]

theorem AllDigits.not_isBlank {cs : List Char} (h : AllDigits cs) : ∀ c ∈ cs, ¬isBlank c :=
  fun c hc => not_isBlank_of_isDigit (h c hc)

theorem PlacesText.not_isBlank {ds cs : List Char} (h : PlacesText ds cs) :
    ∀ c ∈ cs, ¬isBlank c := by
  cases h with
  | none => exact List.forall_mem_nil _
  | point hds => exact List.forall_mem_cons.2 ⟨by decide, hds.not_isBlank⟩

theorem ExponentText.not_isBlank {e : Int} {cs : List Char} (h : ExponentText e cs) :
    ∀ c ∈ cs, ¬isBlank c := by
  cases h with
  | none => exact List.forall_mem_nil _
  | mark hm hsign _ hds =>
    refine List.forall_mem_cons.2 ⟨?_, ?_⟩
    · obtain rfl | rfl := hm <;> decide
    · exact List.forall_mem_append.2 ⟨hsign.not_isBlank, hds.not_isBlank⟩

/-- There is no white space in the text of a decimal. -/
theorem DecimalText.not_isBlank {negative : Bool} {d : Decimal} {cs : List Char}
    (h : DecimalText negative d cs) : ∀ c ∈ cs, ¬isBlank c := by
  obtain ⟨hsign, hwhole, hpoint, -, hending⟩ := h
  exact List.forall_mem_append.2 ⟨hsign.not_isBlank, List.forall_mem_append.2
    ⟨hwhole.not_isBlank, List.forall_mem_append.2 ⟨hpoint.not_isBlank, hending.not_isBlank⟩⟩⟩

/-! ### Words -/

/-- The words that are no decimals, in any case: infinities, and what is not a number. -/
def IsNumberWord (cs : List Char) : Prop :=
  cs.map Char.toLower ∈ ["inf".toList, "infinity".toList, "nan".toList]

theorem IsNumberWord.isAlpha {cs : List Char} (h : IsNumberWord cs) : ∀ c ∈ cs, c.isAlpha := by
  have hletters : ∀ w ∈ ["inf".toList, "infinity".toList, "nan".toList], w.all Char.isAlpha :=
    List.all_eq_true.1 (by decide)
  intro c hc
  rw [← Char.isAlpha_toLower_eq_isAlpha]
  exact List.all_eq_true.1 (hletters _ h) _ (List.mem_map_of_mem hc)

theorem IsNumberWord.ne_nil {cs : List Char} (h : IsNumberWord cs) : cs ≠ [] := by
  rintro rfl
  simp [IsNumberWord] at h

/-- The code points of letters. -/
theorem toNat_of_isAlpha {c : Char} (h : c.isAlpha) :
    65 ≤ c.toNat ∧ c.toNat ≤ 90 ∨ 97 ≤ c.toNat ∧ c.toNat ≤ 122 := by
  simpa [Char.isAlpha, Char.isUpper, Char.isLower, UInt32.le_iff_toNat_le] using h

theorem not_isDigit_of_isAlpha {c : Char} (h : c.isAlpha) : ¬c.isDigit := by
  have hcode := toNat_of_isAlpha h
  rw [Char.isDigit_iff_toNat]
  have hnine : '9'.toNat = 57 := rfl
  omega

theorem not_isBlank_of_isAlpha {c : Char} (h : c.isAlpha) : ¬isBlank c := by
  have hcode := toNat_of_isAlpha h
  intro hblank
  simp [isBlank, blankRanges, CodeRanges.holds] at hblank
  omega

theorem IsNumberWord.not_isBlank {cs : List Char} (h : IsNumberWord cs) : ∀ c ∈ cs, ¬isBlank c :=
  fun c hc => not_isBlank_of_isAlpha (h.isAlpha c hc)

theorem not_decimalText_of_isNumberWord {cs sign : List Char} {s negative : Bool} {d : Decimal}
    (hsign : SignText s sign) (h : IsNumberWord cs) : ¬DecimalText negative d (sign ++ cs) := by
  obtain ⟨c, cs, rfl⟩ := List.exists_cons_of_ne_nil h.ne_nil
  have halpha : c.isAlpha := h.isAlpha c List.mem_cons_self
  have hc : c ≠ '-' ∧ c ≠ '+' ∧ c ≠ '.' := by
    refine ⟨?_, ?_, ?_⟩ <;> rintro rfl <;> exact absurd halpha (by decide)
  have hsplit : splitSign (sign ++ c :: cs) = (s, c :: cs) :=
    hsign.splitSign ⟨by simpa using hc.1, by simpa using hc.2.1⟩
  generalize sign ++ c :: cs = text at hsplit
  -- a decimal starts with a digit or a point after its sign
  rintro ⟨hsign', hwhole, hpoint, hne, -⟩
  have hhead := hpoint.head? hwhole hne
  rw [hsign'.splitSign (head?_ne_sign (hhead _))] at hsplit
  obtain ⟨c', hc', hdigit⟩ := hhead _
  rw [(Prod.mk.inj hsplit).2] at hc'
  obtain rfl := Option.some.inj hc'
  exact hdigit.elim (not_isDigit_of_isAlpha halpha) hc.2.2

end Gridlines
