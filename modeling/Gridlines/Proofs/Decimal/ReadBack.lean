import Gridlines.Decimal.Style
import Gridlines.Proofs.Decimal.Nearest
import Gridlines.Proofs.Decimal.Texts

/-!
# Written numbers are read back

The shortest decimal of a number reads back as the number, and every style writes it as a numeral
whose value is that decimal, be it with a point, with zeros or with an exponent.  So the text of a
number determines the number and its sign, in every style.

* `Finite.nearestRank_shortest` : the shortest decimal reads back.
* `Numeral` : the texts of a decimal in which a number may be written.
* `readDecimal?_chars` : a written number is read back.
* `Style.writeAny_inj` : numbers with one text are the same, infinities and `nan` included.
-/

namespace Gridlines

/-! ### The shortest decimal -/

namespace Finite

theorem readsBack_of_onGrid? {tie : Tie} {x : Finite} {e : ℤ} {d : Decimal}
    (h : x.onGrid? tie e = some d) : x.readsBack d := by
  unfold onGrid? at h
  dsimp only at h
  split at h
  · cases h
  · next hbelow _ =>
    cases h
    exact hbelow
  · next _ habove =>
    cases h
    exact habove
  · next hbelow habove =>
    -- whichever of the two neighbours is taken
    split at h
    · cases h
      exact hbelow
    · split at h
      · cases h
        exact habove
      · cases tie with
        | away =>
          cases h
          exact habove
        | even =>
          obtain rfl := Option.some.inj h
          split
          · exact hbelow
          · exact habove

theorem nearestRank_exact (x : Finite) : x.exact.nearestRank = x.rank := by
  have hunits : x.units = x.significand * 2 ^ x.scale := Nat.shiftLeft_eq ..
  by_cases hscale : 1074 ≤ x.scale
  · rw [exact, if_pos hscale, Decimal.nearestRank, if_pos le_rfl]
    refine nearestRank_eq_rank Nat.one_pos ?_
    rw [Int.toNat_zero, Nat.pow_eq, Nat.pow_zero, Nat.mul_one, Nat.mul_one, hunits,
      Nat.shiftLeft_eq, Nat.mul_assoc, ← Nat.pow_add, Nat.sub_add_cancel hscale]
  · -- the factors two of the unit are those that the scale leaves out
    obtain ⟨j, hj⟩ : ∃ j, 1074 - x.scale = j := ⟨_, rfl⟩
    have hexp : (-((x.scale : ℤ) - 1074)).toNat = j := by omega
    have hten : 10 ^ j = 5 ^ j * 2 ^ j := Nat.mul_pow 5 2 j
    have hsum : 1074 = x.scale + j := by omega
    rw [exact, if_neg hscale, Decimal.nearestRank, if_neg (by dsimp only; omega), hexp, hj]
    refine nearestRank_eq_rank (Decimal.ten_pow_pos j) ?_
    rw [hunits, hsum, Nat.pow_add, Nat.pow_eq, Nat.pow_eq, hten]
    ring

/-- The shortest decimal reads back. -/
theorem nearestRank_shortest (tie : Tie) (x : Finite) :
    (x.shortest tie).nearestRank = x.rank := by
  have hgo : ∀ n e, (shortest.go tie x n e).nearestRank = x.rank := by
    intro n
    induction n with
    | zero => exact fun _ => x.nearestRank_exact
    | succ n ih =>
      intro e
      rw [shortest.go]
      cases hgrid : x.onGrid? tie e with
      | none => exact ih (e - 1)
      | some d => exact beq_iff_eq.1 (readsBack_of_onGrid? hgrid)
  exact hgo 24 x.coarsest

end Finite

/-! ### Numerals -/

theorem digitsValue_eq (ds : List Char) : digitsValue ds = Nat.ofDigitChars 10 ds 0 := rfl

theorem digitsValue_toDigits (n : ℕ) : digitsValue (Nat.toDigits 10 n) = n :=
  Nat.ofDigitChars_ten_toDigits

theorem digitsValue_append_zeros (ds : List Char) (n : ℕ) :
    digitsValue (ds ++ Style.zeros n) = digitsValue ds * 10 ^ n := by
  rw [digitsValue_eq, Nat.ofDigitChars_append, Style.zeros, Nat.ofDigitChars_replicate_zero,
    Nat.mul_comm, digitsValue_eq]

theorem digitsValue_zeros_append (ds : List Char) (n : ℕ) :
    digitsValue (Style.zeros n ++ ds) = digitsValue ds := by
  rw [digitsValue_eq, Nat.ofDigitChars_append, Style.zeros, Nat.ofDigitChars_replicate_zero,
    Nat.mul_zero, digitsValue_eq]

theorem allDigits_toDigits (n : ℕ) : AllDigits (Nat.toDigits 10 n) :=
  fun _ h => Nat.isDigit_of_mem_toDigits (by decide) (by decide) h

theorem allDigits_zeros (n : ℕ) : AllDigits (Style.zeros n) := by
  intro c h
  rw [List.eq_of_mem_replicate h]
  decide

theorem AllDigits.append {cs ds : List Char} (h : AllDigits cs) (h' : AllDigits ds) :
    AllDigits (cs ++ ds) :=
  List.forall_mem_append.2 ⟨h, h'⟩

/-- The point and the digits after it, if there are any. -/
def fraction (places : List Char) : List Char := if places = [] then [] else '.' :: places

/-- A text without a sign whose nearest magnitude is that of the decimal: digits, perhaps a point
and more digits, perhaps an exponent. -/
structure Numeral (cs : List Char) (d : Decimal) : Prop where
  parts : ∃ whole places ending e, cs = whole ++ (fraction places ++ ending) ∧ whole ≠ [] ∧
    AllDigits whole ∧ AllDigits places ∧ readExponent? ending = some e ∧
    Decimal.nearestRank ⟨digitsValue (whole ++ places), e - places.length⟩ = d.nearestRank

/-! ### Reading numerals -/

theorem placesText_fraction {places : List Char} (h : AllDigits places) :
    PlacesText places (fraction places) := by
  unfold fraction
  split_ifs with hnil
  · rw [hnil]
    exact .none
  · exact .point h

/-- A text whose digits, places and exponent are known is the text of a decimal. -/
theorem decimalText_parts {whole places ending : List Char} {e : ℤ} (hne : whole ≠ [])
    (hwhole : AllDigits whole) (hplaces : AllDigits places) (he : readExponent? ending = some e)
    (negative : Bool) :
    DecimalText negative ⟨digitsValue (whole ++ places), e - places.length⟩
      ((if negative then ['-'] else []) ++ (whole ++ (fraction places ++ ending))) := by
  have hsign : SignText negative (if negative then ['-'] else []) := by
    cases negative with
    | false => exact .none
    | true => exact .minus
  exact .parts hsign hwhole (placesText_fraction hplaces) (fun h => hne h.1)
    (readExponent?_eq_some_iff.1 he)

/-- A numeral is read as the number nearest to its decimal. -/
theorem Numeral.read {cs : List Char} {d : Decimal} (h : Numeral cs d) (negative : Bool) :
    readDecimal? ((if negative then ['-'] else []) ++ cs) =
      some (.ofRank negative d.nearestRank) := by
  obtain ⟨whole, places, ending, e, rfl, hne, hwhole, hplaces, he, hrank⟩ := h.parts
  rw [readDecimal?_eq_some_iff]
  refine ⟨negative, _, decimalText_parts hne hwhole hplaces he negative, ?_⟩
  rw [Decimal.toBinary64_eq, hrank]

/-! ### Writing numerals -/

section

variable {ds : List Char}

/-- Zeros after the digits, some of them behind the point. -/
theorem numeral_zeros (pointZero : Bool) (hne : ds ≠ []) (hds : AllDigits ds) (k : ℕ) :
    Numeral (ds ++ Style.zeros k ++ (if pointZero then ['.', '0'] else []))
      ⟨digitsValue ds, k⟩ := by
  obtain ⟨n, hn⟩ : ∃ n, (if pointZero then ['.', '0'] else []) = fraction (Style.zeros n) := by
    cases pointZero
    · exact ⟨0, rfl⟩
    · exact ⟨1, rfl⟩
  have hexp : (k : ℤ) - (k + n : ℕ) = 0 - (Style.zeros n).length := by
    simp [Style.zeros]
  refine ⟨ds ++ Style.zeros k, Style.zeros n, [], 0, ?_, by simp [hne],
    hds.append (allDigits_zeros k), allDigits_zeros n, rfl, ?_⟩
  · rw [hn, List.append_nil]
  · rw [digitsValue_append_zeros, digitsValue_append_zeros, Nat.mul_assoc, ← Nat.pow_add, ← hexp,
      Decimal.nearestRank_scale]

/-- The point between the digits. -/
theorem numeral_point (hds : AllDigits ds) {k : ℕ} (hpos : 0 < k) (hk : k < ds.length) :
    Numeral (ds.take (ds.length - k) ++ '.' :: ds.drop (ds.length - k)) ⟨digitsValue ds, -k⟩ := by
  have hlen : (ds.drop (ds.length - k)).length = k := by
    rw [List.length_drop]
    omega
  have hdrop : ds.drop (ds.length - k) ≠ [] := by
    refine List.ne_nil_of_length_pos ?_
    rwa [hlen]
  have htake : ds.take (ds.length - k) ≠ [] := by
    refine List.ne_nil_of_length_pos ?_
    rw [List.length_take]
    omega
  refine ⟨ds.take (ds.length - k), ds.drop (ds.length - k), [], 0, ?_, htake,
    fun c h => hds c (List.mem_of_mem_take h), fun c h => hds c (List.mem_of_mem_drop h), rfl, ?_⟩
  · rw [fraction, if_neg hdrop, List.append_nil]
  · rw [List.take_append_drop, hlen, Int.zero_sub]

/-- The point, and zeros before the digits. -/
theorem numeral_below (hne : ds ≠ []) (hds : AllDigits ds) {k : ℕ} (hk : ds.length ≤ k) :
    Numeral ('0' :: '.' :: (Style.zeros (k - ds.length) ++ ds)) ⟨digitsValue ds, -k⟩ := by
  have hlen : (Style.zeros (k - ds.length) ++ ds).length = k := by
    rw [List.length_append, Style.zeros, List.length_replicate]
    omega
  refine ⟨['0'], Style.zeros (k - ds.length) ++ ds, [], 0, ?_, by simp, allDigits_zeros 1,
    (allDigits_zeros _).append hds, rfl, ?_⟩
  · rw [fraction, if_neg (by simp [hne]), List.append_nil]
    rfl
  · have hzeros := digitsValue_zeros_append ds (k - ds.length + 1)
    rw [Style.zeros, List.replicate_succ] at hzeros
    rw [hlen, Int.zero_sub, ← hzeros]
    rfl

theorem numeral_writePositional (pointZero : Bool) (hne : ds ≠ []) (hds : AllDigits ds) (e : ℤ) :
    Numeral (Style.writePositional pointZero ds e) ⟨digitsValue ds, e⟩ := by
  by_cases he : 0 ≤ e
  · obtain ⟨k, rfl⟩ := Int.eq_ofNat_of_zero_le he
    rw [Style.writePositional, if_pos he, Int.toNat_natCast]
    exact numeral_zeros pointZero hne hds k
  · obtain ⟨k, rfl⟩ : ∃ k : ℕ, e = -k := ⟨(-e).toNat, by omega⟩
    rw [Style.writePositional, if_neg he, Int.neg_neg, Int.toNat_natCast]
    dsimp only
    by_cases hk : k < ds.length
    · rw [if_pos hk]
      exact numeral_point hds (by omega) hk
    · rw [if_neg hk]
      exact numeral_below hne hds (Nat.not_lt.1 hk)

theorem readExponent?_exponent (plus : Bool) (p : ℤ) :
    readExponent? ('e' :: ((if p < 0 then ['-'] else if plus then ['+'] else []) ++
      Nat.toDigits 10 p.natAbs)) = some p := by
  have hsign : SignText (decide (p < 0)) (if p < 0 then ['-'] else if plus then ['+'] else []) := by
    by_cases hp : p < 0
    · simpa [hp] using SignText.minus
    · cases plus with
      | true => simpa [hp] using SignText.plus
      | false => simpa [hp] using SignText.none
  have htext := ExponentText.mark (.inl rfl) hsign Nat.toDigits_ne_nil
    (allDigits_toDigits p.natAbs)
  have hvalue : (if decide (p < 0) then -(digitsValue (Nat.toDigits 10 p.natAbs) : ℤ)
      else digitsValue (Nat.toDigits 10 p.natAbs)) = p := by
    rw [digitsValue_toDigits]
    by_cases hp : p < 0
    · rw [if_pos (decide_eq_true hp)]
      omega
    · rw [if_neg (by simpa using hp)]
      omega
  rw [hvalue] at htext
  exact readExponent?_eq_some_iff.2 htext

theorem numeral_writeExponent (plus : Bool) (hne : ds ≠ []) (hds : AllDigits ds) (e : ℤ) :
    Numeral (Style.writeExponent plus ds (e + ds.length - 1)) ⟨digitsValue ds, e⟩ := by
  obtain ⟨d, ds, rfl⟩ := List.exists_cons_of_ne_nil hne
  obtain ⟨hd, hds⟩ := List.forall_mem_cons.1 hds
  refine ⟨[d], ds, _, _, ?_, by simp, by simpa [AllDigits] using hd, hds,
    readExponent?_exponent plus (e + (d :: ds).length - 1), ?_⟩
  · cases ds <;> simp [Style.writeExponent, fraction]
  · have hexp : e + ((d :: ds).length : ℕ) - 1 - (ds.length : ℤ) = e := by
      simp
      omega
    rw [hexp, List.singleton_append]

end

/-- A written magnitude is a numeral of the shortest decimal. -/
theorem numeral_writeMagnitude (style : Style) (x : Finite) :
    ∃ d, Numeral (style.writeMagnitude x) d ∧ d.nearestRank = x.rank := by
  unfold Style.writeMagnitude
  split_ifs with hzero
  · refine ⟨_, numeral_writePositional style.pointZero (List.cons_ne_nil _ _) (allDigits_zeros 1) 0,
      ?_⟩
    rw [Decimal.nearestRank_of_digits_eq_zero rfl]
    exact (beq_iff_eq.1 hzero).symm
  · have hvalue := digitsValue_toDigits (x.shortest style.tie).digits
    refine ⟨⟨digitsValue (Nat.toDigits 10 (x.shortest style.tie).digits),
      (x.shortest style.tie).exponent⟩, ?_, ?_⟩
    · dsimp only
      split_ifs
      · exact numeral_writePositional _ Nat.toDigits_ne_nil (allDigits_toDigits _) _
      · exact numeral_writeExponent _ Nat.toDigits_ne_nil (allDigits_toDigits _) _
    · rw [hvalue]
      exact x.nearestRank_shortest style.tie

/-- **A written number is read back**, whatever the style. -/
theorem readDecimal?_chars (style : Style) (x : Finite) :
    readDecimal? (style.chars x) = some (.finite x) := by
  obtain ⟨d, hnumeral, hrank⟩ := numeral_writeMagnitude style x
  rw [Style.chars, hnumeral.read, hrank, Binary64.ofRank, dif_pos x.rank_lt]

namespace Style

theorem chars_inj {style : Style} {x y : Finite} (h : style.chars x = style.chars y) : x = y := by
  have hread := readDecimal?_chars style x
  rw [h, readDecimal?_chars] at hread
  cases hread
  rfl

theorem readDecimal?_write (style : Style) (x : Finite) :
    readDecimal? (style.write x).toList = some (.finite x) := by
  rw [write, String.toList_ofList, readDecimal?_chars]

/-- Numbers with one text are the same. -/
theorem writeAny_inj {style : Style} {x y : Binary64} (h : style.writeAny x = style.writeAny y) :
    x = y := by
  -- the words for the others are no numerals
  have hword : ∀ (x : Finite) (s : String), readDecimal? s.toList = none → style.write x ≠ s := by
    rintro x s hs rfl
    rw [readDecimal?_write] at hs
    cases hs
  have hinf : ∀ s : Bool, readDecimal? (if s then "-inf" else "inf").toList = none := by decide
  have hnan : readDecimal? "NaN".toList = none := by decide
  have hsigns : ∀ s t : Bool,
      (if s then "-inf" else "inf") = (if t then "-inf" else "inf") → s = t := by decide
  have hother : ∀ s : Bool, (if s then "-inf" else "inf") ≠ "NaN" := by decide
  rcases x with x | s | _ <;> rcases y with y | t | _
  · exact congrArg Binary64.finite (chars_inj (String.ofList_injective h))
  · exact absurd h (hword x _ (hinf t))
  · exact absurd h (hword x _ hnan)
  · exact absurd h.symm (hword y _ (hinf s))
  · exact congrArg Binary64.infinite (hsigns s t h)
  · exact absurd h (hother s)
  · exact absurd h.symm (hword y _ hnan)
  · exact absurd h.symm (hother t)
  · rfl

end Style

end Gridlines
