import Gridlines.Json.Scan
import Gridlines.Proofs.Json.Wire
import Mathlib.Data.List.TakeWhile

/-!
# Numbers are read back

A number that is read from a text of its own is read in the same way before a delimiter, so it can
be studied alone.  Integers of the size that the reader knows are read back.

* `readNumber_append` : a delimiter after the number changes nothing.
* `readNumber_false_toDigits`, `readNumber_true_toDigits` : the digits of an integer.
* `count_inj` : two counts with one text are equal.
-/

namespace Gridlines

/-- An outcome with a property that can be computed. -/
theorem exists_eq_ok {ε α : Type} {P : α → Prop} [DecidablePred P] {x : Except ε α}
    (h : (match x with | .ok a => decide (P a) | .error _ => false) = true) :
    ∃ a, x = .ok a ∧ P a := by
  cases x with
  | error e => cases h
  | ok a => exact ⟨a, rfl, of_decide_eq_true h⟩

namespace Json

/-! ### Steps that give a value -/

/-- A computation in two steps gives a value if both steps do. -/
theorem bind_eq_ok {ε α β : Type} {x : Except ε α} {f : α → Except ε β} {b : β}
    (h : x >>= f = .ok b) : ∃ a, x = .ok a ∧ f a = .ok b := by
  cases x with
  | error e => cases h
  | ok a => exact ⟨a, rfl, h⟩

theorem ok_bind {ε α β : Type} (a : α) (f : α → Except ε β) : (Except.ok a >>= f) = f a := rfl

theorem map_eq_ok {ε α β : Type} {x : Except ε α} {f : α → β} {b : β}
    (h : x.map f = .ok b) : ∃ a, x = .ok a ∧ f a = b := by
  cases x with
  | error e => cases h
  | ok a => exact ⟨a, rfl, Except.ok.inj h⟩

/-! ### Numbers before a delimiter -/

variable {rest : Content}

theorem splitDigits_append (h : Delimited rest) (s : Content) :
    splitDigits (s ++ rest) = ((splitDigits s).1, (splitDigits s).2 ++ rest) := by
  -- a delimiter is no digit
  have hrest : splitDigits rest = ([], rest) := by
    cases rest with
    | nil => rfl
    | cons a s => obtain rfl | rfl | rfl := h <;> rfl
  induction s with
  | nil => exact hrest
  | cons a s ih =>
    unfold splitDigits at *
    cases ha : digit? a with
    | none => simp [ha]
    | some d => simp_all

theorem needDigits_append (h : Delimited rest) {s r : Content} {ds : List Nat}
    (hs : needDigits s = .ok (ds, r)) : needDigits (s ++ rest) = .ok (ds, r ++ rest) := by
  unfold needDigits at *
  rw [splitDigits_append h]
  split at hs
  · cases hs
  · cases hs
  · next ds' r' hne hne' heq =>
    cases hs
    simp only [heq]
    cases ds with
    | nil => cases r <;> simp_all
    | cons d ds => rfl

theorem lexWhole_append (h : Delimited rest) {s r : Content} {ds : List Nat}
    (hs : lexWhole s = .ok (ds, r)) : lexWhole (s ++ rest) = .ok (ds, r ++ rest) := by
  unfold lexWhole at *
  cases hd : needDigits s with
  | error e => rw [hd] at hs; cases hs
  | ok p =>
    obtain ⟨es, r'⟩ := p
    rw [hd] at hs
    rw [needDigits_append h hd]
    simp only [bind, Except.bind] at hs ⊢
    split at hs
    · cases hs
    · cases hs
      rfl

theorem lexPlaces_append (h : Delimited rest) {s r : Content} {p : Option (List Nat)}
    (hs : lexPlaces s = .ok (p, r)) : lexPlaces (s ++ rest) = .ok (p, r ++ rest) := by
  unfold lexPlaces at hs
  split at hs
  · next s =>
    obtain ⟨⟨ds, r'⟩, hd, hs⟩ := bind_eq_ok hs
    cases hs
    rw [List.cons_append, lexPlaces, needDigits_append h hd]
    rfl
  · next hpoint =>
    cases hs
    cases s with
    | nil =>
      cases rest with
      | nil => rfl
      | cons a s => obtain rfl | rfl | rfl := h <;> rfl
    | cons a s =>
      unfold lexPlaces
      split
      · next heq =>
        cases heq
        exact absurd rfl (hpoint s)
      · rfl

theorem lexSign_append {s : Content} (hs : s ≠ []) (rest : Content) :
    lexSign (s ++ rest) = ((lexSign s).1, (lexSign s).2 ++ rest) := by
  cases s with
  | nil => exact absurd rfl hs
  | cons a s =>
    rw [List.cons_append]
    unfold lexSign
    split <;> simp_all

theorem lexExponent_append (h : Delimited rest) {s r : Content} {p : Option (Bool × List Nat)}
    (hs : lexExponent s = .ok (p, r)) : lexExponent (s ++ rest) = .ok (p, r ++ rest) := by
  unfold lexExponent at hs
  split at hs
  · next c s =>
    split_ifs at hs with hc
    · -- digits have to follow, so the sign is not looked for in `rest`
      have hne : s ≠ [] := by
        rintro rfl
        cases hs
      rw [List.cons_append, lexExponent, if_pos hc, lexSign_append hne]
      rcases hsign : lexSign s with ⟨negative, s'⟩
      rw [hsign] at hs
      obtain ⟨⟨ds, r'⟩, hd, hs⟩ := bind_eq_ok hs
      cases hs
      dsimp only
      rw [needDigits_append h hd]
      rfl
    · cases hs
      rw [List.cons_append, lexExponent, if_neg hc]
  · next hchar =>
    cases hs
    cases s with
    | nil =>
      cases rest with
      | nil => rfl
      | cons a s => obtain rfl | rfl | rfl := h <;> rfl
    | cons a s =>
      cases a with
      | char c => exact absurd rfl (hchar c s)
      | stray b => rfl

/-- A number that is read up to some place is read up to there in a longer text. -/
theorem lexNumber_append (h : Delimited rest) {negative : Bool} {s r : Content} {t : NumberText}
    (hs : lexNumber negative s = .ok (t, r)) :
    lexNumber negative (s ++ rest) = .ok (t, r ++ rest) := by
  unfold lexNumber at *
  obtain ⟨⟨whole, s₁⟩, hw, hs⟩ := bind_eq_ok hs
  obtain ⟨⟨places, s₂⟩, hp, hs⟩ := bind_eq_ok hs
  obtain ⟨⟨exponent, s₃⟩, he, hs⟩ := bind_eq_ok hs
  cases hs
  simp only [lexWhole_append h hw, lexPlaces_append h hp, lexExponent_append h he, ok_bind]
  rfl

theorem readNumber_append (h : Delimited rest) {negative : Bool} {s r : Content} {n : Number}
    (hs : readNumber negative s = .ok (n, r)) :
    readNumber negative (s ++ rest) = .ok (n, r ++ rest) := by
  unfold readNumber at *
  cases hl : lexNumber negative s with
  | error e => rw [hl] at hs; cases e <;> cases hs
  | ok p =>
    obtain ⟨t, r'⟩ := p
    rw [hl] at hs
    obtain ⟨m, hm, hs⟩ := map_eq_ok hs
    cases hs
    rw [lexNumber_append h hl]
    dsimp only
    rw [hm]
    rfl

/-! ### What is left after a number -/

theorem needDigits_suffix {s r : Content} {ds : List Nat} (hs : needDigits s = .ok (ds, r)) :
    r <:+ s := by
  unfold needDigits splitDigits at hs
  split at hs
  · cases hs
  · cases hs
  · next heq =>
    cases hs
    cases heq
    exact List.dropWhile_suffix _

theorem lexWhole_suffix {s r : Content} {ds : List Nat} (hs : lexWhole s = .ok (ds, r)) :
    r <:+ s := by
  unfold lexWhole at hs
  obtain ⟨⟨es, r'⟩, hd, hs⟩ := bind_eq_ok hs
  dsimp only at hs
  split at hs
  · cases hs
  · cases hs
    exact needDigits_suffix hd

theorem lexPlaces_suffix {s r : Content} {p : Option (List Nat)} (hs : lexPlaces s = .ok (p, r)) :
    r <:+ s := by
  unfold lexPlaces at hs
  split at hs
  · obtain ⟨⟨ds, r'⟩, hd, hs⟩ := bind_eq_ok hs
    cases hs
    exact (needDigits_suffix hd).trans (List.suffix_cons _ _)
  · cases hs
    exact List.suffix_rfl

theorem lexSign_suffix (s : Content) : (lexSign s).2 <:+ s := by
  unfold lexSign
  split
  · exact List.suffix_cons _ _
  · exact List.suffix_cons _ _
  · exact List.suffix_rfl

theorem lexExponent_suffix {s r : Content} {p : Option (Bool × List Nat)}
    (hs : lexExponent s = .ok (p, r)) : r <:+ s := by
  unfold lexExponent at hs
  split at hs
  · next c s =>
    split_ifs at hs
    · have hsign := lexSign_suffix s
      obtain ⟨⟨ds, r'⟩, hd, hs⟩ := bind_eq_ok hs
      cases hs
      exact ((needDigits_suffix hd).trans hsign).trans (List.suffix_cons _ _)
    · cases hs
      exact List.suffix_rfl
  · cases hs
    exact List.suffix_rfl

theorem readNumber_suffix {negative : Bool} {s r : Content} {n : Number}
    (hs : readNumber negative s = .ok (n, r)) : r <:+ s := by
  unfold readNumber at hs
  cases hl : lexNumber negative s with
  | error e => rw [hl] at hs; cases e <;> cases hs
  | ok p =>
    obtain ⟨t, r'⟩ := p
    rw [hl] at hs
    obtain ⟨m, hm, hs⟩ := map_eq_ok hs
    cases hs
    unfold lexNumber at hl
    obtain ⟨⟨whole, s₁⟩, hw, hl⟩ := bind_eq_ok hl
    obtain ⟨⟨places, s₂⟩, hp, hl⟩ := bind_eq_ok hl
    obtain ⟨⟨exponent, s₃⟩, he, hl⟩ := bind_eq_ok hl
    cases hl
    exact ((lexExponent_suffix he).trans (lexPlaces_suffix hp)).trans (lexWhole_suffix hw)

/-! ### Integers -/

/-- The digits of a number, read from its text. -/
def decimalDigits (n : Nat) : List Nat := ((Nat.toDigits 10 n).map Symbol.char).filterMap digit?

theorem digit?_digitChar {d : Nat} (h : d < 10) : digit? (.char (Nat.digitChar d)) = some d := by
  have hall : ∀ e < 10, digit? (.char (Nat.digitChar e)) = some e := by decide
  exact hall d h

theorem decimalDigits_of_lt {n : Nat} (h : n < 10) : decimalDigits n = [n] := by
  rw [decimalDigits, Nat.toDigits_of_lt_base h, List.map_singleton, List.filterMap_cons,
    digit?_digitChar h]
  rfl

theorem decimalDigits_of_le {n : Nat} (h : 10 ≤ n) :
    decimalDigits n = decimalDigits (n / 10) ++ [n % 10] := by
  have hmod : n % 10 < 10 := Nat.mod_lt n (by decide)
  rw [decimalDigits, Nat.toDigits_of_base_le (by decide) h, List.map_append, List.filterMap_append,
    List.map_singleton, List.filterMap_cons, digit?_digitChar hmod]
  rfl

theorem digitsNat_decimalDigits (n : Nat) : NumberText.digitsNat (decimalDigits n) = n := by
  induction n using Nat.strongRecOn with
  | ind n ih =>
    by_cases h : n < 10
    · rw [decimalDigits_of_lt h]
      simp [NumberText.digitsNat]
    · have hdiv := ih (n / 10) (by omega)
      unfold NumberText.digitsNat at *
      rw [decimalDigits_of_le (by omega), List.foldl_append, hdiv]
      simp only [List.foldl_cons, List.foldl_nil]
      omega

theorem head?_decimalDigits {n : Nat} (h : 0 < n) :
    ∃ d, (decimalDigits n).head? = some d ∧ 0 < d := by
  induction n using Nat.strongRecOn with
  | ind n ih =>
    by_cases hn : n < 10
    · exact ⟨n, by rw [decimalDigits_of_lt hn]; rfl, h⟩
    · obtain ⟨d, hd, hpos⟩ := ih (n / 10) (by omega) (by omega)
      refine ⟨d, ?_, hpos⟩
      rw [decimalDigits_of_le (by omega), List.head?_append, hd]
      rfl

/-- A zero stands alone. -/
theorem decimalDigits_ne (n d : Nat) (ds : List Nat) : decimalDigits n ≠ 0 :: d :: ds := by
  intro h
  rcases Nat.eq_zero_or_pos n with rfl | hn
  · rw [decimalDigits_of_lt (by decide)] at h
    cases h
  · obtain ⟨e, he, hpos⟩ := head?_decimalDigits hn
    rw [h] at he
    cases he
    exact absurd hpos (by decide)

theorem splitDigits_toDigits (n : Nat) :
    splitDigits ((Nat.toDigits 10 n).map .char) = (decimalDigits n, []) := by
  have hall : ∀ x ∈ (Nat.toDigits 10 n).map Symbol.char, (digit? x).isSome := by
    intro x hx
    obtain ⟨c, hc, rfl⟩ := List.mem_map.1 hx
    simp [digit?, Nat.isDigit_of_mem_toDigits (by decide) (by decide) hc]
  rw [splitDigits, List.takeWhile_eq_self_iff.2 hall, List.dropWhile_eq_nil_iff.2 hall,
    decimalDigits]

theorem lexNumber_toDigits (negative : Bool) (n : Nat) :
    lexNumber negative ((Nat.toDigits 10 n).map .char) =
      .ok (⟨negative, decimalDigits n, none, none⟩, []) := by
  have hne : decimalDigits n ≠ [] := by
    intro h
    have hn := digitsNat_decimalDigits n
    rw [h] at hn
    obtain rfl : 0 = n := hn
    rw [decimalDigits_of_lt (by decide)] at h
    cases h
  have hneed : needDigits ((Nat.toDigits 10 n).map .char) = .ok (decimalDigits n, []) := by
    rw [needDigits, splitDigits_toDigits]
    split
    · simp_all
    · simp_all
    · simp_all
  have hwhole : lexWhole ((Nat.toDigits 10 n).map .char) = .ok (decimalDigits n, []) := by
    rw [lexWhole, hneed, ok_bind]
    dsimp only
    split
    · next heq => exact absurd heq (decimalDigits_ne n _ _)
    · rfl
  rw [lexNumber, hwhole]
  rfl

/-- The integers that are read as integers. -/
def Number.InRange : Number → Prop
  | .int i => -(1 <<< 63 : Nat) ≤ i ∧ i < (1 <<< 64 : Nat)
  | .float _ => True

theorem readNumber_false_toDigits {n : Nat} (h : n < 1 <<< 64) :
    readNumber false ((Nat.toDigits 10 n).map .char) = .ok (.int n, []) := by
  rw [readNumber, lexNumber_toDigits]
  have hn : n < 18446744073709551616 := h
  simp [NumberText.value, digitsNat_decimalDigits, hn, Except.map]

theorem readNumber_true_toDigits {n : Nat} (hpos : 0 < n) (h : n ≤ 1 <<< 63) :
    readNumber true ((Nat.toDigits 10 n).map .char) = .ok (.int (-n), []) := by
  rw [readNumber, lexNumber_toDigits]
  have hn : n ≤ 9223372036854775808 := h
  have hne : n ≠ 0 := by omega
  simp [NumberText.value, digitsNat_decimalDigits, hn, hne, Except.map]

/-- A count is known from its text, whatever stands after the delimiter. -/
theorem count_inj {n m : Nat} {r s : Content} (hr : Delimited r) (hs : Delimited s)
    (h : (count n).symbols ++ r = (count m).symbols ++ s) : n = m := by
  have hdigits : ∀ k : Nat, (count k).symbols = (Nat.toDigits 10 k).map .char := fun _ => rfl
  have hsplit := congrArg (fun t => (splitDigits t).1) h
  simp only [hdigits, splitDigits_append hr, splitDigits_append hs, splitDigits_toDigits] at hsplit
  rw [← digitsNat_decimalDigits n, hsplit, digitsNat_decimalDigits]

end Json

end Gridlines
