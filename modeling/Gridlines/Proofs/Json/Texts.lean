import Gridlines.Proofs.Decimal.ReadBack
import Gridlines.Proofs.Json.Equality
import Gridlines.Proofs.Json.Strings

/-!
# Texts of values

Values with one text are the same.  The first character of a text tells what kind of value it is, a
delimiter ends a number, a quote ends a string and a bracket ends an array or an object, so what
follows a value in a longer text is known as well (`symbols_append_inj`); the induction over values
needs this for the items of an array and the members of an object.

* `Number.text_inj` : numbers with one text are the same; a float is never written as an integer.
* `compact_inj` : values with one text are the same, which decides equality of values.
-/

namespace Gridlines

namespace Json

/-! ### Numbers -/

theorem ofList_integerText (n : ℤ) : String.ofList (integerText n) = toString n := by
  rw [Int.toString_eq_repr]
  cases n with
  | ofNat k => exact Nat.repr_eq_ofList_toDigits.symm
  | negSucc k =>
    have hminus : integerText (Int.negSucc k) = ['-'] ++ Nat.toDigits 10 (k + 1) :=
      if_pos (Int.negSucc_lt_zero k)
    rw [hminus, String.ofList_append, ← Nat.repr_eq_ofList_toDigits]
    rfl

theorem integerText_inj {m n : ℤ} (h : integerText m = integerText n) : m = n := by
  have htext := congrArg String.ofList h
  rw [ofList_integerText, ofList_integerText, Int.toString_eq_repr, Int.toString_eq_repr] at htext
  exact Int.repr_injective htext

/-- An integer is written with digits and a sign, -/
theorem isDigit_of_mem_integerText {n : ℤ} {c : Char} (h : c ∈ integerText n) :
    c.isDigit ∨ c = '-' := by
  unfold integerText at h
  split_ifs at h
  · rcases List.mem_cons.1 h with rfl | h
    · exact .inr rfl
    · exact .inl (allDigits_toDigits _ c h)
  · exact .inl (allDigits_toDigits _ c h)

theorem point_mem_writePositional (ds : List Char) (e : ℤ) :
    '.' ∈ Style.writePositional true ds e := by
  rw [Style.writePositional]
  by_cases he : 0 ≤ e
  · rw [if_pos he]
    simp
  · rw [if_neg he]
    dsimp only
    split <;> simp

theorem letter_mem_writeExponent (plus : Bool) (ds : List Char) (p : ℤ) :
    'e' ∈ Style.writeExponent plus ds p := by
  unfold Style.writeExponent
  simp

/-- a float with a point or an exponent. -/
theorem exists_mark (x : Finite) : ∃ c ∈ numberStyle.chars x, c = '.' ∨ c = 'e' := by
  have hpoint : ∀ ds e, '.' ∈ Style.writePositional numberStyle.pointZero ds e :=
    point_mem_writePositional
  have hmagnitude : ∃ c ∈ numberStyle.writeMagnitude x, c = '.' ∨ c = 'e' := by
    unfold Style.writeMagnitude
    dsimp only
    split_ifs
    · exact ⟨_, hpoint _ _, .inl rfl⟩
    · exact ⟨_, hpoint _ _, .inl rfl⟩
    · exact ⟨_, letter_mem_writeExponent _ _ _, .inr rfl⟩
  obtain ⟨c, hc, hmark⟩ := hmagnitude
  exact ⟨c, List.mem_append_right _ hc, hmark⟩

theorem integerText_ne_chars (n : ℤ) (x : Finite) : integerText n ≠ numberStyle.chars x := by
  intro h
  obtain ⟨c, hc, hmark⟩ := exists_mark x
  have hdigit := isDigit_of_mem_integerText (h ▸ hc)
  rcases hmark with rfl | rfl <;> exact absurd hdigit (by decide)

theorem Number.text_inj {m n : Number} (h : m.text = n.text) : m = n := by
  cases m with
  | int i =>
    cases n with
    | int j => exact congrArg Number.int (integerText_inj h)
    | float y => exact absurd h (integerText_ne_chars i y)
  | float x =>
    cases n with
    | int j => exact absurd h.symm (integerText_ne_chars j x)
    | float y => exact congrArg Number.float (Style.chars_inj h)

/-! ### The kind of a value -/

/-- The first character of a value that is no number. -/
def opener : Json → Option Char
  | null => some 'n'
  | bool true => some 't'
  | bool false => some 'f'
  | number _ => none
  | string _ => some '"'
  | array _ => some '['
  | object _ => some '\x7b'

theorem symbols_of_opener {x : Json} {c : Char} (h : x.opener = some c) :
    ∃ s, x.symbols = .char c :: s := by
  cases x with
  | null => cases h; exact ⟨_, rfl⟩
  | bool b => cases b <;> cases h <;> exact ⟨_, rfl⟩
  | number n => cases h
  | string s => cases h; exact ⟨_, symbols_string s⟩
  | array xs => cases h; exact ⟨_, symbols_array xs⟩
  | object ms => cases h; exact ⟨_, symbols_object ms⟩

theorem isNumeric_of_opener {x : Json} {c : Char} (h : x.opener = some c) :
    isNumeric c = false := by
  have hall : ['n', 't', 'f', '"', '[', '\x7b'].all (!isNumeric ·) := by decide
  have hmem : c ∈ ['n', 't', 'f', '"', '[', '\x7b'] := by
    rcases x with _ | ⟨_ | _⟩ | _ | _ | _ | _ <;> cases h <;> decide
  simpa using List.all_eq_true.1 hall c hmem

/-- A symbol in the text of a number. -/
def isNumericSymbol : Symbol → Bool
  | .char c => isNumeric c
  | .stray _ => false

theorem symbols_number (n : Number) : (number n).symbols = n.text.map .char := by
  rw [symbols, compactChars]

theorem isNumericSymbol_of_mem {n : Number} : ∀ a ∈ n.text.map Symbol.char, isNumericSymbol a := by
  intro a ha
  obtain ⟨c, hc, rfl⟩ := List.mem_map.1 ha
  exact isNumeric_text n c hc

theorem takeWhile_symbols_number (n : Number) {r : Content} (hr : Delimited r) :
    ((number n).symbols ++ r).takeWhile isNumericSymbol = n.text.map .char := by
  have hrest : r.takeWhile isNumericSymbol = [] := by
    cases r with
    | nil => rfl
    | cons a r => obtain rfl | rfl | rfl := hr <;> rfl
  rw [symbols_number, List.takeWhile_append_of_pos isNumericSymbol_of_mem, hrest, List.append_nil]

/-- The first symbol tells the kind of a value. -/
theorem opener_eq {x y : Json} {r s : Content} (h : x.symbols ++ r = y.symbols ++ s) :
    x.opener = y.opener := by
  -- a number starts with a symbol that no other value starts with
  have hnumber : ∀ {x y : Json} {r s : Content} {c : Char}, x.symbols ++ r = y.symbols ++ s →
      x.opener = none → y.opener ≠ some c := by
    intro x y r s c h hx hy
    obtain ⟨n, rfl⟩ : ∃ n, x = number n := by
      rcases x with _ | ⟨_ | _⟩ | n | _ | _ | _ <;> first | exact ⟨n, rfl⟩ | cases hx
    obtain ⟨t, ht⟩ := symbols_of_opener hy
    obtain ⟨d, ds, hds⟩ := List.exists_cons_of_ne_nil (text_ne_nil n)
    have hd := isNumeric_text n d (hds ▸ List.mem_cons_self)
    rw [symbols_number, hds, ht] at h
    obtain ⟨hcd, -⟩ := List.cons.inj h
    cases hcd
    rw [isNumeric_of_opener hy] at hd
    cases hd
  cases hx : x.opener with
  | none =>
    cases hy : y.opener with
    | none => rfl
    | some d => exact absurd hy (hnumber h hx)
  | some c =>
    cases hy : y.opener with
    | none => exact absurd hx (hnumber h.symm hy)
    | some d =>
      obtain ⟨t, ht⟩ := symbols_of_opener hx
      obtain ⟨u, hu⟩ := symbols_of_opener hy
      rw [ht, hu] at h
      obtain ⟨hcd, -⟩ := List.cons.inj h
      cases hcd
      rfl

/-! ### Values and what follows them -/

/-- The text of a value determines it, and what follows it up to any rest. -/
def Determined (x : Json) : Prop :=
  ∀ (y : Json) (r s : Content), Delimited r → Delimited s →
    x.symbols ++ r = y.symbols ++ s → x = y ∧ r = s

theorem stringTail_append_inj {s t : String} {r u : Content}
    (h : stringTail s ++ r = stringTail t ++ u) : s = t ∧ r = u := by
  have hread := readString_stringTail s r
  rw [h, readString_stringTail] at hread
  cases hread
  exact ⟨rfl, rfl⟩

theorem determined_number (n : Number) : Determined (number n) := by
  intro y r s hr hs h
  obtain ⟨m, rfl⟩ : ∃ m, y = number m := by
    have hkind := opener_eq h
    rcases y with _ | ⟨_ | _⟩ | m | _ | _ | _ <;> first | exact ⟨m, rfl⟩ | cases hkind
  have htext := congrArg (List.takeWhile isNumericSymbol) h
  rw [takeWhile_symbols_number n hr, takeWhile_symbols_number m hs] at htext
  have hchar : Function.Injective Symbol.char := fun _ _ hab => Symbol.char.inj hab
  obtain rfl := Number.text_inj (hchar.list_map htext)
  exact ⟨rfl, List.append_cancel_left h⟩

theorem closing_ne (y : Json) (s t : Content) : .char ']' :: s ≠ y.symbols ++ t := by
  intro h
  obtain ⟨c, u, hy, hc, -⟩ := y.symbols_head
  rw [hy] at h
  obtain ⟨hcd, -⟩ := List.cons.inj h
  cases hcd
  exact absurd hc (by decide)

/-- The items of an array are determined if each of them is. -/
theorem itemsTail_append_inj {xs : List Json} (hxs : ∀ x ∈ xs, Determined x) (isFirst : Bool)
    {ys : List Json} {r s : Content} (h : itemsTail isFirst xs ++ r = itemsTail isFirst ys ++ s) :
    xs = ys ∧ r = s := by
  induction xs generalizing isFirst ys with
  | nil =>
    cases ys with
    | nil => exact ⟨rfl, (List.cons.inj h).2⟩
    | cons y ys =>
      cases isFirst with
      | true =>
        rw [itemsTail, itemsTail, comma, if_pos rfl, List.nil_append, List.append_assoc] at h
        exact absurd h (closing_ne y r _)
      | false => cases h
  | cons x xs ih =>
    obtain ⟨hx, hxs⟩ := List.forall_mem_cons.1 hxs
    cases ys with
    | nil =>
      cases isFirst with
      | true =>
        rw [itemsTail, itemsTail, comma, if_pos rfl, List.nil_append, List.append_assoc] at h
        exact absurd h.symm (closing_ne x s _)
      | false => cases h
    | cons y ys =>
      simp only [itemsTail, List.append_assoc] at h
      obtain ⟨rfl, hrest⟩ := hx y _ _ (delimited_itemsTail xs r) (delimited_itemsTail ys s)
        (List.append_cancel_left h)
      obtain ⟨rfl, hrs⟩ := ih hxs false hrest
      exact ⟨rfl, hrs⟩

/-- The members of an object are determined if the value of each of them is. -/
theorem membersTail_append_inj {ms : List (String × Json)} (hms : ∀ m ∈ ms, Determined m.2)
    (isFirst : Bool) {ns : List (String × Json)} {r s : Content}
    (h : membersTail isFirst ms ++ r = membersTail isFirst ns ++ s) : ms = ns ∧ r = s := by
  induction ms generalizing isFirst ns with
  | nil =>
    cases ns with
    | nil => exact ⟨rfl, (List.cons.inj h).2⟩
    | cons n ns => cases isFirst <;> cases h
  | cons m ms ih =>
    obtain ⟨k, x⟩ := m
    obtain ⟨hx, hms⟩ := List.forall_mem_cons.1 hms
    cases ns with
    | nil => cases isFirst <;> cases h
    | cons n ns =>
      obtain ⟨l, y⟩ := n
      simp only [membersTail, List.append_assoc, List.cons_append] at h
      obtain ⟨-, hkey⟩ := List.cons.inj (List.append_cancel_left h)
      obtain ⟨rfl, hcolon⟩ := stringTail_append_inj hkey
      obtain ⟨-, hvalue⟩ := List.cons.inj hcolon
      obtain ⟨rfl, hrest⟩ :=
        hx y _ _ (delimited_membersTail ms r) (delimited_membersTail ns s) hvalue
      obtain ⟨rfl, hrs⟩ := ih hms false hrest
      exact ⟨rfl, hrs⟩

/-- Every value is determined by its text, whatever follows it. -/
theorem determined (x : Json) : Determined x := by
  induction x using Json.induction with
  | null =>
    intro y r s _ _ h
    have hkind := opener_eq h
    rcases y with _ | ⟨_ | _⟩ | _ | _ | _ | _ <;> cases hkind
    exact ⟨rfl, List.append_cancel_left h⟩
  | bool b =>
    intro y r s _ _ h
    have hkind := opener_eq h
    cases b <;> rcases y with _ | ⟨_ | _⟩ | _ | _ | _ | _ <;> cases hkind <;>
      exact ⟨rfl, List.append_cancel_left h⟩
  | number n => exact determined_number n
  | string a =>
    intro y r s _ _ h
    have hkind := opener_eq h
    rcases y with _ | ⟨_ | _⟩ | _ | b | _ | _ <;> cases hkind
    rw [symbols_string, symbols_string] at h
    obtain ⟨rfl, hrs⟩ := stringTail_append_inj (List.cons.inj h).2
    exact ⟨rfl, hrs⟩
  | array xs ih =>
    intro y r s _ _ h
    have hkind := opener_eq h
    rcases y with _ | ⟨_ | _⟩ | _ | _ | ys | _ <;> cases hkind
    rw [symbols_array, symbols_array] at h
    obtain ⟨rfl, hrs⟩ := itemsTail_append_inj ih true (List.cons.inj h).2
    exact ⟨rfl, hrs⟩
  | object ms ih =>
    intro y r s _ _ h
    have hkind := opener_eq h
    rcases y with _ | ⟨_ | _⟩ | _ | _ | _ | ns <;> cases hkind
    rw [symbols_object, symbols_object] at h
    obtain ⟨rfl, hrs⟩ := membersTail_append_inj ih true (List.cons.inj h).2
    exact ⟨rfl, hrs⟩

/-- **Values with one text are the same.** -/
theorem compact_inj {x y : Json} : x.compact = y.compact ↔ x = y := by
  refine ⟨fun h => ?_, fun h => by rw [h]⟩
  have hsymbols := symbols_eq_of_compact_eq h
  exact (determined x y [] [] trivial trivial (by rw [hsymbols])).1

instance : DecidableEq Json := fun _ _ => decidable_of_iff _ compact_inj

end Json

end Gridlines
