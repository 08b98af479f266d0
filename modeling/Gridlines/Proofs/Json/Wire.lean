import Gridlines.Json.Reader
import Mathlib.Tactic.Common

/-!
# The symbols of a written value

What the reader meets when it reads a text that `Json.compact` has written.  The items of an array
and the members of an object are described from the place where the next one is looked for, with
the comma that separates it from the one before.

* `Json.symbols` : the symbols of a value; `symbols_array` and `symbols_object` unfold them.
* `Json.symbols_head` : the first symbol tells that a value starts, and whether it is `null`.
* `Delimited` : what follows a value inside another one, or at the end of the text.
-/

namespace Gridlines

namespace Json

/-- The symbols of a value without blanks. -/
def symbols (x : Json) : Content := x.compactChars.map .char

/-- The symbols of a string after its opening quote. -/
def stringTail (s : String) : Content := (s.toList.flatMap escapeChar ++ ['"']).map .char

/-- The comma before an item or a member, unless it is the first. -/
def comma (isFirst : Bool) : Content := if isFirst then [] else [.char ',']

/-- The items that are still to come in an array, and its closing bracket. -/
def itemsTail (isFirst : Bool) : List Json → Content
  | [] => [.char ']']
  | x :: xs => comma isFirst ++ (x.symbols ++ itemsTail false xs)

/-- The members that are still to come in an object, and its closing brace. -/
def membersTail (isFirst : Bool) : List (String × Json) → Content
  | [] => [.char '\x7d']
  | (k, x) :: ms =>
    comma isFirst ++
      .char '"' :: (stringTail k ++ .char ':' :: (x.symbols ++ membersTail false ms))

theorem ofString_compact (x : Json) : Symbol.ofString x.compact = x.symbols := by
  rw [Symbol.ofString, compact, String.toList_ofList, symbols]

theorem symbols_eq_of_compact_eq {x y : Json} (h : x.compact = y.compact) :
    x.symbols = y.symbols := by
  rw [← ofString_compact, h, ofString_compact]

theorem symbols_string (s : String) : (string s).symbols = .char '"' :: stringTail s := by
  rw [symbols, compactChars, stringText, List.map_cons, stringTail]

theorem map_compactItems (x : Json) (xs : List Json) :
    (compactItems (x :: xs)).map Symbol.char = x.symbols ++ itemsTail false xs := by
  induction xs generalizing x with
  | nil => rw [compactItems, List.map_append, ← symbols]; rfl
  | cons y ys ih =>
    rw [compactItems, List.map_append, ← symbols, List.map_cons, ih]
    rfl

theorem symbols_array (xs : List Json) : (array xs).symbols = .char '[' :: itemsTail true xs := by
  rw [symbols, compactChars, List.map_cons]
  cases xs with
  | nil => rw [compactItems]; rfl
  | cons x xs => rw [map_compactItems]; rfl

theorem map_compactMembers (k : String) (x : Json) (ms : List (String × Json)) :
    (compactMembers ((k, x) :: ms)).map Symbol.char =
      .char '"' :: (stringTail k ++ .char ':' :: (x.symbols ++ membersTail false ms)) := by
  induction ms generalizing k x with
  | nil =>
    rw [compactMembers, stringText, stringTail, symbols]
    simp [membersTail]
  | cons m ms ih =>
    obtain ⟨l, y⟩ := m
    rw [compactMembers, stringText, stringTail, symbols]
    simp only [List.cons_append, List.map_cons, List.map_append, ih]
    rfl

theorem symbols_object (ms : List (String × Json)) :
    (object ms).symbols = .char '\x7b' :: membersTail true ms := by
  rw [symbols, compactChars, List.map_cons]
  cases ms with
  | nil => rw [compactMembers]; rfl
  | cons m ms => rw [map_compactMembers]; rfl

/-! ### The text of a number -/

/-- The characters in the text of a number. -/
def isNumeric (c : Char) : Bool := c.isDigit || c = '-' || c = '+' || c = '.' || c = 'e'

theorem isNumeric_toDigits (n : Nat) : ∀ c ∈ Nat.toDigits 10 n, isNumeric c := by
  intro c h
  simp [isNumeric, Nat.isDigit_of_mem_toDigits (by decide) (by decide) h]

theorem isNumeric_zeros (n : Nat) : ∀ c ∈ Style.zeros n, isNumeric c := by
  intro c h
  rw [List.eq_of_mem_replicate h]
  decide

theorem isNumeric_writePositional {b : Bool} {ds : List Char} (e : Int)
    (hds : ∀ c ∈ ds, isNumeric c) : ∀ c ∈ Style.writePositional b ds e, isNumeric c := by
  have hpoint : isNumeric '.' := by decide
  have hzero : isNumeric '0' := by decide
  unfold Style.writePositional
  split
  · have hend : ∀ c ∈ (if b then ['.', '0'] else []), isNumeric c :=
      List.all_eq_true.1 (by cases b <;> decide)
    simp only [List.forall_mem_append]
    exact ⟨⟨hds, isNumeric_zeros _⟩, hend⟩
  · dsimp only
    split
    · rw [List.forall_mem_append, List.forall_mem_cons]
      exact ⟨fun c h => hds c (List.mem_of_mem_take h), hpoint,
        fun c h => hds c (List.mem_of_mem_drop h)⟩
    · rw [List.forall_mem_cons, List.forall_mem_cons, List.forall_mem_append]
      exact ⟨hzero, hpoint, isNumeric_zeros _, hds⟩

theorem isNumeric_writeExponent {b : Bool} {ds : List Char} (p : Int)
    (hds : ∀ c ∈ ds, isNumeric c) : ∀ c ∈ Style.writeExponent b ds p, isNumeric c := by
  have hpoint : isNumeric '.' := by decide
  have he : isNumeric 'e' := by decide
  have hsign : ∀ c ∈ (if p < 0 then ['-'] else if b then ['+'] else []), isNumeric c :=
    List.all_eq_true.1 (by split_ifs <;> decide)
  unfold Style.writeExponent
  simp only [List.forall_mem_append, List.forall_mem_cons]
  refine ⟨⟨⟨fun c h => hds c (List.mem_of_mem_take h), ?_⟩, he, hsign⟩, isNumeric_toDigits _⟩
  split
  · rw [List.forall_mem_cons]
    exact ⟨hpoint, fun c h => hds c (List.mem_of_mem_drop h)⟩
  · exact List.forall_mem_nil _

theorem isNumeric_chars (style : Style) (x : Finite) : ∀ c ∈ style.chars x, isNumeric c := by
  unfold Style.chars
  rw [List.forall_mem_append]
  refine ⟨?_, ?_⟩
  · exact List.all_eq_true.1 (by split <;> decide)
  · unfold Style.writeMagnitude
    dsimp only
    split_ifs
    · exact isNumeric_writePositional 0 (List.all_eq_true.1 (by decide))
    · exact isNumeric_writePositional _ (isNumeric_toDigits _)
    · exact isNumeric_writeExponent _ (isNumeric_toDigits _)

theorem writePositional_ne_nil {b : Bool} {ds : List Char} (e : Int) (hds : ds ≠ []) :
    Style.writePositional b ds e ≠ [] := by
  unfold Style.writePositional
  dsimp only
  split_ifs <;> simp [hds]

theorem chars_ne_nil (style : Style) (x : Finite) : style.chars x ≠ [] := by
  unfold Style.chars Style.writeMagnitude
  dsimp only
  refine List.append_ne_nil_of_right_ne_nil _ ?_
  split_ifs
  · exact writePositional_ne_nil 0 (by decide)
  · exact writePositional_ne_nil _ Nat.toDigits_ne_nil
  · simp [Style.writeExponent]

theorem isNumeric_text (n : Number) : ∀ c ∈ n.text, isNumeric c := by
  cases n with
  | float x => exact isNumeric_chars numberStyle x
  | int i =>
    rw [Number.text, integerText]
    split
    · rw [List.forall_mem_cons]
      exact ⟨by decide, isNumeric_toDigits _⟩
    · exact isNumeric_toDigits _

theorem text_ne_nil (n : Number) : n.text ≠ [] := by
  cases n with
  | float x => exact chars_ne_nil numberStyle x
  | int i =>
    rw [Number.text, integerText]
    split
    · exact List.cons_ne_nil _ _
    · exact Nat.toDigits_ne_nil

/-! ### The first symbol -/

/-- Whether a character can stand first in a value: it is no blank, and does not separate or close
items. -/
def opensValue (c : Char) : Bool := !isGap (.char c) && c != ',' && c != ']'

theorem opensValue_of_isNumeric {c : Char} (h : isNumeric c) : opensValue c ∧ c ≠ 'n' := by
  have hnone : [' ', '\t', '\n', '\r', ',', ']', 'n'].all (!isNumeric ·) := by decide
  have hne : ∀ d ∈ [' ', '\t', '\n', '\r', ',', ']', 'n'], c ≠ d := by
    rintro d hd rfl
    have hd' := List.all_eq_true.1 hnone c hd
    simp [h] at hd'
  simp_all [opensValue, isGap]

/-- A value starts with a character that tells it from blanks and marks; only `null` starts with
an `n`. -/
theorem symbols_head (x : Json) :
    ∃ c s, x.symbols = .char c :: s ∧ opensValue c ∧ (c = 'n' → x = .null) := by
  cases x with
  | null => exact ⟨'n', _, rfl, by decide, fun _ => rfl⟩
  | bool b =>
    cases b with
    | false => exact ⟨'f', _, rfl, by decide, fun h => absurd h (by decide)⟩
    | true => exact ⟨'t', _, rfl, by decide, fun h => absurd h (by decide)⟩
  | string s => exact ⟨'"', _, symbols_string s, by decide, fun h => absurd h (by decide)⟩
  | array xs => exact ⟨'[', _, symbols_array xs, by decide, fun h => absurd h (by decide)⟩
  | object ms => exact ⟨'\x7b', _, symbols_object ms, by decide, fun h => absurd h (by decide)⟩
  | number n =>
    obtain ⟨c, cs, hcs⟩ := List.exists_cons_of_ne_nil (text_ne_nil n)
    obtain ⟨hc, hn⟩ := opensValue_of_isNumeric (isNumeric_text n c (hcs ▸ List.mem_cons_self))
    refine ⟨c, cs.map .char, ?_, hc, fun h => absurd h hn⟩
    rw [symbols, compactChars, hcs, List.map_cons]

/-! ### Blanks and delimiters -/

/-- The text ends, or goes on with a mark that ends a value inside another one. -/
def Delimited : Content → Prop
  | [] => True
  | x :: _ => x = .char ',' ∨ x = .char ']' ∨ x = .char '\x7d'

theorem skipGaps_cons {a : Symbol} {s : Content} (h : isGap a = false) :
    skipGaps (a :: s) = a :: s := by
  rw [skipGaps, List.dropWhile_cons_of_neg (by simp [h])]

theorem skipGaps_symbols (x : Json) (rest : Content) :
    skipGaps (x.symbols ++ rest) = x.symbols ++ rest := by
  obtain ⟨c, s, hx, hc, -⟩ := x.symbols_head
  rw [hx, List.cons_append, skipGaps_cons]
  simp_all [opensValue]

theorem delimited_itemsTail (xs : List Json) (rest : Content) :
    Delimited (itemsTail false xs ++ rest) := by
  cases xs with
  | nil => exact .inr (.inl rfl)
  | cons x xs => exact .inl rfl

theorem delimited_membersTail (ms : List (String × Json)) (rest : Content) :
    Delimited (membersTail false ms ++ rest) := by
  cases ms with
  | nil => exact .inr (.inr rfl)
  | cons m ms => exact .inl rfl

/-! ### Where items and members start -/

theorem nextItem_nil (isFirst : Bool) (rest : Content) :
    nextItem isFirst (itemsTail isFirst [] ++ rest) = .ok none := by
  rfl

theorem nextItem_cons (isFirst : Bool) (x : Json) (xs : List Json) (rest : Content) :
    nextItem isFirst (itemsTail isFirst (x :: xs) ++ rest) =
      .ok (some (x.symbols ++ (itemsTail false xs ++ rest))) := by
  have hskip := x.skipGaps_symbols (itemsTail false xs ++ rest)
  obtain ⟨c, s, hx, hc, -⟩ := x.symbols_head
  -- the bracket would be taken for the end of the array
  have hclose : c ≠ ']' := by
    rintro rfl
    exact absurd hc (by decide)
  cases isFirst with
  | true =>
    rw [itemsTail, comma, if_pos rfl, List.nil_append, List.append_assoc]
    unfold nextItem
    rw [hx, List.cons_append] at hskip ⊢
    rw [hskip]
    simp [hclose]
  | false =>
    rw [itemsTail, comma, if_neg Bool.false_ne_true, List.singleton_append, List.cons_append,
      List.append_assoc]
    unfold nextItem
    rw [skipGaps_cons (by decide)]
    rw [hx, List.cons_append] at hskip ⊢
    simp [hskip, hclose]

theorem nextMember_nil (isFirst : Bool) (rest : Content) :
    nextMember isFirst (membersTail isFirst [] ++ rest) = .ok none := by
  rfl

theorem nextMember_cons (isFirst : Bool) (k : String) (x : Json) (ms : List (String × Json))
    (rest : Content) : nextMember isFirst (membersTail isFirst ((k, x) :: ms) ++ rest) =
      .ok (some (stringTail k ++ .char ':' :: (x.symbols ++ (membersTail false ms ++ rest)))) := by
  have hquote : ∀ s : Content, skipGaps (.char '"' :: s) = .char '"' :: s :=
    fun s => skipGaps_cons (by decide)
  cases isFirst with
  | true =>
    rw [membersTail, comma, if_pos rfl, List.nil_append]
    unfold nextMember
    simp [hquote]
  | false =>
    rw [membersTail, comma, if_neg Bool.false_ne_true, List.singleton_append, List.cons_append]
    unfold nextMember
    rw [skipGaps_cons (by decide)]
    simp [hquote]

end Json

end Gridlines
