import Gridlines.Proofs.Json.Settled
import Gridlines.Proofs.Json.Strings

/-!
# Values are read back

A settled value is read back from its text.  The text says nothing about how many levels the reader
still has or what follows the value, so the statement holds at every place where the value may
stand: with as many levels as the value needs, and before any delimiter.  Of the floats in the value
it is assumed that they are read back from their own texts, where nothing else stands.

* `Json.floats` : the floats in a value, and `Finite.ReadsBack` the assumption about each of them.
* `readItems_symbols`, `readMembers_symbols` : the loops, given a reader of the items.
* `readValue_symbols` : a settled value is read back.
* `read_object` : so is an object of settled values, its members then in the order of their names.
-/

namespace Gridlines

/-- The float is read back from its JSON text. -/
def Finite.ReadsBack (x : Finite) : Prop :=
  Json.read (Symbol.ofString (Json.numberStyle.write x)) = .ok (.number (.float x))

theorem Finite.readsBack_iff (x : Finite) :
    x.ReadsBack ↔
      (match Json.read (Symbol.ofString (Json.numberStyle.write x)) with
        | .ok (.number (.float y)) => some y
        | _ => none) = some x := by
  rw [ReadsBack]
  constructor
  · intro h
    rw [h]
  · intro h
    split at h
    · next heq =>
      cases h
      exact heq
    · cases h

instance (x : Finite) : Decidable x.ReadsBack := decidable_of_iff _ x.readsBack_iff.symm

namespace Json

mutual

/-- The floats in a value. -/
def floats : Json → List Finite
  | number (.float x) => [x]
  | array xs => floatsOfItems xs
  | object ms => floatsOfMembers ms
  | _ => []

/-- The floats in a list of items. -/
def floatsOfItems : List Json → List Finite
  | [] => []
  | x :: xs => x.floats ++ floatsOfItems xs

/-- The floats in a list of members. -/
def floatsOfMembers : List (String × Json) → List Finite
  | [] => []
  | (_, x) :: ms => x.floats ++ floatsOfMembers ms

end

theorem mem_floats_array {xs : List Json} {f : Finite} :
    f ∈ (array xs).floats ↔ ∃ x ∈ xs, f ∈ x.floats := by
  rw [floats]
  induction xs with
  | nil => simp [floatsOfItems]
  | cons x xs ih => simp [floatsOfItems, ih]

theorem mem_floats_object {ms : List (String × Json)} {f : Finite} :
    f ∈ (object ms).floats ↔ ∃ e ∈ ms, f ∈ e.2.floats := by
  rw [floats]
  induction ms with
  | nil => simp [floatsOfMembers]
  | cons e ms ih => simp [floatsOfMembers, ih]

/-! ### Numbers -/

/-- The number is read back where its text stands alone. -/
def Number.Readable (n : Number) : Prop :=
  (∃ s, n.text = '-' :: s ∧ readNumber true (s.map .char) = .ok (n, [])) ∨
    ∃ c s, n.text = c :: s ∧ c.isDigit ∧ readNumber false (n.text.map .char) = .ok (n, [])

theorem Number.readable_int {i : Int} (h : (int i).InRange) : (int i).Readable := by
  obtain ⟨hlow, hhigh⟩ := h
  rw [Readable, text, integerText]
  split
  · refine .inl ⟨_, rfl, ?_⟩
    rw [readNumber_true_toDigits (by omega) (by omega)]
    congr
    omega
  · obtain ⟨c, s, hcs⟩ := List.exists_cons_of_ne_nil (Nat.toDigits_ne_nil (n := i.natAbs) (b := 10))
    have hc : c ∈ Nat.toDigits 10 i.natAbs := hcs ▸ List.mem_cons_self
    refine .inr ⟨c, s, hcs, Nat.isDigit_of_mem_toDigits (by decide) (by decide) hc, ?_⟩
    rw [readNumber_false_toDigits (by omega)]
    congr
    omega

theorem eq_nil_of_readEnd {s r : Content} (hs : ∀ a ∈ s, isGap a = false) (hr : r <:+ s)
    (h : readEnd r = .ok ()) : r = [] := by
  cases r with
  | nil => rfl
  | cons a r =>
    rw [readEnd, skipGaps_cons (hs a (hr.subset List.mem_cons_self))] at h
    cases h

theorem isGap_of_isNumeric {c : Char} (h : isNumeric c) : isGap (.char c) = false := by
  have hc := (opensValue_of_isNumeric h).1
  simp_all [opensValue]

theorem Number.readable_float {x : Finite} (h : x.ReadsBack) : (float x).Readable := by
  have htext : Symbol.ofString (numberStyle.write x) = (number (.float x)).symbols := by
    rw [← ofString_compact]
    rfl
  -- no blank stands in the text, so nothing is left after the number
  have hgap : ∀ a ∈ (float x).text.map Symbol.char, isGap a = false := by
    intro a ha
    obtain ⟨c, hc, rfl⟩ := List.mem_map.1 ha
    exact isGap_of_isNumeric (isNumeric_text (float x) c hc)
  rw [Finite.ReadsBack, htext] at h
  obtain ⟨⟨y, r⟩, hy, h⟩ := bind_eq_ok h
  obtain ⟨u, hend, h⟩ := bind_eq_ok h
  cases h
  obtain ⟨c, t, hs, hx⟩ := readValueWith_cases hy
  have hskip := skipGaps_symbols (number (.float x)) []
  rw [List.append_nil] at hskip
  rw [hskip] at hs
  obtain ⟨c', cs, hcs, hc, rfl⟩ := List.map_eq_cons_iff.1 hs
  cases hc
  rw [compactChars] at hcs
  have htail : cs.map Symbol.char <:+ (float x).text.map Symbol.char := by
    rw [hcs]
    exact List.suffix_cons _ _
  obtain ⟨-, h⟩ | ⟨b, h⟩ | ⟨k, h⟩ | ⟨n, h, hn⟩ | ⟨xs, h, -⟩ | ⟨ms, h, -⟩ := hx
  · cases h
  · cases h
  · cases h
  · cases h
    obtain ⟨rfl, hn⟩ | ⟨hc, hn⟩ := hn
    · obtain rfl := eq_nil_of_readEnd hgap ((readNumber_suffix hn).trans htail) hend
      exact .inl ⟨cs, hcs, hn⟩
    · rw [← List.map_cons, ← hcs] at hn
      obtain rfl := eq_nil_of_readEnd hgap (readNumber_suffix hn) hend
      exact .inr ⟨c, cs, hcs, hc, hn⟩
  · cases h
  · cases h

/-- A number is read back before any delimiter. -/
theorem readValueWith_number {n : Number} (h : n.Readable)
    (items : Content → Except Fault (List Json × Content))
    (members : Content → Except Fault (List (String × Json) × Content)) {rest : Content}
    (hrest : Delimited rest) :
    readValueWith items members ((number n).symbols ++ rest) = .ok (number n, rest) := by
  have hskip := skipGaps_symbols (number n) rest
  rw [symbols, compactChars] at hskip ⊢
  unfold readValueWith
  rw [hskip]
  obtain ⟨s, hs, hn⟩ | ⟨c, s, hs, hc, hn⟩ := h
  · rw [hs, List.map_cons, List.cons_append]
    dsimp only
    rw [if_neg (by decide), if_neg (by decide), if_neg (by decide), if_neg (by decide), if_pos rfl,
      readNumber_append hrest hn]
    rfl
  · have hne : ∀ d : Char, ¬d.isDigit → c ≠ d := by
      rintro d hd rfl
      exact hd hc
    have hn := readNumber_append hrest hn
    rw [hs, List.map_cons, List.cons_append] at hn ⊢
    dsimp only
    rw [if_neg (hne 'n' (by decide)), if_neg (hne 't' (by decide)), if_neg (hne 'f' (by decide)),
      if_neg (hne '"' (by decide)), if_neg (hne '-' (by decide)), if_pos hc, hn]
    rfl

/-! ### Items and members -/

theorem length_symbols_pos (x : Json) : 0 < x.symbols.length := by
  obtain ⟨c, s, hx, -⟩ := x.symbols_head
  rw [hx]
  exact Nat.zero_lt_succ _

theorem length_lt_itemsTail (isFirst : Bool) (xs : List Json) :
    xs.length < (itemsTail isFirst xs).length := by
  induction xs generalizing isFirst with
  | nil => exact Nat.zero_lt_one
  | cons x xs ih =>
    have hx := x.length_symbols_pos
    have hxs := ih false
    simp only [itemsTail, List.length_append, List.length_cons]
    omega

theorem length_le_itemsTail (isFirst : Bool) {xs : List Json} {x : Json} (hx : x ∈ xs) :
    x.symbols.length ≤ (itemsTail isFirst xs).length := by
  induction xs generalizing isFirst with
  | nil => cases hx
  | cons y ys ih =>
    simp only [itemsTail, List.length_append]
    obtain rfl | hx := List.mem_cons.1 hx
    · omega
    · have := ih false hx
      omega

theorem length_lt_membersTail (isFirst : Bool) (ms : List (String × Json)) :
    ms.length < (membersTail isFirst ms).length := by
  induction ms generalizing isFirst with
  | nil => exact Nat.zero_lt_one
  | cons e ms ih =>
    have hms := ih false
    simp only [membersTail, List.length_append, List.length_cons]
    omega

theorem length_le_membersTail (isFirst : Bool) {ms : List (String × Json)} {e : String × Json}
    (he : e ∈ ms) : e.2.symbols.length ≤ (membersTail isFirst ms).length := by
  induction ms generalizing isFirst with
  | nil => cases he
  | cons d ms ih =>
    obtain ⟨k, y⟩ := d
    simp only [membersTail, List.length_append, List.length_cons]
    obtain rfl | he := List.mem_cons.1 he
    · dsimp only
      omega
    · have := ih false he
      omega

section

variable {item : Content → Except Fault (Json × Content)} {rest : Content}

theorem readItems_go_itemsTail {turns : Nat} (acc : List Json) {xs : List Json}
    (hitem : ∀ x ∈ xs, ∀ s, Delimited s → item (x.symbols ++ s) = .ok (x, s))
    (hturns : xs.length < turns) :
    readItems.go item turns acc (itemsTail acc.isEmpty xs ++ rest) =
      .ok (acc.reverse ++ xs, rest) := by
  induction xs generalizing turns acc with
  | nil =>
    obtain ⟨n, rfl⟩ := Nat.exists_eq_add_one.2 hturns
    rw [readItems.go, nextItem_nil, List.append_nil]
    rfl
  | cons x xs ih =>
    obtain ⟨n, rfl⟩ := Nat.exists_eq_add_one.2 (Nat.zero_lt_of_lt hturns)
    obtain ⟨hx, hxs⟩ := List.forall_mem_cons.1 hitem
    have hacc : acc.reverse ++ x :: xs = (x :: acc).reverse ++ xs := by simp
    -- one turn reads `x`; from then on a comma is expected
    rw [readItems.go, nextItem_cons]
    dsimp only
    rw [hx _ (delimited_itemsTail xs rest), hacc]
    exact ih (x :: acc) hxs (Nat.lt_of_succ_lt_succ hturns)

/-- The items of an array are read back if each of them is. -/
theorem readItems_symbols {turns : Nat} {xs : List Json}
    (hitem : ∀ x ∈ xs, x.symbols.length ≤ turns →
      ∀ s, Delimited s → item (x.symbols ++ s) = .ok (x, s))
    (hturns : (array xs).symbols.length ≤ turns) :
    readItems item turns (itemsTail true xs ++ rest) = .ok (xs, rest) := by
  rw [symbols_array, List.length_cons] at hturns
  refine readItems_go_itemsTail [] (fun x hx => hitem x hx ?_) ?_
  · have hlen := length_le_itemsTail true hx
    omega
  · have hlen := length_lt_itemsTail true xs
    omega

theorem readColon_colon (s : Content) : readColon (.char ':' :: s) = .ok s := rfl

theorem readMembers_go_membersTail {turns : Nat} (acc : List (String × Json))
    {ms : List (String × Json)}
    (hitem : ∀ e ∈ ms, ∀ s, Delimited s → item (e.2.symbols ++ s) = .ok (e.2, s))
    (hturns : ms.length < turns) :
    readMembers.go item turns acc (membersTail acc.isEmpty ms ++ rest) =
      .ok (acc.reverse ++ ms, rest) := by
  induction ms generalizing turns acc with
  | nil =>
    obtain ⟨n, rfl⟩ := Nat.exists_eq_add_one.2 hturns
    rw [readMembers.go, nextMember_nil, List.append_nil]
    rfl
  | cons e ms ih =>
    obtain ⟨k, x⟩ := e
    obtain ⟨n, rfl⟩ := Nat.exists_eq_add_one.2 (Nat.zero_lt_of_lt hturns)
    obtain ⟨hx, hms⟩ := List.forall_mem_cons.1 hitem
    have hacc : acc.reverse ++ (k, x) :: ms = ((k, x) :: acc).reverse ++ ms := by simp
    rw [readMembers.go, nextMember_cons]
    dsimp only
    rw [readString_stringTail, ok_bind]
    dsimp only
    rw [readColon_colon, ok_bind, hx _ (delimited_membersTail ms rest), ok_bind, hacc]
    exact ih ((k, x) :: acc) hms (Nat.lt_of_succ_lt_succ hturns)

/-- The members of an object are read back if each of their values is. -/
theorem readMembers_symbols {turns : Nat} {ms : List (String × Json)}
    (hitem : ∀ e ∈ ms, e.2.symbols.length ≤ turns →
      ∀ s, Delimited s → item (e.2.symbols ++ s) = .ok (e.2, s))
    (hturns : (object ms).symbols.length ≤ turns) :
    readMembers item turns (membersTail true ms ++ rest) = .ok (ms, rest) := by
  rw [symbols_object, List.length_cons] at hturns
  refine readMembers_go_membersTail [] (fun e he => hitem e he ?_) ?_
  · have hlen := length_le_membersTail true he
    omega
  · have hlen := length_lt_membersTail true ms
    omega

end

/-! ### Values -/

theorem readValue_of_readValueWith {turns n : Nat} {s r : Content} {x : Json}
    (h : ∀ items members, readValueWith items members s = .ok (x, r)) :
    readValue turns n s = .ok (x, r) := by
  cases n with
  | zero => exact h _ _
  | succ n => exact h _ _

theorem readValue_array {turns n : Nat} {s r : Content} {xs : List Json}
    (h : readItems (readValue turns n) turns s = .ok (xs, r)) :
    readValue turns (n + 1) (.char '[' :: s) = .ok (array xs, r) := by
  rw [readValue, readValueWith, skipGaps_cons (by decide)]
  dsimp only
  rw [if_neg (by decide), if_neg (by decide), if_neg (by decide), if_neg (by decide),
    if_neg (by decide), if_neg (by decide), if_pos rfl, h]
  rfl

theorem readValue_object {turns n : Nat} {s r : Content} {ms : List (String × Json)}
    (h : readMembers (readValue turns n) turns s = .ok (ms, r)) :
    readValue turns (n + 1) (.char '\x7b' :: s) =
      .ok (object (SortedMap.ofList ms).entries, r) := by
  rw [readValue, readValueWith, skipGaps_cons (by decide)]
  dsimp only
  rw [if_neg (by decide), if_neg (by decide), if_neg (by decide), if_neg (by decide),
    if_neg (by decide), if_neg (by decide), if_neg (by decide), if_pos rfl, h]
  rfl

theorem readValueWith_string (items : Content → Except Fault (List Json × Content))
    (members : Content → Except Fault (List (String × Json) × Content)) (s : String)
    (rest : Content) :
    readValueWith items members ((string s).symbols ++ rest) = .ok (string s, rest) := by
  rw [symbols_string, List.cons_append, readValueWith, skipGaps_cons (by decide)]
  dsimp only
  rw [if_neg (by decide), if_neg (by decide), if_neg (by decide), if_pos rfl,
    readString_stringTail]
  rfl

/-- **A settled value is read back from its text**, with at least as many turns as the text has
symbols, before any delimiter. -/
theorem readValue_symbols {n turns : Nat} {x : Json} (hx : x.Settled n)
    (hf : ∀ f ∈ x.floats, f.ReadsBack) (hturns : x.symbols.length ≤ turns) {rest : Content}
    (hrest : Delimited rest) : readValue turns n (x.symbols ++ rest) = .ok (x, rest) := by
  induction hx generalizing rest with
  | null => exact readValue_of_readValueWith fun _ _ => rfl
  | bool b => cases b <;> exact readValue_of_readValueWith fun _ _ => rfl
  | string s => exact readValue_of_readValueWith fun _ _ => readValueWith_string _ _ s rest
  | @number n m hm =>
    refine readValue_of_readValueWith fun _ _ => readValueWith_number ?_ _ _ hrest
    cases m with
    | int i => exact Number.readable_int hm
    | float f => exact Number.readable_float (hf f (by simp [floats]))
  | @array n xs _ ih =>
    rw [symbols_array, List.cons_append]
    refine readValue_array (readItems_symbols (fun x hx hlen s hs => ?_) hturns)
    exact ih x hx (fun f h => hf f (mem_floats_array.2 ⟨x, hx, h⟩)) hlen hs
  | @object n ms hsorted _ ih =>
    have hms : readMembers (readValue turns n) turns (membersTail true ms ++ rest) =
        .ok (ms, rest) := by
      refine readMembers_symbols (fun e he hlen s hs => ?_) hturns
      exact ih e he (fun f h => hf f (mem_floats_object.2 ⟨e, he, h⟩)) hlen hs
    -- the members are in order already, so their map has the same entries
    rw [symbols_object, List.cons_append, readValue_object hms, SortedMap.entries_ofList hsorted]

/-- An object whose values are settled is read back with its members in the order of their names;
of two members of one name the later one is kept. -/
theorem read_object {ms : List (String × Json)} (hms : ∀ e ∈ ms, e.2.Settled 126)
    (hf : ∀ e ∈ ms, ∀ f ∈ e.2.floats, f.ReadsBack) :
    read (Symbol.ofString (object ms).compact) = .ok (object (SortedMap.ofList ms).entries) := by
  have hread : readMembers (readValue (object ms).symbols.length 126) (object ms).symbols.length
      (membersTail true ms ++ []) = .ok (ms, []) := by
    refine readMembers_symbols (fun e he hlen s hs => ?_) le_rfl
    exact readValue_symbols (hms e he) (hf e he) hlen hs
  rw [List.append_nil] at hread
  rw [ofString_compact, read, depthLimit, symbols_object]
  rw [symbols_object] at hread
  rw [readValue_object hread]
  rfl

end Json

end Gridlines
