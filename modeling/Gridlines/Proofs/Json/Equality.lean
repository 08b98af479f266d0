import Gridlines.Json.Basic
import Mathlib.Tactic.Common

/-!
# Equality of JSON values

`Json.eq` compares values by their structure and knows no sign of zero: two values are equal if
they are the same once every zero has lost its sign (`Json.eq_iff`).

* `Json.induction` : induction over a value, with all items and members at once.
-/

namespace Gridlines

/-- The number, a zero without its sign. -/
def Finite.dropZeroSign (x : Finite) : Finite := if x.isZero then zero else x

theorem Finite.eq_iff {x y : Finite} : x.eq y ↔ x.dropZeroSign = y.dropZeroSign := by
  obtain ⟨s, m, hm⟩ := x
  obtain ⟨t, n, hn⟩ := y
  simp only [eq, signedRank, dropZeroSign, isZero, zero, beq_iff_eq]
  by_cases hm0 : m = 0 <;> by_cases hn0 : n = 0 <;> cases s <;> cases t <;> simp [hm0, hn0] <;> omega

namespace Json

/-- Induction over a value: the items of an array and the values of an object's members come
before the array and the object. -/
@[elab_as_elim]
theorem induction {P : Json → Prop} (null : P null) (bool : ∀ b, P (bool b))
    (number : ∀ n, P (number n)) (string : ∀ s, P (string s))
    (array : ∀ xs, (∀ x ∈ xs, P x) → P (array xs))
    (object : ∀ ms, (∀ m ∈ ms, P m.2) → P (object ms)) (x : Json) : P x := by
  refine Json.rec (motive_1 := P) (motive_2 := fun xs => ∀ x ∈ xs, P x)
    (motive_3 := fun ms => ∀ m ∈ ms, P m.2) (motive_4 := fun m => P m.2)
    null bool number string array object ?_ ?_ ?_ ?_ ?_ x
  · exact fun _ h => nomatch h
  · exact fun _ _ hx hxs => List.forall_mem_cons.2 ⟨hx, hxs⟩
  · exact fun _ h => nomatch h
  · exact fun _ _ hm hms => List.forall_mem_cons.2 ⟨hm, hms⟩
  · exact fun _ _ hx => hx

/-- The number, a zero without its sign. -/
def Number.dropZeroSign : Number → Number
  | int n => int n
  | float x => float x.dropZeroSign

mutual

/-- The value, every zero in it without its sign. -/
def dropZeroSigns : Json → Json
  | null => null
  | bool b => bool b
  | number n => number n.dropZeroSign
  | string s => string s
  | array xs => array (dropZeroSignsItems xs)
  | object ms => object (dropZeroSignsMembers ms)

/-- The items, every zero in them without its sign. -/
def dropZeroSignsItems : List Json → List Json
  | [] => []
  | x :: xs => x.dropZeroSigns :: dropZeroSignsItems xs

/-- The members, every zero in them without its sign. -/
def dropZeroSignsMembers : List (String × Json) → List (String × Json)
  | [] => []
  | (k, x) :: ms => (k, x.dropZeroSigns) :: dropZeroSignsMembers ms

end

theorem Number.eq_iff {m n : Number} : m.eq n ↔ m.dropZeroSign = n.dropZeroSign := by
  cases m <;> cases n <;> simp [Number.eq, Number.dropZeroSign, Finite.eq_iff]

theorem eqItems_iff {xs : List Json} (h : ∀ x ∈ xs, ∀ y, x.eq y ↔ x.dropZeroSigns = y.dropZeroSigns)
    (ys : List Json) : eqItems xs ys ↔ dropZeroSignsItems xs = dropZeroSignsItems ys := by
  induction xs generalizing ys with
  | nil => cases ys <;> simp [eqItems, dropZeroSignsItems]
  | cons x xs ih =>
    obtain ⟨hx, hxs⟩ := List.forall_mem_cons.1 h
    cases ys with
    | nil => simp [eqItems, dropZeroSignsItems]
    | cons y ys => simp [eqItems, dropZeroSignsItems, hx, ih hxs]

theorem eqMembers_iff {ms : List (String × Json)}
    (h : ∀ m ∈ ms, ∀ y, m.2.eq y ↔ m.2.dropZeroSigns = y.dropZeroSigns)
    (ns : List (String × Json)) :
    eqMembers ms ns ↔ dropZeroSignsMembers ms = dropZeroSignsMembers ns := by
  induction ms generalizing ns with
  | nil => cases ns <;> simp [eqMembers, dropZeroSignsMembers]
  | cons m ms ih =>
    obtain ⟨hm, hms⟩ := List.forall_mem_cons.1 h
    cases ns with
    | nil => simp [eqMembers, dropZeroSignsMembers]
    | cons n ns => simp [eqMembers, dropZeroSignsMembers, hm, ih hms]

/-- **Values are equal if they are the same but for the signs of zeros.** -/
theorem eq_iff (x y : Json) : x.eq y ↔ x.dropZeroSigns = y.dropZeroSigns := by
  induction x using Json.induction generalizing y with
  | null => cases y <;> simp [eq, dropZeroSigns]
  | bool b => cases y <;> simp [eq, dropZeroSigns]
  | number n => cases y <;> simp [eq, dropZeroSigns, Number.eq_iff]
  | string s => cases y <;> simp [eq, dropZeroSigns]
  | array xs ih => cases y <;> simp [eq, dropZeroSigns, eqItems_iff ih]
  | object ms ih => cases y <;> simp [eq, dropZeroSigns, eqMembers_iff ih]

end Json

end Gridlines
