import Gridlines.Json.Skip
import Gridlines.Proofs.Json.Wire

/-!
# Strings are read back

A written string is read back whatever characters it holds, and where nobody asks for it, it is
passed over up to its closing quote.

* `escapeChar_cases` : a character stands for itself or is escaped as both readers know it.
* `readString_stringTail`, `skipValue_string` : reading and passing over a written string.
-/

namespace Gridlines

namespace Json

/-! ### Escapes -/

theorem hexValue?_hexDigit {n : Nat} (h : n < 16) : hexValue? (.char (hexDigit n)) = some n := by
  have hall : ∀ m < 16, hexValue? (.char (hexDigit m)) = some m := by decide
  exact hall n h

theorem readHex_hexDigit {n : Nat} (h : n < 32) (s : Content) :
    readHex (.char '0' :: .char '0' :: .char (hexDigit (n / 16)) :: .char (hexDigit (n % 16)) :: s) =
      .ok n := by
  have hzero : hexValue? (.char '0') = some 0 := by decide
  have hmod : n % 16 < 16 := Nat.mod_lt n (by decide)
  simp only [readHex, hzero, hexValue?_hexDigit (show n / 16 < 16 by omega),
    hexValue?_hexDigit hmod]
  congr
  omega

/-- Both readers know the escape `ds` of the character: it follows a backslash. -/
def Escapes (ds : List Char) (c : Char) : Prop :=
  ∀ s : Content, readEscape (ds.map .char ++ s) = .ok (c, ds.length) ∧
    skipEscape (ds.map .char ++ s) = .ok ds.length

theorem escapes_letter {c d : Char} (hu : d ≠ 'u') (hd : escapeValue? d = some c) :
    Escapes [d] c := by
  intro s
  refine ⟨?_, ?_⟩
  · rw [List.map_singleton, List.singleton_append, readEscape, if_neg hu, hd]
    rfl
  · rw [List.map_singleton, List.singleton_append, skipEscape, if_neg hu, hd]
    rfl

theorem escapes_hex {c : Char} (h : c.toNat < 32) :
    Escapes ['u', '0', '0', hexDigit (c.toNat / 16), hexDigit (c.toNat % 16)] c := by
  intro s
  have hhex := readHex_hexDigit h s
  -- a control is no half of a surrogate pair
  have htrail : ¬(0xDC00 ≤ c.toNat ∧ c.toNat ≤ 0xDFFF) := by omega
  have hlead : ¬(0xD800 ≤ c.toNat ∧ c.toNat ≤ 0xDBFF) := by omega
  simp only [List.map_cons, List.map_nil, List.cons_append, List.nil_append]
  refine ⟨?_, ?_⟩
  · rw [readEscape, if_pos rfl, readCodePoint, hhex]
    simp only [bind, Except.bind, if_neg htrail, if_neg hlead, Char.ofNat_toNat]
    rfl
  · rw [skipEscape, if_pos rfl, hhex]
    rfl

/-- A character of a string stands for itself or is escaped. -/
theorem escapeChar_cases (c : Char) :
    (escapeChar c = [c] ∧ c ≠ '"' ∧ c ≠ '\\' ∧ 32 ≤ c.toNat) ∨
      ∃ ds, escapeChar c = '\\' :: ds ∧ Escapes ds c := by
  unfold escapeChar
  by_cases h₁ : c = '"'
  · exact .inr ⟨['"'], if_pos h₁, escapes_letter (by decide) (congrArg some h₁.symm)⟩
  rw [if_neg h₁]
  by_cases h₂ : c = '\\'
  · exact .inr ⟨['\\'], if_pos h₂, escapes_letter (by decide) (congrArg some h₂.symm)⟩
  rw [if_neg h₂]
  by_cases h₃ : c = '\x08'
  · exact .inr ⟨['b'], if_pos h₃, escapes_letter (by decide) (congrArg some h₃.symm)⟩
  rw [if_neg h₃]
  by_cases h₄ : c = '\x0c'
  · exact .inr ⟨['f'], if_pos h₄, escapes_letter (by decide) (congrArg some h₄.symm)⟩
  rw [if_neg h₄]
  by_cases h₅ : c = '\n'
  · exact .inr ⟨['n'], if_pos h₅, escapes_letter (by decide) (congrArg some h₅.symm)⟩
  rw [if_neg h₅]
  by_cases h₆ : c = '\r'
  · exact .inr ⟨['r'], if_pos h₆, escapes_letter (by decide) (congrArg some h₆.symm)⟩
  rw [if_neg h₆]
  by_cases h₇ : c = '\t'
  · exact .inr ⟨['t'], if_pos h₇, escapes_letter (by decide) (congrArg some h₇.symm)⟩
  rw [if_neg h₇]
  by_cases h₈ : c.toNat < 32
  · exact .inr ⟨_, if_pos h₈, escapes_hex h₈⟩
  rw [if_neg h₈]
  exact .inl ⟨rfl, h₁, h₂, by omega⟩

/-! ### Strings -/

theorem readString_go_skip (sound : Bool) (acc : List Char) (ds : List Char) (s : Content) :
    readString.go ds.length sound acc (ds.map .char ++ s) = readString.go 0 sound acc s := by
  induction ds with
  | nil => rfl
  | cons d ds ih =>
    rw [List.map_cons, List.cons_append, List.length_cons, readString.go]
    exact ih

theorem skipString_go_skip (ds : List Char) (s : Content) :
    skipString.go ds.length (ds.map .char ++ s) = skipString.go 0 s := by
  induction ds with
  | nil => rfl
  | cons d ds ih =>
    rw [List.map_cons, List.cons_append, List.length_cons, skipString.go]
    exact ih

theorem readString_go_flatMap (acc cs : List Char) (rest : Content) :
    readString.go 0 true acc ((cs.flatMap escapeChar).map .char ++ .char '"' :: rest) =
      .ok (.ofList (acc.reverse ++ cs), rest) := by
  induction cs generalizing acc with
  | nil =>
    rw [List.append_nil]
    rfl
  | cons c cs ih =>
    have hacc : acc.reverse ++ c :: cs = (c :: acc).reverse ++ cs := by simp
    rw [hacc, ← ih, List.flatMap_cons, List.map_append, List.append_assoc]
    obtain ⟨hc, hquote, hslash, hctl⟩ | ⟨ds, hc, hds⟩ := escapeChar_cases c
    · rw [hc, List.map_singleton, List.singleton_append, readString.go, if_neg hquote,
        if_neg hslash, if_neg (by omega)]
    · rw [hc, List.map_cons, List.cons_append, readString.go, if_neg (by decide), if_pos rfl,
        (hds _).1]
      -- the symbols of the escape are read and passed over
      exact readString_go_skip true (c :: acc) ds _

theorem skipString_go_flatMap (cs : List Char) (rest : Content) :
    skipString.go 0 ((cs.flatMap escapeChar).map .char ++ .char '"' :: rest) = .ok rest := by
  induction cs with
  | nil => rfl
  | cons c cs ih =>
    rw [← ih, List.flatMap_cons, List.map_append, List.append_assoc]
    obtain ⟨hc, hquote, hslash, hctl⟩ | ⟨ds, hc, hds⟩ := escapeChar_cases c
    · rw [hc, List.map_singleton, List.singleton_append, skipString.go, if_neg hquote,
        if_neg hslash, if_neg (by omega)]
    · rw [hc, List.map_cons, List.cons_append, skipString.go, if_neg (by decide), if_pos rfl,
        (hds _).2]
      exact skipString_go_skip ds _

theorem stringTail_append (s : String) (rest : Content) :
    stringTail s ++ rest = (s.toList.flatMap escapeChar).map .char ++ .char '"' :: rest := by
  rw [stringTail, List.map_append, List.append_assoc, List.map_singleton, List.singleton_append]

/-- A string is read back. -/
theorem readString_stringTail (s : String) (rest : Content) :
    readString (stringTail s ++ rest) = .ok (s, rest) := by
  rw [stringTail_append, readString, readString_go_flatMap, List.reverse_nil, List.nil_append,
    String.ofList_toList]

theorem skipString_stringTail (s : String) (rest : Content) :
    skipString (stringTail s ++ rest) = .ok rest := by
  rw [stringTail_append, skipString, skipString_go_flatMap]

/-- A string that nobody asks for is passed over. -/
theorem skipValue_string {steps : Nat} (hsteps : 0 < steps) (s : String) (rest : Content) :
    skipValue steps ((string s).symbols ++ rest) = .ok rest := by
  obtain ⟨n, rfl⟩ := Nat.exists_eq_add_one.2 hsteps
  rw [symbols_string, List.cons_append, skipValue, skipValue.go, skipStep, skipGaps_cons (by decide)]
  dsimp only
  rw [if_neg (by decide), if_neg (by decide), if_neg (by decide), if_neg (by decide),
    if_neg (by decide), if_pos rfl, skipString_stringTail]
  rfl

end Json

end Gridlines
