import Gridlines.Proofs.Json.Equality
import Gridlines.Proofs.Json.Wire

/-!
# The two layouts of a value

A value on many lines is the value without blanks, with blanks between its marks.  Blanks inside
strings are not between marks, so what is deleted depends on the quotes and escapes before it: a
text is read from left to right, and it is known at each character whether it stands in a string.

* `dropBlanks` : a text without the blanks outside of its strings.
* `dropBlanks_prettyChars` : the characters of a value at any level.
* `withoutBlanks_pretty` : the two layouts of a value.
-/

namespace Gridlines

namespace Json

/-- Where a character of a text stands. -/
inductive Place where
  | outside
  /-- In a string. -/
  | inside
  /-- In a string, after a backslash. -/
  | escaped
  deriving DecidableEq

/-- The place after a character. -/
def Place.next (c : Char) : Place → Place
  | outside => if c = '"' then inside else outside
  | inside => if c = '"' then outside else if c = '\\' then escaped else inside
  | escaped => inside

/-- A text from some place on, without the blanks outside of its strings. -/
def dropBlanks (place : Place) : List Char → List Char
  | [] => []
  | c :: cs =>
    if place = .outside ∧ c.isWhitespace then dropBlanks place cs
    else c :: dropBlanks (place.next c) cs

/-- A text without the blanks outside of its strings. -/
def withoutBlanks (s : String) : String := .ofList (dropBlanks .outside s.toList)

variable (rest : List Char)

/-! ### Outside of strings -/

theorem dropBlanks_blank {c : Char} (h : c.isWhitespace) :
    dropBlanks .outside (c :: rest) = dropBlanks .outside rest := by
  simp [dropBlanks, h]

theorem dropBlanks_mark {c : Char} (h : c.isWhitespace = false) (hquote : c ≠ '"') :
    dropBlanks .outside (c :: rest) = c :: dropBlanks .outside rest := by
  simp [dropBlanks, Place.next, h, hquote]

theorem dropBlanks_newLine (level : Nat) :
    dropBlanks .outside (newLine level ++ rest) = dropBlanks .outside rest := by
  have hblanks : ∀ n, dropBlanks .outside (List.replicate n ' ' ++ rest) =
      dropBlanks .outside rest := by
    intro n
    induction n with
    | zero => rfl
    | succ n ih => rw [List.replicate_succ, List.cons_append, dropBlanks_blank _ (by decide), ih]
  rw [newLine, List.cons_append, dropBlanks_blank _ (by decide), hblanks]

/-- A word or a number is kept. -/
theorem dropBlanks_word {cs : List Char} (h : ∀ c ∈ cs, c.isWhitespace = false ∧ c ≠ '"') :
    dropBlanks .outside (cs ++ rest) = cs ++ dropBlanks .outside rest := by
  induction cs with
  | nil => rfl
  | cons c cs ih =>
    obtain ⟨⟨hblank, hquote⟩, hcs⟩ := List.forall_mem_cons.1 h
    rw [List.cons_append, dropBlanks_mark _ hblank hquote, ih hcs, List.cons_append]

theorem isWhitespace_of_isNumeric {c : Char} (h : isNumeric c) :
    c.isWhitespace = false ∧ c ≠ '"' := by
  have hnone : [' ', '\t', '\r', '\n', '"'].all (!isNumeric ·) := by decide
  have hne : ∀ d ∈ [' ', '\t', '\r', '\n', '"'], c ≠ d := by
    rintro d hd rfl
    have hd' := List.all_eq_true.1 hnone c hd
    simp [h] at hd'
  simp_all [Char.isWhitespace]

/-! ### In strings -/

theorem dropBlanks_inside {c : Char} (hquote : c ≠ '"') (hslash : c ≠ '\\') :
    dropBlanks .inside (c :: rest) = c :: dropBlanks .inside rest := by
  simp [dropBlanks, Place.next, hquote, hslash]

/-- After a backslash any character is kept, also a quote or another backslash. -/
theorem dropBlanks_escape (c : Char) :
    dropBlanks .inside ('\\' :: c :: rest) = '\\' :: c :: dropBlanks .inside rest := by
  simp [dropBlanks, Place.next]

theorem hexDigit_ne {n : Nat} (h : n < 16) : hexDigit n ≠ '"' ∧ hexDigit n ≠ '\\' := by
  have hall : ∀ m < 16, hexDigit m ≠ '"' ∧ hexDigit m ≠ '\\' := by decide
  exact hall n h

theorem dropBlanks_escapeChar (c : Char) :
    dropBlanks .inside (escapeChar c ++ rest) = escapeChar c ++ dropBlanks .inside rest := by
  unfold escapeChar
  split_ifs with h₁ h₂ _ _ _ _ _ h₈
  -- a backslash and a letter, then the four digits of a control, then the character itself
  iterate 7 exact dropBlanks_escape rest _
  · obtain ⟨hquote, hslash⟩ := hexDigit_ne (n := c.toNat / 16) (by omega)
    obtain ⟨hquote', hslash'⟩ := hexDigit_ne (n := c.toNat % 16) (by omega)
    have hzero : ∀ s, dropBlanks .inside ('0' :: s) = '0' :: dropBlanks .inside s :=
      fun s => dropBlanks_inside s (by decide) (by decide)
    simp only [List.cons_append, List.nil_append, dropBlanks_escape, hzero,
      dropBlanks_inside _ hquote hslash, dropBlanks_inside _ hquote' hslash']
  · exact dropBlanks_inside rest h₁ h₂

theorem dropBlanks_stringText (s : String) :
    dropBlanks .outside (stringText s ++ rest) = stringText s ++ dropBlanks .outside rest := by
  have hbody : ∀ cs : List Char, dropBlanks .inside (cs.flatMap escapeChar ++ '"' :: rest) =
      cs.flatMap escapeChar ++ '"' :: dropBlanks .outside rest := by
    intro cs
    induction cs with
    | nil => rfl
    | cons c cs ih =>
      simp only [List.flatMap_cons, List.append_assoc, dropBlanks_escapeChar, ih]
  have hopen : ∀ t, dropBlanks .outside ('"' :: t) = '"' :: dropBlanks .inside t := fun _ => rfl
  simp only [stringText, List.cons_append, List.append_assoc, List.nil_append, hopen, hbody]

/-! ### Values -/

theorem dropBlanks_comma : dropBlanks .outside (',' :: rest) = ',' :: dropBlanks .outside rest :=
  dropBlanks_mark rest (by decide) (by decide)

theorem dropBlanks_prettyItems {xs : List Json}
    (h : ∀ x ∈ xs, ∀ level rest, dropBlanks .outside (x.prettyChars level ++ rest) =
      x.compactChars ++ dropBlanks .outside rest) (level : Nat) :
    dropBlanks .outside (prettyItems level xs ++ rest) =
      compactItems xs ++ dropBlanks .outside rest := by
  have hclose : ∀ s, dropBlanks .outside (']' :: s) = ']' :: dropBlanks .outside s :=
    fun s => dropBlanks_mark s (by decide) (by decide)
  induction xs with
  | nil =>
    simp only [prettyItems, compactItems, List.append_assoc, List.cons_append, List.nil_append,
      dropBlanks_newLine, hclose]
  | cons x xs ih =>
    obtain ⟨hx, hxs⟩ := List.forall_mem_cons.1 h
    cases xs with
    | nil =>
      simp only [prettyItems, compactItems, List.append_assoc, List.cons_append, List.nil_append,
        dropBlanks_newLine, hx, hclose]
    | cons y ys =>
      simp only [prettyItems, compactItems, List.append_assoc, List.cons_append,
        dropBlanks_newLine, hx, dropBlanks_comma, ih hxs]

theorem dropBlanks_prettyMembers {ms : List (String × Json)}
    (h : ∀ m ∈ ms, ∀ level rest, dropBlanks .outside (m.2.prettyChars level ++ rest) =
      m.2.compactChars ++ dropBlanks .outside rest) (level : Nat) :
    dropBlanks .outside (prettyMembers level ms ++ rest) =
      compactMembers ms ++ dropBlanks .outside rest := by
  have hclose : ∀ s, dropBlanks .outside ('\x7d' :: s) = '\x7d' :: dropBlanks .outside s :=
    fun s => dropBlanks_mark s (by decide) (by decide)
  have hcolon : ∀ s, dropBlanks .outside (':' :: ' ' :: s) = ':' :: dropBlanks .outside s :=
    fun _ => rfl
  induction ms with
  | nil =>
    simp only [prettyMembers, compactMembers, List.append_assoc, List.cons_append, List.nil_append,
      dropBlanks_newLine, hclose]
  | cons m ms ih =>
    obtain ⟨hm, hms⟩ := List.forall_mem_cons.1 h
    obtain ⟨k, x⟩ := m
    cases ms with
    | nil =>
      simp only [prettyMembers, compactMembers, List.append_assoc, List.cons_append,
        List.nil_append, dropBlanks_newLine, dropBlanks_stringText, hcolon, hm, hclose]
    | cons m' ms =>
      simp only [prettyMembers, compactMembers, List.append_assoc, List.cons_append,
        dropBlanks_newLine, dropBlanks_stringText, hcolon, hm, dropBlanks_comma, ih hms]

/-- A value on many lines, at any level, is the value without blanks once they are deleted. -/
theorem dropBlanks_prettyChars (x : Json) (level : Nat) :
    dropBlanks .outside (x.prettyChars level ++ rest) =
      x.compactChars ++ dropBlanks .outside rest := by
  induction x using Json.induction generalizing level rest with
  | null => rfl
  | bool b => cases b <;> rfl
  | number n =>
    simp only [prettyChars, compactChars]
    exact dropBlanks_word rest fun c hc => isWhitespace_of_isNumeric (isNumeric_text n c hc)
  | string s => exact dropBlanks_stringText rest s
  | array xs ih =>
    have hopen : ∀ s, dropBlanks .outside ('[' :: s) = '[' :: dropBlanks .outside s :=
      fun s => dropBlanks_mark s (by decide) (by decide)
    cases xs with
    | nil => rfl
    | cons x xs =>
      simp only [prettyChars, compactChars, List.cons_append, hopen]
      rw [dropBlanks_prettyItems rest (fun x hx level rest => ih x hx rest level)]
  | object ms ih =>
    have hopen : ∀ s, dropBlanks .outside ('\x7b' :: s) = '\x7b' :: dropBlanks .outside s :=
      fun s => dropBlanks_mark s (by decide) (by decide)
    cases ms with
    | nil => rfl
    | cons m ms =>
      simp only [prettyChars, compactChars, List.cons_append, hopen]
      rw [dropBlanks_prettyMembers rest (fun m hm level rest => ih m hm rest level)]

/-- **The two layouts differ in blanks outside of strings** and in nothing else. -/
theorem withoutBlanks_pretty (x : Json) : withoutBlanks (x.pretty ++ "\n") = x.compact := by
  have hline : dropBlanks .outside ("\n".toList) = [] := by decide
  rw [withoutBlanks, pretty, compact, String.toList_append, String.toList_ofList,
    dropBlanks_prettyChars, hline, List.append_nil]

end Json

end Gridlines
