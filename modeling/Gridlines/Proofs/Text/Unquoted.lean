import Gridlines.Text.Quoted
import Mathlib.Data.Nat.Digits.Defs

/-!
# Reading quoted text

Quoted text is read one character at a time.  Behind a backslash a letter stands for a character, or
the code point of a character is spelled between braces.  The quote that closes the text is the last
character that is read, so nothing inside the text can end it.

* `Unquoting.step` : reading one more character.
* `foldlM_step_quoteChar` : a character is read back.
* `unquote?_quoted` : a text is read back.
* `not_isControl_of_mem_quoted` : quoted text stays on its line.
-/

namespace Gridlines

/-- How far a quoted text has been read, and what it says so far. -/
inductive Unquoting where
  /-- The text has not been opened. -/
  | outside
  /-- The text has been opened. -/
  | inside (said : List Char)
  /-- There was a backslash. -/
  | escape (said : List Char)
  /-- A code point follows. -/
  | brace (said : List Char)
  /-- Some digits of a code point have been read. -/
  | code (said : List Char) (ds : List Nat)
  /-- The text has been closed. -/
  | closed (said : List Char)

/-- What a letter behind a backslash stands for. -/
def escapedLetter? : Char → Option Char
  | '"' => some '"'
  | '\\' => some '\\'
  | 'n' => some '\n'
  | 'r' => some '\r'
  | 't' => some '\t'
  | '0' => some '\x00'
  | _ => none

/-- The value of a hexadecimal digit. -/
def hexDigit? (c : Char) : Option Nat := "0123456789abcdef".toList.idxOf? c.toLower

/-- The value of hexadecimal digits. -/
def hexValue (ds : List Nat) : Nat := ds.foldl (fun n d => 16 * n + d) 0

/-- The character of a code point that is spelled with one to six digits. -/
def codeChar? (ds : List Nat) : Option Char :=
  if (1 ≤ ds.length ∧ ds.length ≤ 6) ∧ (hexValue ds).isValidChar then some (.ofNat (hexValue ds))
  else none

namespace Unquoting

/-- Reading one more character. -/
def step : Unquoting → Char → Option Unquoting
  | outside, c => if c = '"' then some (inside []) else none
  | inside said, c =>
    if c = '"' then some (closed said)
    else if c = '\\' then some (escape said)
    else some (inside (said ++ [c]))
  | escape said, c =>
    if c = 'u' then some (brace said)
    else (escapedLetter? c).map fun d => inside (said ++ [d])
  | brace said, c => if c = '{' then some (code said []) else none
  | code said ds, c =>
    if c = '}' then (codeChar? ds).map fun d => inside (said ++ [d])
    else (hexDigit? c).map fun d => code said (ds ++ [d])
  | closed _, _ => none

/-- What a text says that has been read to its end. -/
def said? : Unquoting → Option (List Char)
  | closed said => some said
  | _ => none

end Unquoting

/-- What a quoted text says. -/
def unquote? (cs : List Char) : Option (List Char) :=
  (cs.foldlM Unquoting.step .outside).bind Unquoting.said?

/-- The controls: the line breaks and whatever else has no place on a line. -/
def IsControl (c : Char) : Prop := c.toNat < 0x20 ∨ 0x7F ≤ c.toNat ∧ c.toNat < 0xA0

instance (c : Char) : Decidable (IsControl c) :=
  inferInstanceAs (Decidable (c.toNat < 0x20 ∨ 0x7F ≤ c.toNat ∧ c.toNat < 0xA0))

theorem not_isControl_of_all {cs : List Char} (h : cs.all fun c => !decide (IsControl c)) :
    ∀ c ∈ cs, ¬IsControl c := by
  simpa using h

/-! ### Code points -/

theorem hexDigit?_digitChar {d : Nat} (h : d < 16) : hexDigit? d.digitChar = some d := by
  have hall : ∀ d < 16, hexDigit? d.digitChar = some d := by decide
  exact hall d h

theorem digitChar_ne_brace {d : Nat} (h : d < 16) : d.digitChar ≠ '}' := by
  have hall : ∀ d < 16, Nat.digitChar d ≠ '}' := by decide
  exact hall d h

theorem not_isControl_digitChar {d : Nat} (h : d < 16) : ¬IsControl d.digitChar := by
  have hall : ∀ d < 16, ¬IsControl d.digitChar := by decide
  exact hall d h

/-- The digits with which a number is spelled. -/
theorem exists_toDigits (n : Nat) :
    ∃ ds : List Nat, Nat.toDigits 16 n = ds.map Nat.digitChar ∧ (∀ d ∈ ds, d < 16) ∧ ds ≠ [] ∧
      hexValue ds = n := by
  induction n using Nat.strongRecOn with
  | ind n ih =>
    by_cases hn : n < 16
    · refine ⟨[n], Nat.toDigits_of_lt_base hn, by simpa using hn, by simp, ?_⟩
      simp [hexValue]
    · have hn : 16 ≤ n := Nat.le_of_not_lt hn
      obtain ⟨ds, hds, hlt, -, hvalue⟩ := ih (n / 16) (by omega)
      refine ⟨ds ++ [n % 16], ?_, ?_, by simp, ?_⟩
      · rw [Nat.toDigits_of_base_le (by decide) hn, hds, List.map_append, List.map_singleton]
      · exact List.forall_mem_append.2 ⟨hlt, by simpa using Nat.mod_lt n (by decide)⟩
      · rw [hexValue, List.foldl_append, ← hexValue, hvalue]
        exact Nat.div_add_mod n 16

theorem length_toDigits_le (c : Char) : (Nat.toDigits 16 c.toNat).length ≤ 6 := by
  have hvalid : c.toNat.isValidChar := c.valid
  have hlt : c.toNat < 16 ^ 6 := by
    unfold Nat.isValidChar at hvalid
    omega
  exact Nat.toDigits_length 16 c.toNat 6 (by decide) hlt

/-- Reading the digits of a code point. -/
theorem foldlM_step_digits (said : List Char) (es ds : List Nat) (h : ∀ d ∈ ds, d < 16) :
    (ds.map Nat.digitChar).foldlM Unquoting.step (.code said es) =
      some (.code said (es ++ ds)) := by
  induction ds generalizing es with
  | nil => simp
  | cons d ds ih =>
    obtain ⟨hd, hds⟩ := List.forall_mem_cons.1 h
    have hstep : Unquoting.step (.code said es) d.digitChar = some (.code said (es ++ [d])) := by
      rw [Unquoting.step, if_neg (digitChar_ne_brace hd), hexDigit?_digitChar hd, Option.map_some]
    rw [List.map_cons, List.foldlM_cons, hstep]
    simpa using ih (es ++ [d]) hds

/-! ### Characters -/

/-- A character in quoted text stands for itself, or there is a letter for it, or its code point is
spelled. -/
theorem quoteChar_cases (c : Char) :
    (quoteChar c = [c] ∧ c ≠ '"' ∧ c ≠ '\\' ∧ ¬isGlyphless c) ∨
      (∃ d, quoteChar c = ['\\', d] ∧ escapedLetter? d = some c) ∨
      quoteChar c = ['\\', 'u', '{'] ++ Nat.toDigits 16 c.toNat ++ ['}'] := by
  unfold quoteChar
  by_cases hquote : c = '"'
  · exact .inr (.inl ⟨'"', if_pos hquote, congrArg some hquote.symm⟩)
  rw [if_neg hquote]
  by_cases hslash : c = '\\'
  · exact .inr (.inl ⟨'\\', if_pos hslash, congrArg some hslash.symm⟩)
  rw [if_neg hslash]
  by_cases hnewline : c = '\n'
  · exact .inr (.inl ⟨'n', if_pos hnewline, congrArg some hnewline.symm⟩)
  rw [if_neg hnewline]
  by_cases hreturn : c = '\r'
  · exact .inr (.inl ⟨'r', if_pos hreturn, congrArg some hreturn.symm⟩)
  rw [if_neg hreturn]
  by_cases htab : c = '\t'
  · exact .inr (.inl ⟨'t', if_pos htab, congrArg some htab.symm⟩)
  rw [if_neg htab]
  by_cases hnul : c = '\x00'
  · exact .inr (.inl ⟨'0', if_pos hnul, congrArg some hnul.symm⟩)
  rw [if_neg hnul]
  by_cases hglyph : isGlyphless c
  · exact .inr (.inr (if_pos hglyph))
  · exact .inl ⟨if_neg hglyph, hquote, hslash, hglyph⟩

/-- **A character is read back**, whatever has been read before. -/
theorem foldlM_step_quoteChar (said : List Char) (c : Char) :
    (quoteChar c).foldlM Unquoting.step (.inside said) = some (.inside (said ++ [c])) := by
  obtain ⟨hc, hquote, hslash, -⟩ | ⟨d, hc, hd⟩ | hc := quoteChar_cases c
  · rw [hc]
    simp [Unquoting.step, hquote, hslash]
  · have hu : d ≠ 'u' := by
      rintro rfl
      cases hd
    rw [hc]
    simp [Unquoting.step, hu, hd]
  · obtain ⟨ds, hds, hlt, hne, hvalue⟩ := exists_toDigits c.toNat
    have hlength : ds.length ≤ 6 := by simpa [hds] using length_toDigits_le c
    have hchar : codeChar? ds = some c := by
      rw [codeChar?, hvalue, if_pos ⟨⟨List.length_pos_iff.2 hne, hlength⟩, c.valid⟩,
        Char.ofNat_toNat]
    rw [hc, hds, List.foldlM_append, List.foldlM_append]
    simp [Unquoting.step, foldlM_step_digits said [] ds hlt, hchar]

theorem isGlyphless_of_isControl {c : Char} (h : IsControl c) : isGlyphless c := by
  have hranges : (0x00, 0x1F) ∈ glyphlessRanges ∧ (0x7F, 0xA0) ∈ glyphlessRanges :=
    ⟨List.mem_cons_self, List.mem_cons_of_mem _ List.mem_cons_self⟩
  rw [isGlyphless, CodeRanges.holds, List.any_eq_true]
  rcases h with h | ⟨hlow, hhigh⟩
  · exact ⟨_, hranges.1, by simp; omega⟩
  · exact ⟨_, hranges.2, by simp; omega⟩

theorem not_isControl_of_escapedLetter? {c d : Char} (h : escapedLetter? d = some c) :
    ¬IsControl d := by
  unfold escapedLetter? at h
  split at h
  case h_7 => cases h
  all_goals decide

/-- No character is quoted with a control. -/
theorem not_isControl_of_mem_quoteChar {c d : Char} (h : d ∈ quoteChar c) : ¬IsControl d := by
  obtain ⟨hc, -, -, hglyph⟩ | ⟨l, hc, hl⟩ | hc := quoteChar_cases c
  · rw [hc, List.mem_singleton] at h
    subst h
    exact fun hcontrol => hglyph (isGlyphless_of_isControl hcontrol)
  · rw [hc, List.mem_cons, List.mem_singleton] at h
    obtain rfl | rfl := h
    · decide
    · exact not_isControl_of_escapedLetter? hl
  · obtain ⟨ds, hds, hlt, -, -⟩ := exists_toDigits c.toNat
    rw [hc, hds, List.mem_append, List.mem_append, List.mem_map, List.mem_singleton] at h
    obtain (h | ⟨n, hn, rfl⟩) | rfl := h
    · exact not_isControl_of_all (by decide) d h
    · exact not_isControl_digitChar (hlt n hn)
    · decide

/-! ### Texts -/

theorem foldlM_step_flatMap (said cs : List Char) :
    (cs.flatMap quoteChar).foldlM Unquoting.step (.inside said) = some (.inside (said ++ cs)) := by
  induction cs generalizing said with
  | nil => simp
  | cons c cs ih =>
    rw [List.flatMap_cons, List.foldlM_append, foldlM_step_quoteChar]
    simpa using ih (said ++ [c])

/-- **A quoted text says what has been quoted.** -/
theorem unquote?_quoted (s : String) : unquote? (quoted s).toList = some s.toList := by
  have hopen : Unquoting.step .outside '"' = some (.inside []) := rfl
  rw [unquote?, quoted, String.toList_ofList, List.foldlM_cons, hopen, Option.bind_eq_bind,
    Option.bind_some, List.foldlM_append, foldlM_step_flatMap]
  rfl

theorem quoted_injective {s t : String} (h : quoted s = quoted t) : s = t := by
  have hs := unquote?_quoted s
  rw [h, unquote?_quoted t] at hs
  exact String.toList_inj.1 (Option.some.inj hs).symm

/-- **There are no controls in quoted text**, so it stays on its line. -/
theorem not_isControl_of_mem_quoted {s : String} {c : Char} (h : c ∈ (quoted s).toList) :
    ¬IsControl c := by
  rw [quoted, String.toList_ofList, List.mem_cons, List.mem_append, List.mem_singleton,
    List.mem_flatMap] at h
  obtain rfl | ⟨d, -, hd⟩ | rfl := h
  · decide
  · exact not_isControl_of_mem_quoteChar hd
  · decide

-- a quote, a line break, a backslash and a control that has no letter
example : quoted "\"\n\\\x7f" = "\"\\\"\\n\\\\\\u\x7b7f\x7d\"" := by decide +kernel

end Gridlines
