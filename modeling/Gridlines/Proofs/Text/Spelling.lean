import Gridlines.Text.Basic
import Gridlines.Text.Lowercase
import Mathlib.Data.List.Forall2
import Mathlib.Data.List.Infix
import Mathlib.Tactic.Common

/-!
# Keywords in the original text

A keyword of lowercase ASCII letters, digits and blanks is searched for in the lowercase of a text.
There it stands if and only if a run of characters of the original text spells it, up to the case of
ASCII letters (`occursIn_lowercase_iff`).  Outside ASCII there are only two characters whose
lowercase has an ASCII character: the Kelvin sign, which is another `K`, and `İ`, whose lowercase is
an `i` with a dot that is a character of its own.  The dot stands in no keyword, so such an `i` could
only be the last character of one; no keyword ends in `i`.
-/

namespace Gridlines

/-- Whether a character spells another: ASCII letters do in either case, and the Kelvin sign spells
`k`. -/
def spells (c k : Char) : Bool := c.toLower = k.toLower || (c = '\u212A' && k.toLower = 'k')

/-- Whether a text starts with a spelling of a keyword. -/
def startsSpelled : List Char → List Char → Bool
  | [], _ => true
  | _ :: _, [] => false
  | k :: ks, c :: cs => spells c k && startsSpelled ks cs

/-- A run of characters of the text spells the keyword. -/
def SpelledIn (key text : List Char) : Prop :=
  ∃ run, run <:+: text ∧ List.Forall₂ (fun c k => spells c k) run key

theorem startsSpelled_iff {key text : List Char} :
    startsSpelled key text ↔ ∃ run, run <+: text ∧ List.Forall₂ (fun c k => spells c k) run key := by
  induction key generalizing text with
  | nil => simp [startsSpelled]
  | cons k ks ih =>
    cases text with
    | nil => simp [startsSpelled]
    | cons c cs =>
      rw [startsSpelled, Bool.and_eq_true, ih]
      constructor
      · rintro ⟨hc, run, hrun, hks⟩
        exact ⟨c :: run, List.cons_prefix_cons.2 ⟨rfl, hrun⟩, .cons hc hks⟩
      · rintro ⟨_ | ⟨b, run⟩, hrun, hks⟩
        · cases hks
        · obtain ⟨rfl, hcs⟩ := List.cons_prefix_cons.1 hrun
          obtain ⟨hc, hks⟩ := List.forall₂_cons.1 hks
          exact ⟨hc, run, hcs, hks⟩

theorem spelledIn_cons_iff {key cs : List Char} {c : Char} :
    SpelledIn key (c :: cs) ↔ startsSpelled key (c :: cs) ∨ SpelledIn key cs := by
  rw [startsSpelled_iff]
  simp only [SpelledIn, List.infix_cons_iff, or_and_right, exists_or]

theorem spelledIn_iff_tails {key text : List Char} :
    SpelledIn key text ↔ text.tails.any (startsSpelled key) := by
  induction text with
  | nil => simp [SpelledIn, startsSpelled_iff]
  | cons c cs ih => rw [spelledIn_cons_iff, ih, List.tails_cons, List.any_cons, Bool.or_eq_true]

instance (key text : List Char) : Decidable (SpelledIn key text) :=
  decidable_of_iff _ spelledIn_iff_tails.symm

/-! ### Texts with a joint -/

theorem startsSpelled_append_cons {key : List Char} {x : Char} (hx : ∀ k ∈ key, spells x k = false)
    (text after : List Char) : startsSpelled key (text ++ x :: after) = startsSpelled key text := by
  induction key generalizing text with
  | nil => simp [startsSpelled]
  | cons k ks ih =>
    obtain ⟨hk, hks⟩ := List.forall_mem_cons.1 hx
    cases text with
    | nil => simp [startsSpelled, hk]
    | cons c cs => rw [List.cons_append, startsSpelled, startsSpelled, ih hks]

/-- A character that spells nothing of a keyword keeps the texts on its two sides apart. -/
theorem spelledIn_append_cons_iff {key : List Char} {x : Char}
    (hx : ∀ k ∈ key, spells x k = false) (text after : List Char) :
    SpelledIn key (text ++ x :: after) ↔ SpelledIn key text ∨ SpelledIn key after := by
  induction text with
  | nil =>
    have hstart := startsSpelled_append_cons hx [] after
    rw [List.nil_append] at hstart ⊢
    rw [spelledIn_cons_iff, hstart]
    simp [spelledIn_iff_tails]
  | cons c cs ih =>
    have hstart := startsSpelled_append_cons hx (c :: cs) after
    rw [List.cons_append] at hstart ⊢
    rw [spelledIn_cons_iff, spelledIn_cons_iff, hstart, ih, or_assoc]

/-! ### The case of the text -/

theorem toLower_of_le {c : Char} (h : 0x80 ≤ c.toNat) : c.toLower = c := by
  refine dif_neg fun hc => ?_
  have hz : c.toNat ≤ 90 := UInt32.le_iff_toNat_le.1 hc.2
  omega

theorem spells_toLower (c k : Char) : spells c.toLower k = spells c k := by
  by_cases h : 0x80 ≤ c.toNat
  · rw [toLower_of_le h]
  · have hascii : ∀ n < 0x80, (Char.ofNat n).toLower.toLower = (Char.ofNat n).toLower ∧
        (Char.ofNat n).toLower ≠ '\u212A' ∧ Char.ofNat n ≠ '\u212A' := by decide
    have hc := hascii c.toNat (by omega)
    rw [Char.ofNat_toNat] at hc
    simp [spells, hc]

theorem startsSpelled_map_toLower (key text : List Char) :
    startsSpelled key (text.map Char.toLower) = startsSpelled key text := by
  induction key generalizing text with
  | nil => simp [startsSpelled]
  | cons k ks ih =>
    cases text with
    | nil => rfl
    | cons c cs => rw [List.map_cons, startsSpelled, startsSpelled, spells_toLower, ih]

/-- What a text spells does not depend on the case of its ASCII letters. -/
theorem spelledIn_map_toLower (key text : List Char) :
    SpelledIn key (text.map Char.toLower) ↔ SpelledIn key text := by
  induction text with
  | nil => rfl
  | cons c cs ih =>
    rw [List.map_cons, spelledIn_cons_iff, ih, ← List.map_cons, startsSpelled_map_toLower,
      ← spelledIn_cons_iff]

/-! ### The lowercase of one character -/

/-- The characters of keywords: ASCII characters without capitals. -/
def IsKeyChar (c : Char) : Prop := c.toNat < 0x80 ∧ c.toLower = c

instance (c : Char) : Decidable (IsKeyChar c) := inferInstanceAs (Decidable (_ ∧ _))

theorem toNat_ofNat {n : Nat} (h : n.isValidChar) : (Char.ofNat n).toNat = n := by
  rw [Char.ofNat, dif_pos h]
  rfl

theorem IsKeyChar.ne_of_le {c k : Char} (hk : IsKeyChar k) (h : 0x80 ≤ c.toNat) : c ≠ k := by
  rintro rfl
  have := hk.1
  omega

/-- Outside ASCII only the Kelvin sign spells the character of a keyword. -/
theorem IsKeyChar.spells_iff_of_le {c k : Char} (hk : IsKeyChar k) (h : 0x80 ≤ c.toNat) :
    spells c k ↔ c = '\u212A' ∧ k = 'k' := by
  simp [spells, toLower_of_le h, hk.2, hk.ne_of_le h]

theorem IsKeyChar.spells_iff_of_lt {c k : Char} (hk : IsKeyChar k) (h : c.toNat < 0x80) :
    spells c k ↔ c.toLower = k := by
  have hc : c ≠ '\u212A' := by rintro rfl; exact absurd h (by decide)
  simp [spells, hk.2, hc]

/-- The run has only the Kelvin sign, or its lowercase letters are outside ASCII and characters. -/
def CaseRun.leavesAscii (r : CaseRun) : Bool :=
  (r.first = 0x212A ∧ r.last = 0x212A ∧ r.image = 0x6B) ||
    ((0x212A < r.first ∨ r.last < 0x212A) ∧ 0x80 ≤ r.image ∧
      (r.image + (r.last - r.first) < 0xD800 ∨
        (0xDFFF < r.image ∧ r.image + (r.last - r.first) < 0x110000)))

theorem leavesAscii_caseRuns : caseRuns.all (·.leavesAscii) = true := by
  decide

theorem apply_of_mem_caseRuns {r : CaseRun} {n : Nat} (hr : r ∈ caseRuns) (hn : r.holds n) :
    (n = 0x212A ∧ r.apply n = 0x6B) ∨
      (n ≠ 0x212A ∧ 0x80 ≤ (Char.ofNat (r.apply n)).toNat) := by
  have h := List.all_eq_true.1 leavesAscii_caseRuns r hr
  simp only [CaseRun.leavesAscii, Bool.or_eq_true, decide_eq_true_eq] at h
  simp only [CaseRun.holds, Bool.and_eq_true, decide_eq_true_eq] at hn
  rw [CaseRun.apply]
  obtain ⟨h1, h2, h3⟩ | ⟨h1, h2, h3⟩ := h
  · exact .inl (by omega)
  · have hv : (r.image + (n - r.first)).isValidChar := by
      rw [Nat.isValidChar]
      omega
    rw [toNat_ofNat hv]
    exact .inr (by omega)

/-- The lowercase of a character is one character, which is that of a keyword if the character
spells it; or it is an `i` with a dot. -/
theorem lowerAt_cases (before : List Char) (c : Char) (after : List Char) :
    (c = 'İ' ∧ lowerAt before c after = ['i', '\u0307']) ∨
      ∃ y, lowerAt before c after = [y] ∧ ∀ k, IsKeyChar k → (k = y ↔ spells c k) := by
  unfold lowerAt lowerChar
  split_ifs with hsigma hascii hdot
  · subst hsigma
    have hy : 0x80 ≤ (lowerSigma before after).toNat := by
      unfold lowerSigma
      split <;> decide
    refine .inr ⟨_, rfl, fun k hk => ?_⟩
    rw [hk.spells_iff_of_le (by decide)]
    simp [(hk.ne_of_le hy).symm]
  · refine .inr ⟨_, rfl, fun k hk => ?_⟩
    rw [hk.spells_iff_of_lt hascii, eq_comm]
  · exact .inl ⟨hdot, rfl⟩
  · -- what the table does not have is its own lowercase; it has the Kelvin sign
    have hc : 0x80 ≤ c.toNat := by omega
    cases hr : caseRuns.find? (·.holds c.toNat) with
    | none =>
      refine .inr ⟨c, rfl, fun k hk => ?_⟩
      have hkelvin : c ≠ '\u212A' := by
        rintro rfl
        exact absurd hr (by decide)
      rw [hk.spells_iff_of_le hc]
      simp [(hk.ne_of_le hc).symm, hkelvin]
    | some r =>
      refine .inr ⟨_, rfl, fun k hk => ?_⟩
      rw [hk.spells_iff_of_le hc]
      have hholds := List.find?_some hr
      obtain ⟨hn, hy⟩ | ⟨hn, hy⟩ := apply_of_mem_caseRuns (List.mem_of_find?_eq_some hr) hholds
      · rw [hy]
        have hkelvin : c = '\u212A' := Char.toNat_inj.1 hn
        simp [hkelvin]
      · have hkelvin : c ≠ '\u212A' := by
          rintro rfl
          exact hn rfl
        simp [(hk.ne_of_le hy).symm, hkelvin]

/-! ### The lowercase of a text -/

/-- A keyword: it has only characters of keywords, and the last one is no `i`. -/
structure IsKey (key : List Char) : Prop where
  chars : ∀ k ∈ key, IsKeyChar k
  last : key.getLast? ≠ some 'i'

theorem isKey_iff {key : List Char} :
    IsKey key ↔ key.all (IsKeyChar ·) ∧ key.getLast? ≠ some 'i' := by
  simp only [List.all_eq_true, decide_eq_true_eq]
  exact ⟨fun h => ⟨h.chars, h.last⟩, fun h => ⟨h.1, h.2⟩⟩

instance (key : List Char) : Decidable (IsKey key) := decidable_of_iff _ isKey_iff.symm

theorem IsKey.head {k : Char} {ks : List Char} (h : IsKey (k :: ks)) : IsKeyChar k :=
  h.chars k List.mem_cons_self

theorem IsKey.tail {k : Char} {ks : List Char} (h : IsKey (k :: ks)) : IsKey ks where
  chars := fun c hc => h.chars c (List.mem_cons_of_mem k hc)
  last := by
    cases ks with
    | nil => simp
    | cons b ks => simpa using h.last

theorem IsKey.not_prefix_dot {key cs : List Char} (h : IsKey key) (hne : key ≠ []) :
    ¬key <+: '\u0307' :: cs := by
  intro hp
  cases key with
  | nil => exact hne rfl
  | cons k ks =>
    obtain ⟨rfl, -⟩ := List.cons_prefix_cons.1 hp
    exact absurd h.head (by decide)

theorem IsKey.not_prefix_dotted {key cs : List Char} (h : IsKey key) (hne : key ≠ []) :
    ¬key <+: 'i' :: '\u0307' :: cs := by
  intro hp
  cases key with
  | nil => exact hne rfl
  | cons k ks =>
    obtain ⟨rfl, hks⟩ := List.cons_prefix_cons.1 hp
    refine h.tail.not_prefix_dot ?_ hks
    rintro rfl
    exact h.last rfl

theorem IsKey.prefix_lowerAfter_iff {key : List Char} (h : IsKey key) (before text : List Char) :
    key <+: lowerAfter before text ↔ startsSpelled key text := by
  induction key generalizing before text with
  | nil => simp [startsSpelled]
  | cons k ks ih =>
    cases text with
    | nil => simp [lowerAfter, startsSpelled]
    | cons c cs =>
      rw [lowerAfter, startsSpelled, Bool.and_eq_true]
      obtain ⟨rfl, hc⟩ | ⟨y, hc, hy⟩ := lowerAt_cases before c cs
      · -- the dot after `i` stands in no keyword
        have hs : ¬spells 'İ' k := by
          rw [h.head.spells_iff_of_le (by decide)]
          simp
        rw [hc]
        exact iff_of_false (h.not_prefix_dotted (List.cons_ne_nil k ks)) fun hp => hs hp.1
      · rw [hc, List.singleton_append, List.cons_prefix_cons, hy k h.head, ih h.tail]

theorem IsKey.infix_lowerAfter_iff {key : List Char} (h : IsKey key) (hne : key ≠ [])
    (before text : List Char) : key <:+: lowerAfter before text ↔ SpelledIn key text := by
  induction text generalizing before with
  | nil => rw [spelledIn_iff_tails]; cases key <;> simp_all [lowerAfter, startsSpelled]
  | cons c cs ih =>
    have hp := h.prefix_lowerAfter_iff before (c :: cs)
    rw [lowerAfter] at hp ⊢
    rw [spelledIn_cons_iff, ← hp]
    obtain ⟨rfl, hc⟩ | ⟨y, hc, -⟩ := lowerAt_cases before c cs
    · -- a keyword starts at the `i` or after the dot
      rw [hc]
      simp only [List.cons_append, List.nil_append, List.infix_cons_iff, ih]
      exact ⟨fun | .inl hi => .inl hi | .inr (.inl hd) => absurd hd (h.not_prefix_dot hne)
                 | .inr (.inr hs) => .inr hs, fun | .inl hi => .inl hi | .inr hs => .inr (.inr hs)⟩
    · rw [hc, List.singleton_append, List.infix_cons_iff, ih]

/-- A keyword stands in the lowercase of a text if a run of characters of the text spells it. -/
theorem occursIn_lowercase_iff {key : List Char} (h : IsKey key) (hne : key ≠ [])
    (text : List Char) : occursIn key (lowercase text) ↔ SpelledIn key text := by
  rw [occursIn_iff, lowercase, h.infix_lowerAfter_iff hne]

end Gridlines
