import Gridlines.Proofs.Text.Spelling

/-!
# Parts of lowercase texts

The lowercase of a character does not depend on where it stands, unless it is a capital sigma.  So a
part of a text has the lowercase that it has alone, but for the sigmas at its edges: one that ends a
word there and not in the text, or in the text and not there (`SplitsWord`).  The case of ASCII
letters never counts, since all of them are cased and none is passed over.

* `lowerBetween` : the lowercase of a part of a text.
* `lowerBetween_eq_lowercase_iff` : it is the lowercase of the part alone if no word is split.
* `lowercase_map_toLower` : the lowercase of a text does not depend on the case of ASCII letters.
-/

namespace Gridlines

/-! ### A part of a text -/

/-- The lowercase of a text between what precedes it, nearest first, and what follows. -/
def lowerBetween (after : List Char) (before : List Char) : List Char → List Char
  | [] => []
  | c :: cs => lowerAt before c (cs ++ after) ++ lowerBetween after (c :: before) cs

theorem lowerAfter_append (before text after : List Char) :
    lowerAfter before (text ++ after) =
      lowerBetween after before text ++ lowerAfter (text.reverse ++ before) after := by
  induction text generalizing before with
  | nil => rfl
  | cons c cs ih =>
    rw [List.cons_append, lowerAfter, ih, lowerBetween, List.append_assoc, List.reverse_cons,
      List.append_assoc, List.singleton_append]

theorem lowerBetween_nil (before text : List Char) :
    lowerBetween [] before text = lowerAfter before text := by
  have h := lowerAfter_append before text []
  rw [List.append_nil, lowerAfter, List.append_nil] at h
  exact h.symm

theorem length_lowerAt (before after before' after' : List Char) (c : Char) :
    (lowerAt before c after).length = (lowerAt before' c after').length := by
  unfold lowerAt
  split <;> rfl

theorem length_lowerBetween (before after before' after' text : List Char) :
    (lowerBetween after before text).length = (lowerBetween after' before' text).length := by
  induction text generalizing before before' with
  | nil => rfl
  | cons c cs ih =>
    rw [lowerBetween, lowerBetween, List.length_append, List.length_append,
      length_lowerAt before (cs ++ after) before' (cs ++ after') c, ih]

theorem length_lowerBetween_eq_lowercase (before after text : List Char) :
    (lowerBetween after before text).length = (lowercase text).length := by
  rw [lowercase, ← lowerBetween_nil]
  exact length_lowerBetween before after [] [] text

theorem lowerAt_eq_iff {before after before' after' : List Char} {c : Char} :
    lowerAt before c after = lowerAt before' c after' ↔
      (c = 'Σ' → lowerSigma before after = lowerSigma before' after') := by
  unfold lowerAt
  by_cases hc : c = 'Σ' <;> simp [hc]

/-- Parts have the same lowercase in two places if each of their sigmas has. -/
theorem lowerBetween_eq_iff {before after before' after' text : List Char} :
    lowerBetween after before text = lowerBetween after' before' text ↔
      ∀ u v, text = u ++ 'Σ' :: v →
        lowerSigma (u.reverse ++ before) (v ++ after) =
          lowerSigma (u.reverse ++ before') (v ++ after') := by
  induction text generalizing before before' with
  | nil => simp [lowerBetween]
  | cons c cs ih =>
    rw [lowerBetween, lowerBetween]
    constructor
    · intro h u v htext
      obtain ⟨hc, hcs⟩ := List.append_inj h (length_lowerAt _ _ _ _ c)
      cases u with
      | nil =>
        obtain ⟨rfl, rfl⟩ := List.cons.inj htext
        exact lowerAt_eq_iff.1 hc rfl
      | cons d u =>
        obtain ⟨rfl, htail⟩ := List.cons.inj htext
        simpa using ih.1 hcs u v htail
    · intro h
      have hc : lowerAt before c (cs ++ after) = lowerAt before' c (cs ++ after') := by
        refine lowerAt_eq_iff.2 ?_
        rintro rfl
        exact h [] cs rfl
      have hcs : lowerBetween after (c :: before) cs = lowerBetween after' (c :: before') cs := by
        refine ih.2 fun u v htail => ?_
        have hsigma := h (c :: u) v (by rw [htail, List.cons_append])
        simpa using hsigma
      rw [hc, hcs]

/-! ### Sigmas at the edges -/

theorem startsCased_cons (c : Char) (cs : List Char) :
    startsCased (c :: cs) = if isCaseIgnorable c then startsCased cs else isCased c := by
  by_cases hc : isCaseIgnorable c <;> simp [startsCased, hc]

theorem startsCased_append (cs after : List Char) :
    startsCased (cs ++ after) =
      if cs.all isCaseIgnorable then startsCased after else startsCased cs := by
  induction cs with
  | nil => rfl
  | cons c cs ih =>
    rw [List.cons_append, startsCased_cons, startsCased_cons, ih, List.all_cons]
    cases isCaseIgnorable c <;> simp

theorem startsCased_of_all {cs : List Char} (h : cs.all isCaseIgnorable) :
    startsCased cs = false := by
  have happend := startsCased_append cs []
  rwa [List.append_nil, if_pos h] at happend

theorem lowerSigma_eq_iff {before after before' after' : List Char} :
    lowerSigma before after = lowerSigma before' after' ↔
      (startsCased before && !startsCased after) =
        (startsCased before' && !startsCased after') := by
  unfold lowerSigma
  cases startsCased before && !startsCased after <;>
    cases startsCased before' && !startsCased after' <;> simp

/-- A needle between two texts splits a word at one of its sigmas. -/
inductive SplitsWord (before after : List Char) : List Char → Prop
  /-- The sigma ends a word of the needle, and the word goes on after the needle. -/
  | cutsEnd (u v : List Char) (hu : startsCased u.reverse) (hv : v.all isCaseIgnorable)
      (hafter : startsCased after) : SplitsWord before after (u ++ 'Σ' :: v)
  /-- The sigma ends a word that starts before the needle, and stands at the start of the needle. -/
  | cutsStart (u v : List Char) (hu : u.all isCaseIgnorable) (hbefore : startsCased before.reverse)
      (hend : ¬startsCased (v ++ after)) : SplitsWord before after (u ++ 'Σ' :: v)

theorem splitsWord_iff {before after needle : List Char} :
    SplitsWord before after needle ↔ ∃ u v, needle = u ++ 'Σ' :: v ∧
      (startsCased u.reverse ∧ v.all isCaseIgnorable ∧ startsCased after ∨
        u.all isCaseIgnorable ∧ startsCased before.reverse ∧ ¬startsCased (v ++ after)) := by
  constructor
  · rintro (⟨u, v, hu, hv, hafter⟩ | ⟨u, v, hu, hbefore, hend⟩)
    · exact ⟨u, v, rfl, .inl ⟨hu, hv, hafter⟩⟩
    · exact ⟨u, v, rfl, .inr ⟨hu, hbefore, hend⟩⟩
  · rintro ⟨u, v, rfl, ⟨hu, hv, hafter⟩ | ⟨hu, hbefore, hend⟩⟩
    · exact .cutsEnd u v hu hv hafter
    · exact .cutsStart u v hu hbefore hend

/-- What surrounds a part changes the form of a sigma in two ways. -/
theorem lowerSigma_surround_iff {u v before after : List Char} :
    lowerSigma (u.reverse ++ before) (v ++ after) = lowerSigma u.reverse v ↔
      ¬(startsCased u.reverse ∧ v.all isCaseIgnorable ∧ startsCased after ∨
        u.all isCaseIgnorable ∧ startsCased before ∧ ¬startsCased (v ++ after)) := by
  have hall : u.reverse.all isCaseIgnorable = u.all isCaseIgnorable := List.all_reverse
  rw [lowerSigma_eq_iff, startsCased_append, startsCased_append, hall]
  by_cases hu : u.all isCaseIgnorable
  · have hureverse := startsCased_of_all (hall.trans hu)
    by_cases hv : v.all isCaseIgnorable
    · simp [hu, hv, hureverse]
    · simp [hu, hv, hureverse]
  · by_cases hv : v.all isCaseIgnorable
    · simp [hu, hv, startsCased_of_all hv]
    · simp [hu, hv]

/-- **A part of a text has the lowercase that it has alone exactly if no word is split.** -/
theorem lowerBetween_eq_lowercase_iff {before after needle : List Char} :
    lowerBetween after before.reverse needle = lowercase needle ↔
      ¬SplitsWord before after needle := by
  rw [lowercase, ← lowerBetween_nil, lowerBetween_eq_iff, splitsWord_iff]
  simp only [List.append_nil, lowerSigma_surround_iff, not_exists, not_and]

/-! ### The case of ASCII letters -/

/-- What is the same for both cases of each letter does not depend on the case. -/
theorem apply_toLower {α : Type} (p : Char → α)
    (h : ∀ n < 26, p (Char.ofNat (n + 97)) = p (Char.ofNat (n + 65))) (c : Char) :
    p c.toLower = p c := by
  have hlower : ∀ n < 26, (Char.ofNat (n + 65)).toLower = Char.ofNat (n + 97) := by decide
  by_cases hc : 65 ≤ c.toNat ∧ c.toNat < 91
  · have hcapital : c = Char.ofNat (c.toNat - 65 + 65) := by
      rw [Nat.sub_add_cancel hc.1, Char.ofNat_toNat]
    rw [hcapital, hlower _ (by omega), h _ (by omega)]
  · have hsame : c.toLower = c := by
      refine dif_neg fun hval => hc ?_
      have hfirst : 65 ≤ c.toNat := UInt32.le_iff_toNat_le.1 hval.1
      have hlast : c.toNat ≤ 90 := UInt32.le_iff_toNat_le.1 hval.2
      omega
    rw [hsame]

theorem isCased_toLower (c : Char) : isCased c.toLower = isCased c :=
  apply_toLower isCased (by decide +kernel) c

theorem isCaseIgnorable_toLower (c : Char) : isCaseIgnorable c.toLower = isCaseIgnorable c :=
  apply_toLower isCaseIgnorable (by decide +kernel) c

theorem lowerChar_toLower (c : Char) : lowerChar c.toLower = lowerChar c :=
  apply_toLower lowerChar (by decide +kernel) c

theorem startsCased_map_toLower (cs : List Char) :
    startsCased (cs.map Char.toLower) = startsCased cs := by
  induction cs with
  | nil => rfl
  | cons c cs ih =>
    rw [List.map_cons, startsCased_cons, startsCased_cons, ih, isCased_toLower,
      isCaseIgnorable_toLower]

theorem lowerAt_map_toLower (before : List Char) (c : Char) (after : List Char) :
    lowerAt (before.map Char.toLower) c.toLower (after.map Char.toLower) =
      lowerAt before c after := by
  have hsigma : (c.toLower = 'Σ') = (c = 'Σ') :=
    apply_toLower (fun c => c = 'Σ') (by decide +kernel) c
  simp only [lowerAt, hsigma, lowerSigma, startsCased_map_toLower, lowerChar_toLower]

theorem lowerAfter_map_toLower (before text : List Char) :
    lowerAfter (before.map Char.toLower) (text.map Char.toLower) = lowerAfter before text := by
  induction text generalizing before with
  | nil => rfl
  | cons c cs ih =>
    rw [List.map_cons, lowerAfter, lowerAfter, lowerAt_map_toLower, ← List.map_cons, ih]

/-- The lowercase of a text does not depend on the case of its ASCII letters. -/
theorem lowercase_map_toLower (text : List Char) :
    lowercase (text.map Char.toLower) = lowercase text :=
  lowerAfter_map_toLower [] text

end Gridlines
