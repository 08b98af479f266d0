import Gridlines.Answer.Match
import Gridlines.Proofs.Text.Sigma

/-!
# Contained texts

A text is searched for another in its lowercase, and both get their lowercase on their own.  So what
stands in a text is found in it unless it starts or ends within a word in such a way that a capital
sigma at its edge has two forms: `ΜΕΣ` is not found in `ΜΕΣΑ`, where its sigma ends no word.

* `prefix_drop_lowercase_iff` : where a needle stands its lowercase stands if no word is split.
* `Feature.findsContained_of_text` : what is found in a text.
-/

namespace Gridlines

/-- The lowercase of a text where a part of it starts. -/
theorem drop_lowercase (before needle after : List Char) :
    (lowercase (before ++ needle ++ after)).drop (lowercase before).length =
      lowerBetween after before.reverse needle ++
        lowerAfter (needle.reverse ++ before.reverse) after := by
  rw [← length_lowerBetween_eq_lowercase [] (needle ++ after) before, lowercase, List.append_assoc,
    lowerAfter_append, List.drop_left, List.append_nil, lowerAfter_append]

/-- Where a needle stands in a text, its lowercase stands in the lowercase of the text exactly if no
word is split. -/
theorem prefix_drop_lowercase_iff (before needle after : List Char) :
    lowercase needle <+: (lowercase (before ++ needle ++ after)).drop (lowercase before).length ↔
      ¬SplitsWord before after needle := by
  have hlength := length_lowerBetween_eq_lowercase before.reverse after needle
  rw [drop_lowercase, ← lowerBetween_eq_lowercase_iff]
  constructor
  · intro h
    have hpart := List.prefix_of_prefix_length_le h (List.prefix_append _ _) hlength.ge
    exact (hpart.eq_of_length hlength.symm).symm
  · intro h
    rw [h]
    exact List.prefix_append _ _

theorem SplitsWord.sigma_mem {before after needle : List Char}
    (h : SplitsWord before after needle) : 'Σ' ∈ needle := by
  cases h <;> simp

namespace Feature

/-- What is found of a needle in the text of a feature. -/
structure FindsContained (f : Feature) (field s needle : String) : Prop where
  /-- It is found if its lowercase stands in the lowercase of the text. -/
  found : f.meets ⟨field, .contains needle⟩ ↔ lowercase needle.toList <:+: lowercase s.toList
  /-- Where the needle stands, its lowercase stands unless a word is split. -/
  place : ∀ before after, s.toList = before ++ needle.toList ++ after →
    (lowercase needle.toList <+: (lowercase s.toList).drop (lowercase before).length ↔
      ¬SplitsWord before after needle.toList)
  /-- So it is found if it stands somewhere without splitting a word, -/
  verbatim : ∀ before after, s.toList = before ++ needle.toList ++ after →
    ¬SplitsWord before after needle.toList → f.meets ⟨field, .contains needle⟩
  /-- and if it has no capital sigma, wherever it stands. -/
  sigmaless : 'Σ' ∉ needle.toList → needle.toList <:+: s.toList → f.meets ⟨field, .contains needle⟩
  /-- The case of ASCII letters does not count in the text nor in the needle. -/
  caseless : ∀ (g : Feature) (t other : String), g.text? field = some t →
    t.toList.map Char.toLower = s.toList.map Char.toLower →
    other.toList.map Char.toLower = needle.toList.map Char.toLower →
    g.meets ⟨field, .contains other⟩ = f.meets ⟨field, .contains needle⟩

variable {f : Feature} {field s : String}

theorem meets_contains (h : f.text? field = some s) (needle : String) :
    f.meets ⟨field, .contains needle⟩ = textContains s needle := by
  obtain ⟨x, hx, hs⟩ := Option.bind_eq_some_iff.1 h
  simp only [meets, hx, Test.passes, hs]

/-- **What stands in a text is found in it, unless a word is split at a capital sigma**, whatever
the case of ASCII letters. -/
theorem findsContained_of_text (h : f.text? field = some s) (needle : String) :
    f.FindsContained field s needle := by
  have hfound : f.meets ⟨field, .contains needle⟩ ↔
      lowercase needle.toList <:+: lowercase s.toList := by
    rw [meets_contains h, textContains, occursIn_iff]
  have hplace : ∀ before after, s.toList = before ++ needle.toList ++ after →
      (lowercase needle.toList <+: (lowercase s.toList).drop (lowercase before).length ↔
        ¬SplitsWord before after needle.toList) := by
    intro before after hs
    rw [hs]
    exact prefix_drop_lowercase_iff before needle.toList after
  have hverbatim : ∀ before after, s.toList = before ++ needle.toList ++ after →
      ¬SplitsWord before after needle.toList → f.meets ⟨field, .contains needle⟩ := by
    intro before after hs hsplit
    have hthere := (hplace before after hs).2 hsplit
    exact hfound.2 (hthere.isInfix.trans (List.drop_suffix _ _).isInfix)
  constructor
  case found => exact hfound
  case place => exact hplace
  case verbatim => exact hverbatim
  case sigmaless =>
    rintro hsigma ⟨before, after, hs⟩
    exact hverbatim before after hs.symm fun hsplit => hsigma hsplit.sigma_mem
  case caseless =>
    intro g t other hg ht hother
    rw [meets_contains h, meets_contains hg, textContains, textContains,
      ← lowercase_map_toLower t.toList, ← lowercase_map_toLower other.toList, ht, hother,
      lowercase_map_toLower, lowercase_map_toLower]

/-- A feature that has only a type. -/
def ofType (type : String) : Feature := .ofProperties (.ofList [(Field.type, .string type)])

/-- A sigma within a word of the needle and of the text. -/
theorem findsContained_of_text_within :
    (ofType "ΜΕΣΑ").text? Field.type = some "ΜΕΣΑ" ∧
      (ofType "ΜΕΣΑ").FindsContained Field.type "ΜΕΣΑ" "ΕΣΑ" := by
  have htext : (ofType "ΜΕΣΑ").text? Field.type = some "ΜΕΣΑ" := rfl
  exact ⟨htext, findsContained_of_text htext "ΕΣΑ"⟩

/-- The first three letters of a word are not found in it. -/
theorem not_meets_contains_sigma :
    let f := ofType "ΜΕΣΑ"
    f.text? Field.type = some "ΜΕΣΑ" ∧ "ΜΕΣ".toList <:+: "ΜΕΣΑ".toList ∧
      ¬f.meets ⟨Field.type, .contains "ΜΕΣ"⟩ := by
  decide +kernel

end Feature

end Gridlines
