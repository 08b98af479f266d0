import Gridlines.Proofs.Question.Vocabulary

/-!
# Joined questions

Two questions with a punctuation mark between them ask for what either of them asks: the mark
stands in no keyword, so no keyword reaches across it and none is broken.  If no category fires on
both questions, the conditions of both are merged in the order of the categories.

* `Vocabulary.ruleOf_joined` : what a category gives for the joined question.
* `Vocabulary.ofQuery_joined` : the intent of the joined question.
-/

namespace Gridlines

/-- The character is a punctuation mark or a symbol of ASCII. -/
def IsPunctuation (c : Char) : Prop := 32 < c.toNat ∧ c.toNat < 127 ∧ c.isAlphanum = false

instance (c : Char) : Decidable (IsPunctuation c) := inferInstanceAs (Decidable (_ ∧ _ ∧ _))

/-- Whether a character is a letter, a digit or a blank, as all characters of keywords are. -/
def isWordChar (c : Char) : Bool := c.isAlphanum || c = ' '

/-- Two questions with a character between them. -/
def joined (q₁ : String) (x : Char) (q₂ : String) : String := q₁ ++ String.singleton x ++ q₂

/-! ### Lists of choices -/

section

variable {α β γ : Type} {f g : α → Option β} {as : List α}

/-- If no element chooses twice, the first choices, else the second ones, are all choices. -/
theorem filterMap_or_perm (h : ∀ a ∈ as, f a = none ∨ g a = none) :
    (as.filterMap fun a => (f a).or (g a)).Perm (as.filterMap f ++ as.filterMap g) := by
  induction as with
  | nil => exact .nil
  | cons a as ih =>
    obtain ⟨ha, has⟩ := List.forall_mem_cons.1 h
    have hperm := ih has
    rcases ha with ha | ha
    · cases hg : g a with
      | none => simpa [List.filterMap_cons, ha, hg] using hperm
      | some b =>
        have hcons := (hperm.cons b).trans List.perm_middle.symm
        simpa [List.filterMap_cons, ha, hg] using hcons
    · cases hf : f a with
      | none => simpa [List.filterMap_cons, ha, hf] using hperm
      | some b => simpa [List.filterMap_cons, ha, hf] using hperm

theorem getLast?_filterMap_cons (a : α) (as : List α) (f : α → Option β) :
    ((a :: as).filterMap f).getLast? = (as.filterMap f).getLast?.or (f a) := by
  cases hf : f a with
  | none => simp [hf]
  | some b =>
    rw [List.filterMap_cons, hf, List.getLast?_cons]
    cases (as.filterMap f).getLast? <;> rfl

/-- The last of all choices is the last of the first choices or of the second ones. -/
theorem getLast?_filterMap_or {b : β}
    (h : (as.filterMap fun a => (f a).or (g a)).getLast? = some b) :
    (as.filterMap f).getLast? = some b ∨ (as.filterMap g).getLast? = some b := by
  induction as with
  | nil => cases h
  | cons a as ih =>
    simp only [getLast?_filterMap_cons] at h ⊢
    cases hlast : (as.filterMap fun a => (f a).or (g a)).getLast? with
    | some c =>
      rw [hlast] at h
      obtain rfl : c = b := by simpa using h
      refine (ih hlast).imp (fun hf => ?_) fun hg => ?_
      · rw [hf, Option.some_or]
      · rw [hg, Option.some_or]
    | none =>
      -- nothing is chosen later, so `a` is the last that chooses
      have hnone : ∀ c ∈ as, f c = none ∧ g c = none := by
        simpa [List.getLast?_eq_none_iff, List.filterMap_eq_nil_iff] using hlast
      have hf : as.filterMap f = [] := List.filterMap_eq_nil_iff.2 fun c hc => (hnone c hc).1
      have hg : as.filterMap g = [] := List.filterMap_eq_nil_iff.2 fun c hc => (hnone c hc).2
      rw [hlast, Option.none_or] at h
      rw [hf, hg]
      cases hfa : f a with
      | none => simp_all
      | some c => simp_all

theorem map_filterMap_sublist {value : β → γ} {name : α → γ}
    (h : ∀ a ∈ as, ∀ b, f a = some b → value b = name a) :
    ((as.filterMap f).map value).Sublist (as.map name) := by
  induction as with
  | nil => exact .slnil
  | cons a as ih =>
    obtain ⟨ha, has⟩ := List.forall_mem_cons.1 h
    cases hf : f a with
    | none => simpa [hf] using (ih has).cons _
    | some b => simpa [List.filterMap_cons, hf, ha b hf] using ih has

end

/-! ### The mark between two questions -/

theorem IsPunctuation.spells_eq_false {x k : Char} (hx : IsPunctuation x) (hk : IsKeyChar k)
    (hword : isWordChar k) : spells x k = false := by
  have hlower : ∀ n < 0x80, IsPunctuation (Char.ofNat n) →
      (Char.ofNat n).toLower = Char.ofNat n := by decide
  obtain ⟨hlow, hhigh, halpha⟩ := hx
  have hx' := hlower x.toNat (by omega)
  rw [Char.ofNat_toNat] at hx'
  rw [Bool.eq_false_iff, Ne, hk.spells_iff_of_lt (by omega), hx' ⟨hlow, hhigh, halpha⟩]
  rintro rfl
  have hblank : x ≠ ' ' := by
    rintro rfl
    exact absurd hlow (by decide)
  simp [isWordChar, halpha, hblank] at hword

theorem spelledIn_joined_iff {key : List Char} {x : Char} (hx : IsPunctuation x) (hkey : IsKey key)
    (hwords : key.all isWordChar) (q₁ q₂ : String) :
    SpelledIn key (joined q₁ x q₂).toList ↔ SpelledIn key q₁.toList ∨ SpelledIn key q₂.toList := by
  have hspells : ∀ k ∈ key, spells x k = false :=
    fun k hk => hx.spells_eq_false (hkey.chars k hk) (List.all_eq_true.1 hwords k hk)
  have htext : (joined q₁ x q₂).toList = q₁.toList ++ x :: q₂.toList := by
    simp [joined]
  rw [htext, spelledIn_append_cons_iff hspells]

namespace Vocabulary

/-- Whether a category fires on a question. -/
def fires (query : String) (rules : List Rule) : Bool :=
  rules.any (·.matches (lowercase query.toList))

/-- No category fires on both questions. -/
def FireApart (q₁ q₂ : String) : Prop :=
  ∀ rules ∈ categories, ¬(fires q₁ rules ∧ fires q₂ rules)

instance (q₁ q₂ : String) : Decidable (FireApart q₁ q₂) :=
  inferInstanceAs (Decidable (∀ rules ∈ categories, _))

/-- The first rule of a category that applies to a question. -/
def ruleOf (query : String) (rules : List Rule) : Option Rule :=
  rules.find? fun rule => rule.SpelledIn query

variable {q₁ q₂ : String} {x : Char}

theorem ruleOf_eq_none_iff {rules : List Rule} (hrules : rules ∈ categories) (query : String) :
    ruleOf query rules = none ↔ fires query rules = false := by
  rw [ruleOf, List.find?_eq_none, fires, List.any_eq_false]
  refine forall₂_congr fun rule hrule => ?_
  rw [matches_lowercase hrules hrule]

theorem FireApart.ruleOf_eq_none (h : FireApart q₁ q₂) :
    ∀ rules ∈ categories, ruleOf q₁ rules = none ∨ ruleOf q₂ rules = none := by
  intro rules hrules
  have hnot := h rules hrules
  rw [ruleOf_eq_none_iff hrules, ruleOf_eq_none_iff hrules]
  cases hfires : fires q₁ rules with
  | false => exact .inl rfl
  | true => exact .inr (by simpa [hfires] using hnot)

theorem words_ownerPhrase : ownerPhrase.toList.all isWordChar := by
  decide

theorem words_keywords : ∀ rules ∈ categories, ∀ rule ∈ rules, ∀ k ∈ rule.keywords,
    k.toList.all isWordChar := by
  decide

theorem asksOwner_joined_iff (hx : IsPunctuation x) :
    AsksOwner (joined q₁ x q₂) ↔ AsksOwner q₁ ∨ AsksOwner q₂ :=
  spelledIn_joined_iff hx isKey_ownerPhrase words_ownerPhrase q₁ q₂

theorem rule_spelledIn_joined_iff (hx : IsPunctuation x) {rules : List Rule} {rule : Rule}
    (hrules : rules ∈ categories) (hrule : rule ∈ rules) :
    rule.SpelledIn (joined q₁ x q₂) ↔ rule.SpelledIn q₁ ∨ rule.SpelledIn q₂ := by
  have hkeys : ∀ k ∈ rule.keywords, SpelledIn k.toList (joined q₁ x q₂).toList ↔
      SpelledIn k.toList q₁.toList ∨ SpelledIn k.toList q₂.toList := by
    intro k hk
    exact spelledIn_joined_iff hx (isKey_keywords rules hrules rule hrule k hk).1
      (words_keywords rules hrules rule hrule k hk) q₁ q₂
  simp only [Rule.SpelledIn]
  constructor
  · rintro ⟨k, hk, hs⟩
    exact ((hkeys k hk).1 hs).imp (fun hs => ⟨k, hk, hs⟩) fun hs => ⟨k, hk, hs⟩
  · rintro (⟨k, hk, hs⟩ | ⟨k, hk, hs⟩)
    · exact ⟨k, hk, (hkeys k hk).2 (.inl hs)⟩
    · exact ⟨k, hk, (hkeys k hk).2 (.inr hs)⟩

/-- What a category gives for one of two questions it gives for the joined one, if it gives nothing
for the other. -/
theorem ruleOf_joined (hx : IsPunctuation x) {rules : List Rule} (hrules : rules ∈ categories)
    (h : ruleOf q₁ rules = none ∨ ruleOf q₂ rules = none) :
    ruleOf (joined q₁ x q₂) rules = (ruleOf q₁ rules).or (ruleOf q₂ rules) := by
  have hjoined : ∀ rule ∈ rules, rule.SpelledIn (joined q₁ x q₂) ↔
      rule.SpelledIn q₁ ∨ rule.SpelledIn q₂ :=
    fun rule hrule => rule_spelledIn_joined_iff hx hrules hrule
  have hnone : ∀ q, ruleOf q rules = none → ∀ rule ∈ rules, ¬rule.SpelledIn q := by
    intro q hq rule hrule
    simpa using List.find?_eq_none.1 hq rule hrule
  rcases h with h | h
  · rw [h, Option.none_or]
    refine List.find?_congr fun rule hrule => decide_eq_decide.2 ?_
    rw [hjoined rule hrule, or_iff_right (hnone q₁ h rule hrule)]
  · rw [h, Option.or_none]
    refine List.find?_congr fun rule hrule => decide_eq_decide.2 ?_
    rw [hjoined rule hrule, or_iff_left (hnone q₂ h rule hrule)]

theorem firstRules_joined (hx : IsPunctuation x) (h : FireApart q₁ q₂) :
    firstRules (joined q₁ x q₂) =
      categories.filterMap fun rules => (ruleOf q₁ rules).or (ruleOf q₂ rules) :=
  List.filterMap_congr fun rules hrules => ruleOf_joined hx hrules (h.ruleOf_eq_none rules hrules)

theorem perm_firstRules (hx : IsPunctuation x) (h : FireApart q₁ q₂) :
    (firstRules (joined q₁ x q₂)).Perm (firstRules q₁ ++ firstRules q₂) := by
  rw [firstRules_joined hx h]
  exact filterMap_or_perm h.ruleOf_eq_none

/-- Each category has one attribute, so conditions stand in the order of voltage, type, status. -/
theorem fields_firstRules (query : String) :
    ((firstRules query).map fun rule => rule.condition.field).Sublist
      [Field.voltage, Field.type, Field.status] := by
  let field (rules : List Rule) : String :=
    (rules.head?.map fun rule => rule.condition.field).getD ""
  have hfields : ∀ rules ∈ categories, ∀ rule ∈ rules, rule.condition.field = field rules := by
    decide
  have hsublist : ((categories.filterMap (ruleOf query)).map fun rule =>
      rule.condition.field).Sublist (categories.map field) :=
    map_filterMap_sublist fun rules hrules rule hrule =>
      hfields rules hrules rule (List.mem_of_find?_eq_some hrule)
  exact hsublist

/-- The conditions of two questions are joined in the order of the categories, with the words of
the question whose condition comes last. -/
structure Joins (cs₁ cs₂ : List Condition) (words₁ words₂ : String) (cs : List Condition)
    (words : String) : Prop where
  conditions : cs.Perm (cs₁ ++ cs₂)
  order : (cs.map Condition.field).Sublist [Field.voltage, Field.type, Field.status]
  words : (cs.getLast? = cs₁.getLast? ∧ words = words₁) ∨
    (cs.getLast? = cs₂.getLast? ∧ words = words₂)

theorem joins_firstRules {words₁ words₂ words : String} {rule : Rule} (hx : IsPunctuation x)
    (h : FireApart q₁ q₂) (hlast : (firstRules (joined q₁ x q₂)).getLast? = some rule)
    (h₁ : (firstRules q₁).getLast?.map Rule.description = some words₁)
    (h₂ : (firstRules q₂).getLast?.map Rule.description = some words₂)
    (hwords : words = rule.description) :
    Joins ((firstRules q₁).map Rule.condition) ((firstRules q₂).map Rule.condition) words₁ words₂
      ((firstRules (joined q₁ x q₂)).map Rule.condition) words where
  conditions := by
    rw [← List.map_append]
    exact (perm_firstRules hx h).map _
  order := by
    rw [List.map_map]
    exact fields_firstRules (joined q₁ x q₂)
  words := by
    have hcases : (firstRules q₁).getLast? = some rule ∨ (firstRules q₂).getLast? = some rule := by
      rw [firstRules_joined hx h] at hlast
      exact getLast?_filterMap_or hlast
    simp only [List.getLast?_map, hlast]
    rcases hcases with hrule | hrule
    · rw [hrule] at h₁ ⊢
      exact .inl ⟨rfl, hwords.trans (Option.some.inj h₁)⟩
    · rw [hrule] at h₂ ⊢
      exact .inr ⟨rfl, hwords.trans (Option.some.inj h₂)⟩

/-- **A joined question is a filter for what both questions ask for.** -/
theorem ofQuery_joined {cs₁ cs₂ : List Condition} {words₁ words₂ : String}
    (h₁ : Intent.ofQuery q₁ = .filter cs₁ words₁) (h₂ : Intent.ofQuery q₂ = .filter cs₂ words₂)
    (h : FireApart q₁ q₂) (hx : IsPunctuation x) :
    ∃ cs words, Intent.ofQuery (joined q₁ x q₂) = .filter cs words ∧
      Joins cs₁ cs₂ words₁ words₂ cs words := by
  obtain ⟨howner₁, rfl, hwords₁⟩ := (ofQuery_eq_filter_iff q₁ cs₁ words₁).1 h₁
  obtain ⟨howner₂, rfl, hwords₂⟩ := (ofQuery_eq_filter_iff q₂ cs₂ words₂).1 h₂
  have howner : ¬AsksOwner (joined q₁ x q₂) := by
    rw [asksOwner_joined_iff hx]
    exact not_or.2 ⟨howner₁, howner₂⟩
  cases hlast : (firstRules (joined q₁ x q₂)).getLast? with
  | some rule =>
    exact ⟨_, _, ofQuery_of_getLast? howner hlast, joins_firstRules hx h hlast hwords₁ hwords₂ rfl⟩
  | none =>
    -- the first question has a rule, so the joined one has
    have hperm := perm_firstRules hx h
    rw [List.getLast?_eq_none_iff.1 hlast] at hperm
    have hnil : firstRules q₁ = [] := (List.append_eq_nil_iff.1 hperm.nil_eq.symm).1
    rw [hnil] at hwords₁
    cases hwords₁

end Vocabulary

end Gridlines
