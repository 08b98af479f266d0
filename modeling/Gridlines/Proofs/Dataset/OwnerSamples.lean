import Gridlines.Answer.Execute
import Gridlines.Proofs.Answer.Filter
import Gridlines.Proofs.Answer.Leaderboard
import Gridlines.Proofs.Dataset.Ranking
import Gridlines.Proofs.Json.Texts
import Gridlines.Question.Vocabulary

/-!
# The leading owner and the owner sampled first

The leaderboard and the summary count the owners in two ways.  Both put the largest count first;
among owners with equally many lines the leaderboard compares the names and the summary compares
their JSON texts.  The orders differ where a name is written with an escape and where one name goes
on after another with a blank or an exclamation mark, since those two are smaller than the closing
quote.

* `compact_string_lt` : names that are written as they are have texts in the same order.
* `Dataset.FirstSample` : what the two answers have in common.
* `Dataset.firstSample_of_texts` : it holds of every dataset whose owners are texts.
* `Dataset.firstSample_ne_leader` : a tie in which they name two owners.
-/

namespace Gridlines

/-! ### The JSON text of a name -/

theorem compact_string_inj {s t : String} (h : (Json.string s).compact = (Json.string t).compact) :
    s = t :=
  Json.string.inj (Json.compact_inj.1 h)

theorem escapeChar_eq_singleton {c : Char} (h : Json.escapeChar c = [c]) :
    c ≠ '"' ∧ 32 ≤ c.toNat := by
  unfold Json.escapeChar at h
  split_ifs at h <;> simp_all

/-- The name is written in JSON as it is, without an escape. -/
def WrittenPlain (s : String) : Prop := ∀ c ∈ s.toList, Json.escapeChar c = [c]

theorem flatMap_escapeChar {cs : List Char} (h : ∀ c ∈ cs, Json.escapeChar c = [c]) :
    cs.flatMap Json.escapeChar = cs := by
  induction cs with
  | nil => rfl
  | cons c cs ih =>
    obtain ⟨hc, hcs⟩ := List.forall_mem_cons.1 h
    rw [List.flatMap_cons, hc, ih hcs, List.singleton_append]

/-- Where neither of two smaller characters follows, the closing quote keeps the order. -/
theorem append_quote_lt {cs ds : List Char} (hds : ∀ c ∈ ds, Json.escapeChar c = [c])
    (hblank : ¬cs ++ [' '] <+: ds) (hmark : ¬cs ++ ['!'] <+: ds) (h : cs < ds) :
    cs ++ ['"'] < ds ++ ['"'] := by
  induction cs generalizing ds with
  | nil =>
    cases ds with
    | nil => exact absurd h (lt_irrefl _)
    | cons d ds =>
      obtain ⟨hquote, hcontrol⟩ := escapeChar_eq_singleton (hds d List.mem_cons_self)
      have hd : d ≠ ' ' ∧ d ≠ '!' := by
        refine ⟨fun hd => hblank ?_, fun hd => hmark ?_⟩ <;> simp [hd]
      -- the blank, the mark and the quote are the first three characters without a control
      have hne : d.toNat ≠ 32 ∧ d.toNat ≠ 33 ∧ d.toNat ≠ 34 :=
        ⟨fun hn => hd.1 (Char.toNat_inj.1 hn), fun hn => hd.2 (Char.toNat_inj.1 hn),
          fun hn => hquote (Char.toNat_inj.1 hn)⟩
      have hlt : '"' < d := by
        rw [Char.lt_def, UInt32.lt_iff_toNat_lt]
        change 34 < d.toNat
        omega
      exact List.cons_lt_cons_iff.2 (.inl hlt)
  | cons c cs ih =>
    cases ds with
    | nil => exact absurd h (List.not_lt_nil _)
    | cons d ds =>
      simp only [List.cons_append, List.cons_prefix_cons, not_and] at hblank hmark ⊢
      rcases List.cons_lt_cons_iff.1 h with hlt | ⟨rfl, hlt⟩
      · exact List.cons_lt_cons_iff.2 (.inl hlt)
      · have hrest := ih (List.forall_mem_cons.1 hds).2 (hblank rfl) (hmark rfl) hlt
        exact List.cons_lt_cons_iff.2 (.inr ⟨rfl, hrest⟩)

/-- Names that are written as they are have their texts in the same order, unless one goes on after
the other with a blank or an exclamation mark. -/
theorem compact_string_lt {s t : String} (hs : WrittenPlain s) (ht : WrittenPlain t)
    (hblank : ¬s.toList ++ [' '] <+: t.toList) (hmark : ¬s.toList ++ ['!'] <+: t.toList)
    (h : s < t) : (Json.string s).compact < (Json.string t).compact := by
  have hquote := append_quote_lt ht hblank hmark (String.lt_iff_toList_lt.1 h)
  rw [String.lt_iff_toList_lt]
  simp only [Json.compact, Json.compactChars, Json.stringText, String.toList_ofList,
    flatMap_escapeChar hs, flatMap_escapeChar ht]
  exact List.cons_lt_cons_iff.2 (.inr ⟨rfl, hquote⟩)

namespace Dataset

/-! ### Names and values -/

/-- The values of a name that are texts, in the order of the features. -/
def texts (d : Dataset) (name : String) : List String := d.features.filterMap (·.text? name)

theorem map_string_filterMap {xs : List Json} (h : ∀ x ∈ xs, ∃ s, x = .string s) :
    (xs.filterMap Json.string?).map Json.string = xs := by
  induction xs with
  | nil => rfl
  | cons x xs ih =>
    obtain ⟨⟨s, rfl⟩, hxs⟩ := List.forall_mem_cons.1 h
    simp [Json.string?, ih hxs]

theorem values_eq_map_texts {d : Dataset} {name : String}
    (h : ∀ x ∈ d.values name, ∃ s, x = .string s) :
    d.values name = (d.texts name).map Json.string := by
  have htexts : d.texts name = (d.values name).filterMap Json.string? := by
    rw [values, List.filterMap_filterMap]
    rfl
  rw [htexts, map_string_filterMap h]

theorem countText_map_string (names : List String) (s : String) :
    countText (names.map Json.string) (Json.string s).compact = names.count s := by
  rw [countText, List.countP_map, List.count]
  refine List.countP_congr fun t _ => ?_
  simp only [Function.comp_apply, beq_iff_eq]
  exact ⟨compact_string_inj, fun h => h ▸ rfl⟩

theorem leadingGroup?_eq {d : Dataset} {name : String}
    (h : ∀ x ∈ d.values name, ∃ s, x = .string s) :
    leadingGroup? d.features name = firstLargest (tally (d.texts name)).entries := by
  have hnames : (d.values name).map groupName = d.texts name := by
    rw [values_eq_map_texts h, List.map_map]
    exact List.map_id _
  rw [leadingGroup?, groupCounts, ← values, hnames]

theorem hasColumn_of_values_ne_nil {d : Dataset} {name : String} (h : d.values name ≠ []) :
    d.hasColumn name := by
  obtain ⟨x, hx⟩ := List.exists_mem_of_ne_nil _ h
  obtain ⟨f, hf, hget⟩ := List.mem_filterMap.1 hx
  exact hasColumn_iff.2 ⟨f, hf, SortedMap.mem_keys_iff.2 ⟨x, (Feature.get?_eq_some_iff.1 hget).1⟩⟩

/-- The first of the ranked values: no name is more frequent, and of equally frequent names none has
a smaller text. -/
theorem rankValues_eq_string_cons {d : Dataset} {name : String}
    (htexts : ∀ x ∈ d.values name, ∃ s, x = .string s) (hne : d.values name ≠ []) :
    ∃ s rest, rankValues (d.values name) = ⟨.string s, (d.texts name).count s⟩ :: rest ∧
      ∀ t ∈ d.texts name, (d.texts name).count t < (d.texts name).count s ∨
        (d.texts name).count s = (d.texts name).count t ∧
          (Json.string s).compact ≤ (Json.string t).compact := by
  have hvalues := values_eq_map_texts htexts
  obtain ⟨⟨value, count⟩, rest, hrank, hmem, hcount, hbefore⟩ := rankValues_eq_cons hne
  obtain ⟨s, rfl⟩ := htexts value hmem
  -- the counts of the texts are those of the names
  have hcounts : ∀ t,
      countText (d.values name) (Json.string t).compact = (d.texts name).count t := by
    intro t
    rw [hvalues, countText_map_string]
  obtain rfl : count = (d.texts name).count s := hcount.trans (hcounts s)
  refine ⟨s, rest, hrank, fun t ht => ?_⟩
  have ht' : Json.string t ∈ d.values name := hvalues ▸ List.mem_map_of_mem ht
  have hrank := hbefore _ ht'
  rwa [hcounts] at hrank

/-! ### The two answers -/

/-- The leaderboard names the owner `k` with `n` lines, and the summary with `top` samples starts
with the owner `s` and the same number. -/
structure FirstSample (d : Dataset) (description : String) (top : Nat) (k : String) (n : Nat)
    (s : String) : Prop where
  text : (d.execute (.aggregate Field.owner .count description)).text =
    "The utility that " ++ description ++ " is **" ++ k ++ "** with " ++ toString n ++ " lines."
  matched : (d.execute (.aggregate Field.owner .count description)).stats.matched = n
  sample : ∃ rest, (d.summary top).samples.get? Field.owner = some (⟨.string s, n⟩ :: rest)
  /-- Of the owners with the most lines, `k` is the smallest, -/
  leads : Leads (d.texts Field.owner) k n
  /-- and `s` is the one with the smallest JSON text. -/
  least : (d.texts Field.owner).count s = n ∧
    ∀ t, (d.texts Field.owner).count t = n → (Json.string s).compact ≤ (Json.string t).compact
  /-- They are one unless another owner with the most lines has a text before that of `k`. -/
  same_iff : s = k ↔
    ∀ t, (d.texts Field.owner).count t = n → (Json.string k).compact ≤ (Json.string t).compact
  /-- So they are one if the owners with the most lines are written as they are and none of them
  goes on after `k` with a blank or an exclamation mark. -/
  same : (∀ t, (d.texts Field.owner).count t = n → WrittenPlain t ∧
    ¬k.toList ++ [' '] <+: t.toList ∧ ¬k.toList ++ ['!'] <+: t.toList) → s = k

variable {d : Dataset} {description : String} {top : Nat}

/-- **The leading owner and the owner sampled first have equally many lines**, and they are the
same owner unless a tie is broken in two ways. -/
theorem firstSample_of_texts (htexts : ∀ x ∈ d.values Field.owner, ∃ s, x = .string s)
    (hne : d.values Field.owner ≠ []) (htop : 1 ≤ top) :
    ∃ k n s, d.FirstSample description top k n s := by
  have hvalues := values_eq_map_texts htexts
  have hnames : d.texts Field.owner ≠ [] := by
    intro hnil
    rw [hnil] at hvalues
    exact hne hvalues
  obtain ⟨k, n, hfirst, hleads⟩ := exists_leads hnames
  have hgroup : leadingGroup? d.features Field.owner = some (k, n) := by
    rw [leadingGroup?_eq htexts, hfirst]
  obtain ⟨s, rest, hrank, hbefore⟩ := rankValues_eq_string_cons htexts hne
  have hn : (d.texts Field.owner).count s = n := by
    rcases hbefore k hleads.mem with hlt | ⟨heq, -⟩
    · have hle := hleads.most s
      rw [hleads.count] at hlt
      omega
    · rw [heq, hleads.count]
  have hleast : ∀ t, (d.texts Field.owner).count t = n →
      (Json.string s).compact ≤ (Json.string t).compact := by
    intro t ht
    rcases hbefore t (hleads.mem_of_count ht) with hlt | ⟨-, hle⟩
    · omega
    · exact hle
  have hsame : s = k ↔ ∀ t, (d.texts Field.owner).count t = n →
      (Json.string k).compact ≤ (Json.string t).compact := by
    constructor
    · rintro rfl
      exact hleast
    · intro h
      exact compact_string_inj (le_antisymm (hleast k hleads.count) (h s hn))
  refine ⟨k, n, s, ?_⟩
  constructor
  case text => simp [execute, executeAggregate, hgroup]
  case matched => simp [execute, executeAggregate, hgroup]
  case sample =>
    have hmem : Field.owner ∈ Summary.sampled := by decide
    obtain ⟨m, rfl⟩ := Nat.exists_eq_add_one.2 htop
    refine ⟨rest.take m, ?_⟩
    rw [get?_samples, if_pos ⟨hmem, hasColumn_of_values_ne_nil hne⟩, hrank, List.take_succ_cons, hn]
  case leads => exact hleads
  case least => exact ⟨hn, hleast⟩
  case same_iff => exact hsame
  case same =>
    intro h
    refine hsame.2 fun t ht => ?_
    obtain ⟨hplain, hblank, hmark⟩ := h t ht
    rcases (hleads.first t ht).lt_or_eq with hlt | rfl
    · exact (compact_string_lt (h k hleads.count).1 hplain hblank hmark hlt).le
    · exact le_rfl

/-- A feature that has only an owner. -/
def ownedBy (owner : String) : Feature := .ofProperties (.ofList [(Field.owner, .string owner)])

/-- Three lines of two owners. -/
theorem firstSample_of_texts_two :
    let d := ofFeatures "" [ownedBy "B \"1\"", ownedBy "A", ownedBy "B \"1\""]
    (∀ x ∈ d.values Field.owner, ∃ s, x = .string s) ∧ d.values Field.owner ≠ [] ∧ 1 ≤ 10 ∧
      ∃ k n s, d.FirstSample "has most" 10 k n s := by
  intro d
  have htexts : ∀ x ∈ d.values Field.owner, ∃ s, x = .string s := by
    intro x hx
    have hx' : x ∈ [Json.string "B \"1\"", .string "A", .string "B \"1\""] := hx
    simp only [List.mem_cons, List.not_mem_nil, or_false] at hx'
    obtain rfl | rfl | rfl := hx' <;> exact ⟨_, rfl⟩
  have hne : d.values Field.owner ≠ [] := List.cons_ne_nil _ _
  exact ⟨htexts, hne, by decide, firstSample_of_texts htexts hne (by decide)⟩

/-- Two owners with one line each: the leaderboard names the one that the other goes on after, the
summary starts with the longer one. -/
theorem firstSample_ne_leader :
    let d := ofFeatures "" [ownedBy "CITY", ownedBy "CITY POWER"]
    (∀ x ∈ d.values Field.owner, ∃ s, x = .string s) ∧ d.values Field.owner ≠ [] ∧
      leadingGroup? d.features Field.owner = some ("CITY", 1) ∧
      (d.execute (.aggregate Field.owner .count Vocabulary.ownerDescription)).text =
        "The utility that utility owns the most lines is **CITY** with 1 lines." ∧
      ∀ rest, (d.summary 1).samples.get? Field.owner ≠ some (⟨.string "CITY", 1⟩ :: rest) := by
  intro d
  refine ⟨?_, List.cons_ne_nil _ _, by decide +kernel, by decide +kernel, ?_⟩
  · intro x hx
    have hx' : x ∈ [Json.string "CITY", .string "CITY POWER"] := hx
    simp only [List.mem_cons, List.not_mem_nil, or_false] at hx'
    obtain rfl | rfl := hx' <;> exact ⟨_, rfl⟩
  · intro rest h
    have hne : d.values Field.owner ≠ [] := List.cons_ne_nil _ _
    obtain ⟨v, values, hrank, -, -, hbefore⟩ := rankValues_eq_cons hne
    rw [get?_samples, if_pos (by decide +kernel), hrank] at h
    obtain ⟨rfl, -⟩ := List.cons.inj (Option.some.inj h)
    -- the longer name has the smaller text
    have hmem : Json.string "CITY POWER" ∈ d.values Field.owner :=
      List.mem_cons_of_mem _ List.mem_cons_self
    rcases hbefore _ hmem with hlt | ⟨-, hle⟩
    · exact absurd hlt (by decide +kernel)
    · exact absurd hle (by decide +kernel)

end Dataset

end Gridlines
