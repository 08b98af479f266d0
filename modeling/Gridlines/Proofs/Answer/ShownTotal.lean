import Gridlines.Proofs.Answer.Consistency
import Gridlines.Proofs.Binary64.NearestInteger

/-!
# The total in a text

The text of a filter gives the total of the lengths as an integer.  It is the nearest one, the even
one of two, as long as that has 64 bits; beyond them the text stays at the last integer that has.

* `shownTotal?` : the total as it is found in a text, without commas.
* `Dataset.ShowsTotal` : what is found there for a total.
* `Dataset.exists_showsTotal` : every finite total is shown in that way.
-/

namespace Gridlines

/-! ### The last occurrence of a mark -/

/-- What stands after the last occurrence of a mark, if it occurs. -/
def afterLast? (mark : List Char) : List Char → Option (List Char)
  | [] => mark.isPrefixOf? []
  | c :: cs => (afterLast? mark cs).or (mark.isPrefixOf? (c :: cs))

section

variable {m : Char} {ms : List Char}

theorem afterLast?_cons_of_ne {c : Char} (h : c ≠ m) (cs : List Char) :
    afterLast? (m :: ms) (c :: cs) = afterLast? (m :: ms) cs := by
  have hnone : (m :: ms).isPrefixOf? (c :: cs) = none := by
    rw [List.isPrefixOf?, if_neg (by simpa using h.symm)]
  rw [afterLast?, hnone, Option.or_none]

/-- No mark starts among characters that are not its first one. -/
theorem afterLast?_append_of_notMem {cs : List Char} (h : m ∉ cs) (rest : List Char) :
    afterLast? (m :: ms) (cs ++ rest) = afterLast? (m :: ms) rest := by
  induction cs with
  | nil => rfl
  | cons c cs ih =>
    obtain ⟨hc, hcs⟩ := not_or.1 (List.mem_cons.not.1 h)
    rw [List.cons_append, afterLast?_cons_of_ne (Ne.symm hc), ih hcs]

/-- An occurrence is the last one if the mark does not start again. -/
theorem afterLast?_append {rest : List Char} (h : afterLast? (m :: ms) (ms ++ rest) = none)
    (start : List Char) : afterLast? (m :: ms) (start ++ ((m :: ms) ++ rest)) = some rest := by
  induction start with
  | nil =>
    rw [List.nil_append, List.cons_append, afterLast?, h, Option.none_or]
    exact List.isPrefixOf?_eq_some_iff_append_eq.2 rfl
  | cons c cs ih => rw [List.cons_append, afterLast?, ih, Option.some_or]

end

/-! ### The total -/

/-- The characters after the last `totaling **`, up to the next `**` and without commas. -/
def shownTotal? (text : String) : Option (List Char) :=
  ((afterLast? "totaling **".toList text.toList).bind (before? "**".toList)).map withoutCommas

/-- A total is found whatever stands before it. -/
theorem shownTotal?_append (start : String) (n : Int) :
    shownTotal? (start ++ " totaling **" ++ groupThousands n ++
      "** units. Lines displayed on map.") = some (Json.integerText n) := by
  obtain ⟨total, htotal⟩ : ∃ total, (groupThousands n).toList = total := ⟨_, rfl⟩
  have hchars : ∀ c ∈ total, c = '-' ∨ c = ',' ∨ c.isDigit := fun _ h =>
    mem_groupThousands (htotal ▸ h)
  have ht : 't' ∉ total := by
    intro h
    rcases hchars _ h with h | h | h <;> exact absurd h (by decide)
  have hstar : '*' ∉ total := by
    intro h
    rcases hchars _ h with h | h | h <;> exact absurd h (by decide)
  let ending := "** units. Lines displayed on map.".toList
  have htext : (start ++ " totaling **" ++ groupThousands n ++
      "** units. Lines displayed on map.").toList =
      (start.toList ++ [' ']) ++ ("totaling **".toList ++ (total ++ ending)) := by
    simp only [String.toList_append, List.append_assoc, htotal]
    rfl
  have hending : afterLast? "totaling **".toList ending = none := by decide +kernel
  have hagain : afterLast? "totaling **".toList ("otaling **".toList ++ (total ++ ending)) =
      none := by
    -- the mark has its first character once more
    have hinside : afterLast? "totaling **".toList ("taling **".toList ++ (total ++ ending)) =
        afterLast? "totaling **".toList ("aling **".toList ++ (total ++ ending)) :=
      Option.or_none
    calc afterLast? "totaling **".toList ("otaling **".toList ++ (total ++ ending))
        = afterLast? "totaling **".toList ("taling **".toList ++ (total ++ ending)) :=
          afterLast?_cons_of_ne (by decide) _
      _ = afterLast? "totaling **".toList ("aling **".toList ++ (total ++ ending)) := hinside
      _ = afterLast? "totaling **".toList (total ++ ending) :=
          afterLast?_append_of_notMem (by decide) _
      _ = afterLast? "totaling **".toList ending := afterLast?_append_of_notMem ht _
      _ = none := hending
  have hafter : afterLast? "totaling **".toList
      ((start.toList ++ [' ']) ++ ("totaling **".toList ++ (total ++ ending))) =
      some (total ++ ending) := afterLast?_append hagain _
  have hbefore : before? "**".toList (total ++ ending) = some total :=
    before?_append hstar ['*'] " units. Lines displayed on map.".toList
  have hcommas : withoutCommas total = Json.integerText n :=
    htotal ▸ withoutCommas_groupThousands n
  rw [shownTotal?, htext, hafter, Option.bind_some, hbefore, Option.map_some, hcommas]

namespace Dataset

/-- A text shows the total `t`, whose nearest integer is `n`. -/
structure ShowsTotal (text : String) (t : Finite) (n : Int) : Prop where
  nearest : IsNearestInteger n t.toRat
  within : Binary64.minInt64 ≤ n → n ≤ Binary64.maxInt64 →
    shownTotal? text = some (Json.integerText n)
  /-- The text stays at the last integers of 64 bits. -/
  above : Binary64.maxInt64 ≤ n → shownTotal? text = some (Json.integerText Binary64.maxInt64)
  below : n ≤ Binary64.minInt64 → shownTotal? text = some (Json.integerText Binary64.minInt64)

variable {d : Dataset} {cs : List Condition} {description : String} {t : Finite}

/-- **The text of a filter shows the total, rounded to the nearest integer**, the even one of two. -/
theorem exists_showsTotal
    (h : (d.execute (.filter cs description)).stats.totalLength = some (.finite t)) :
    ∃ n, ShowsTotal (d.execute (.filter cs description)).text t n := by
  have hshown : shownTotal? (d.execute (.filter cs description)).text =
      some (Json.integerText (Binary64.finite t).toInt64) := by
    rcases text_executeFilter d cs description with ⟨t', htotal, htext⟩ | ⟨hnone, -⟩
    · obtain rfl : t' = t := Binary64.finite.inj (Option.some.inj (htotal.symm.trans h))
      rw [execute, htext]
      exact shownTotal?_append _ _
    · exact absurd h (hnone t)
  have hmin : Binary64.minInt64 ≤ Binary64.maxInt64 := by decide
  have hround : (Binary64.finite t).toInt64 =
      max Binary64.minInt64 (min Binary64.maxInt64 t.roundInt) := rfl
  rw [hround] at hshown
  refine ⟨t.roundInt, t.isNearestInteger_roundInt, ?_, ?_, ?_⟩
  · intro hlow hhigh
    rwa [min_eq_right hhigh, max_eq_right hlow] at hshown
  · intro hhigh
    rwa [min_eq_left hhigh, max_eq_right hmin] at hshown
  · intro hlow
    rwa [min_eq_right (hlow.trans hmin), max_eq_left hlow] at hshown

/-- A line that has only a length. -/
def lineOfLength (n : Json.Number) : Feature := .ofProperties (.ofList [(Field.length, .number n)])

/-- A total of `-2.5` is halfway between two integers. -/
theorem exists_showsTotal_half :
    let t : Finite := ⟨true, 1024 * Finite.binade + 1 <<< 50, by decide⟩
    let r := (ofFeatures "" [lineOfLength (.float t)]).execute (.filter [] "lines")
    t.toRat = -5 / 2 ∧ r.stats.totalLength = some (.finite t) ∧ ∃ n, ShowsTotal r.text t n := by
  intro t r
  have htotal : r.stats.totalLength = some (.finite t) := by decide +kernel
  have hvalue : t.toRat = -5 / 2 := by decide +kernel
  exact ⟨hvalue, htotal, exists_showsTotal htotal⟩

/-- A line of length `10 ^ 19` is shown with another length. -/
theorem shownTotal?_ne :
    let t : Finite := ⟨false, nearestRank (10 ^ 19) 1, by decide +kernel⟩
    let r := (ofFeatures "" [lineOfLength (.int (10 ^ 19))]).execute (.filter [] "lines")
    r.stats.totalLength = some (.finite t) ∧ t.toRat = (10 ^ 19 : ℤ) ∧
      r.text = "Found **1** lines totaling **9,223,372,036,854,775,807** units. " ++
        "Lines displayed on map." ∧
      shownTotal? r.text ≠ some (Json.integerText (10 ^ 19)) := by
  intro t r
  exact ⟨by decide +kernel, by decide +kernel, by decide +kernel, by decide +kernel⟩

end Dataset

end Gridlines
