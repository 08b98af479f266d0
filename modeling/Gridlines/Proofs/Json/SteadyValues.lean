import Gridlines.Proofs.Json.Steady

/-!
# What is read as a value depends on what is taken

Arrays and objects end with their closing mark, and every value is known from its own symbols and
the one after them.  That holds for values that are read and for those that are passed over.

* `closed_readItems`, `closed_readMembers` : the loops of arrays and objects.
* `steady_readValue`, `skipValue_eq_ok` : reading and passing over values.
-/

namespace Gridlines

namespace Json

variable {α : Type}

/-! ### Items and members -/

theorem readColon_eq_ok {s r : Content} (h : readColon s = .ok r) :
    ∃ t, s = t ++ r ∧ ∀ r', readColon (t ++ r') = .ok r' := by
  unfold readColon at h
  split at h
  · cases h
  · next hgaps =>
    cases h
    obtain ⟨t, rfl, ht⟩ := exists_gaps hgaps
    refine ⟨t ++ [.char ':'], by simp, fun r' => ?_⟩
    rw [List.append_assoc, List.singleton_append, readColon, ht]
    rfl
  · cases h

/-- Whether there is a next item is known from the symbol it starts with. -/
theorem nextItem_eq_some {isFirst : Bool} {s r : Content}
    (h : nextItem isFirst s = .ok (some r)) :
    ∃ t, s = t ++ r ∧ ∀ r', r'.head? = r.head? → nextItem isFirst (t ++ r') = .ok (some r') := by
  unfold nextItem at h
  split at h
  · cases h
  · cases h
  · next x s₁ hclose hgaps =>
    obtain ⟨t, rfl, ht⟩ := exists_gaps hgaps
    split_ifs at h with hfirst hcomma
    · cases h
      refine ⟨t, rfl, fun r' hr' => ?_⟩
      obtain ⟨u, rfl⟩ := List.head?_eq_some_iff.1 hr'
      unfold nextItem
      rw [ht]
      split
      · next heq => cases heq
      · next heq =>
        cases heq
        exact (hclose rfl).elim
      · next heq =>
        cases heq
        rw [if_pos hfirst]
    · subst hcomma
      split at h
      · cases h
      · cases h
      · next hnil hbracket =>
        cases h
        rcases hr : skipGaps s₁ with _ | ⟨y, v⟩
        · exact (hnil hr).elim
        have hy : y ≠ .char ']' := by
          rintro rfl
          exact hbracket v hr
        obtain ⟨u, rfl, hu⟩ := exists_gaps hr
        refine ⟨t ++ .char ',' :: u, by simp, fun r' hr' => ?_⟩
        obtain ⟨v', rfl⟩ := List.head?_eq_some_iff.1 hr'
        rw [List.append_assoc, List.cons_append]
        unfold nextItem
        rw [ht]
        simp only [if_neg hfirst, if_true, hu]
        split
        · next heq => cases heq
        · next heq =>
          cases heq
          exact absurd rfl hy
        · rfl

/-- The end of an array. -/
theorem nextItem_eq_none {isFirst : Bool} {s : Content} (h : nextItem isFirst s = .ok none) :
    ∃ t r, s = t ++ r ∧ t ≠ [] ∧ endArray s = .ok r ∧
      ∀ r', nextItem isFirst (t ++ r') = .ok none ∧ endArray (t ++ r') = .ok r' := by
  unfold nextItem at h
  split at h
  · cases h
  · next r hgaps =>
    obtain ⟨t, rfl, ht⟩ := exists_gaps hgaps
    have hend : ∀ r', nextItem isFirst (t ++ [.char ']'] ++ r') = .ok none ∧
        endArray (t ++ [.char ']'] ++ r') = .ok r' := by
      intro r'
      rw [List.append_assoc, List.singleton_append, nextItem, endArray, ht]
      exact ⟨rfl, rfl⟩
    refine ⟨t ++ [.char ']'], r, by simp, by simp, ?_, hend⟩
    have hread := (hend r).2
    rwa [List.append_assoc, List.singleton_append] at hread
  · split_ifs at h
    · cases h
    · split at h <;> cases h

/-- The name of the next member comes after its quote. -/
theorem nextMember_eq_some {isFirst : Bool} {s r : Content}
    (h : nextMember isFirst s = .ok (some r)) :
    ∃ t, s = t ++ r ∧ t ≠ [] ∧ ∀ r', nextMember isFirst (t ++ r') = .ok (some r') := by
  unfold nextMember at h
  split at h
  · cases h
  · cases h
  · next x s₁ hclose hgaps =>
    obtain ⟨t, rfl, ht⟩ := exists_gaps hgaps
    split_ifs at h with hfirst hquote hcomma
    · cases h
      subst hquote
      refine ⟨t ++ [.char '"'], by simp, by simp, fun r' => ?_⟩
      rw [List.append_assoc, List.singleton_append, nextMember, ht]
      simp only [if_pos hfirst, if_true]
    · subst hcomma
      split at h
      · cases h
      · next v hv =>
        cases h
        obtain ⟨u, rfl, hu⟩ := exists_gaps hv
        refine ⟨t ++ .char ',' :: (u ++ [.char '"']), by simp, by simp, fun r' => ?_⟩
        rw [List.append_assoc, List.cons_append, List.append_assoc, List.singleton_append,
          nextMember, ht]
        simp only [if_neg hfirst, if_true, hu]
      · cases h
      · cases h

/-- The end of an object. -/
theorem nextMember_eq_none {isFirst : Bool} {s : Content} (h : nextMember isFirst s = .ok none) :
    ∃ t r, s = t ++ r ∧ t ≠ [] ∧ (skipGaps s).drop 1 = r ∧
      ∀ r', nextMember isFirst (t ++ r') = .ok none ∧ (skipGaps (t ++ r')).drop 1 = r' := by
  unfold nextMember at h
  split at h
  · cases h
  · next r hgaps =>
    obtain ⟨t, rfl, ht⟩ := exists_gaps hgaps
    refine ⟨t ++ [.char '\x7d'], r, by simp, by simp, by rw [hgaps]; rfl, fun r' => ?_⟩
    rw [List.append_assoc, List.singleton_append, nextMember, ht]
    exact ⟨rfl, rfl⟩
  · split_ifs at h
    · cases h
    · split at h <;> cases h

theorem closed_readItems {item : ℕ → Content → Except Fault (α × Content)} (hitem : Steady item) :
    Closed fun n s => readItems (item n) n s := by
  have hgo : ∀ N n acc s xs r, readItems.go (item N) n acc s = .ok (xs, r) →
      ∃ t, s = t ++ r ∧ t ≠ [] ∧ ∀ N' ≥ N, ∀ n' ≥ n, ∀ r',
        readItems.go (item N') n' acc (t ++ r') = .ok (xs, r') := by
    intro N n
    induction n with
    | zero =>
      intro acc s xs r h
      cases h
    | succ n ih =>
      intro acc s xs r h
      rw [readItems.go] at h
      split at h
      · cases h
      · next hnext =>
        obtain ⟨t, r₁, rfl, hne, hend, ht⟩ := nextItem_eq_none hnext
        rw [hend] at h
        cases h
        refine ⟨t, rfl, hne, fun N' _ n' hn r' => ?_⟩
        obtain ⟨k, rfl⟩ := Nat.exists_eq_add_one.2 (Nat.zero_lt_of_lt hn)
        rw [readItems.go, (ht r').1]
        dsimp only
        rw [(ht r').2]
        rfl
      · next s₁ hnext =>
        split at h
        · cases h
        · next x s₂ hx =>
          obtain ⟨t₀, rfl, ht₀⟩ := nextItem_eq_some hnext
          obtain ⟨t₁, rfl, ht₁⟩ := hitem hx
          obtain ⟨t₂, rfl, hne, ht₂⟩ := ih _ _ _ _ h
          refine ⟨t₀ ++ (t₁ ++ t₂), by simp only [List.append_assoc], by simp [hne],
            fun N' hN n' hn r' => ?_⟩
          obtain ⟨k, rfl⟩ := Nat.exists_eq_add_one.2 (Nat.zero_lt_of_lt hn)
          have hhead := head?_append_of_ne hne r r'
          rw [List.append_assoc, List.append_assoc, readItems.go,
            ht₀ _ (head?_append_congr hhead t₁)]
          dsimp only
          rw [ht₁ N' hN _ hhead]
          exact ht₂ N' hN k (Nat.le_of_succ_le_succ hn) r'
  intro n s xs r h
  obtain ⟨t, hs, hne, ht⟩ := hgo n n [] s xs r h
  exact ⟨t, hs, hne, fun n' hn r' => ht n' hn n' hn r'⟩

/-- One turn of the loop of an object: it ends, or it takes a member's name and colon off the text
and reads a value. -/
theorem readMembers_go_step {item : Content → Except Fault (α × Content)} {n : ℕ}
    {acc ms : List (String × α)} {s r : Content}
    (h : readMembers.go item (n + 1) acc s = .ok (ms, r)) :
    (∃ t, ms = acc.reverse ∧ s = t ++ r ∧ t ≠ [] ∧
      ∀ (item' : Content → Except Fault (α × Content)) n' acc' r', acc'.isEmpty = acc.isEmpty →
        readMembers.go item' (n' + 1) acc' (t ++ r') = .ok (acc'.reverse, r')) ∨
    ∃ k x t s₁ s₂, s = t ++ s₁ ∧ t ≠ [] ∧ item s₁ = .ok (x, s₂) ∧
      readMembers.go item n ((k, x) :: acc) s₂ = .ok (ms, r) ∧
      ∀ (item' : Content → Except Fault (α × Content)) n' acc' s₁' y s₂',
        acc'.isEmpty = acc.isEmpty → item' s₁' = .ok (y, s₂') →
        readMembers.go item' (n' + 1) acc' (t ++ s₁') =
          readMembers.go item' n' ((k, y) :: acc') s₂' := by
  rw [readMembers.go] at h
  split at h
  · cases h
  · next hnext =>
    cases h
    obtain ⟨t, r₁, hs, hne, hend, ht⟩ := nextMember_eq_none hnext
    rw [hend]
    refine .inl ⟨t, rfl, hs, hne, fun item' n' acc' r' hacc => ?_⟩
    rw [readMembers.go, hacc, (ht r').1]
    dsimp only
    rw [(ht r').2]
  · next s₀ hnext =>
    obtain ⟨⟨k, u⟩, hk, hcolon⟩ := bind_eq_ok h
    obtain ⟨s₁, hs₁, hitems⟩ := bind_eq_ok hcolon
    obtain ⟨⟨x, s₂⟩, hx, hgo⟩ := bind_eq_ok hitems
    obtain ⟨t₂, rfl, ht₂⟩ := readColon_eq_ok hs₁
    obtain ⟨t₁, rfl, ht₁⟩ := readString_eq_ok hk
    obtain ⟨t₀, rfl, hne, ht₀⟩ := nextMember_eq_some hnext
    refine .inr ⟨k, x, t₀ ++ (t₁ ++ t₂), s₁, s₂, by simp only [List.append_assoc], by simp [hne],
      hx, hgo, fun item' n' acc' s₁' y s₂' hacc hy => ?_⟩
    simp only [List.append_assoc]
    rw [readMembers.go, hacc, ht₀]
    dsimp only
    rw [ht₁, ok_bind]
    dsimp only
    rw [ht₂, ok_bind, hy, ok_bind]

theorem closed_readMembers {item : ℕ → Content → Except Fault (α × Content)}
    (hitem : Steady item) : Closed fun n s => readMembers (item n) n s := by
  have hgo : ∀ N n acc s ms r, readMembers.go (item N) n acc s = .ok (ms, r) →
      ∃ t, s = t ++ r ∧ t ≠ [] ∧ ∀ N' ≥ N, ∀ n' ≥ n, ∀ r',
        readMembers.go (item N') n' acc (t ++ r') = .ok (ms, r') := by
    intro N n
    induction n with
    | zero =>
      intro acc s ms r h
      cases h
    | succ n ih =>
      intro acc s ms r h
      rcases readMembers_go_step h with ⟨t, rfl, hs, hne, hend⟩ |
        ⟨k, x, t, s₁, s₂, rfl, -, hx, hgo, hturn⟩
      · refine ⟨t, hs, hne, fun N' _ n' hn r' => ?_⟩
        obtain ⟨m, rfl⟩ := Nat.exists_eq_add_one.2 (Nat.zero_lt_of_lt hn)
        exact hend _ _ _ _ rfl
      · obtain ⟨t₂, rfl, hne, ht₂⟩ := ih _ _ _ _ hgo
        obtain ⟨t₁, rfl, ht₁⟩ := hitem hx
        refine ⟨t ++ (t₁ ++ t₂), by simp only [List.append_assoc], by simp [hne],
          fun N' hN n' hn r' => ?_⟩
        obtain ⟨m, rfl⟩ := Nat.exists_eq_add_one.2 (Nat.zero_lt_of_lt hn)
        have hitem' := ht₁ N' hN _ (head?_append_of_ne hne r r')
        rw [List.append_assoc, List.append_assoc, hturn _ _ _ _ _ _ rfl hitem']
        exact ht₂ N' hN m (Nat.le_of_succ_le_succ hn) r'
  intro n s ms r h
  obtain ⟨t, hs, hne, ht⟩ := hgo n n [] s ms r h
  exact ⟨t, hs, hne, fun n' hn r' => ht n' hn n' hn r'⟩

/-! ### Values -/

theorem Steady.map {ε β : Type} {read : ℕ → Content → Except ε (α × Content)} (h : Steady read)
    (f : α → β) : Steady fun n s => (read n s).map fun r => (f r.1, r.2) := by
  intro n s y r hy
  obtain ⟨⟨x, r₁⟩, hx, hpair⟩ := map_eq_ok hy
  cases hpair
  obtain ⟨t, rfl, ht⟩ := h hx
  refine ⟨t, rfl, fun n' hn r' hr' => ?_⟩
  dsimp only
  rw [ht n' hn r' hr']
  rfl

theorem steady_readWord (cs : List Char) (x : α) :
    Steady fun (_ : ℕ) s => (readWord cs s).map fun s => (x, s) := by
  intro n s y r hy
  obtain ⟨r₁, hr₁, hpair⟩ := map_eq_ok hy
  cases hpair
  obtain ⟨t, rfl, ht⟩ := readWord_eq_ok hr₁
  refine ⟨t, rfl, fun n' _ r' _ => ?_⟩
  dsimp only
  rw [ht]
  rfl

theorem steady_readString : Steady fun (_ : ℕ) s => readString s := by
  intro n s x r h
  obtain ⟨t, hs, ht⟩ := readString_eq_ok h
  exact ⟨t, hs, fun n' _ r' _ => ht r'⟩

theorem steady_readNumber (negative : Bool) : Steady fun (_ : ℕ) s => readNumber negative s := by
  intro n s x r h
  obtain ⟨t, hs, -, ht⟩ := readNumber_eq_ok h
  exact ⟨t, hs, fun n' _ r' hr' => ht r' hr'⟩

/-- The first digit is part of the number. -/
theorem steady_readNumber_digit (negative : Bool) (c : Char) :
    Steady fun (_ : ℕ) s => readNumber negative (.char c :: s) := by
  intro n s x r h
  obtain ⟨t, hs, hne, ht⟩ := readNumber_eq_ok h
  obtain ⟨y, t, rfl⟩ := List.exists_cons_of_ne_nil hne
  obtain ⟨rfl, rfl⟩ := List.cons.inj hs
  exact ⟨t, rfl, fun n' _ r' hr' => ht r' hr'⟩

/-- Reads what follows the first character of a value. -/
def readAfter (items : Content → Except Fault (List Json × Content))
    (members : Content → Except Fault (List (String × Json) × Content)) (c : Char) (s : Content) :
    Except Fault (Json × Content) :=
  if c = 'n' then (readWord "ull".toList s).map fun s => (null, s)
  else if c = 't' then (readWord "rue".toList s).map fun s => (bool true, s)
  else if c = 'f' then (readWord "alse".toList s).map fun s => (bool false, s)
  else if c = '"' then (readString s).map fun r => (string r.1, r.2)
  else if c = '-' then (readNumber true s).map fun r => (number r.1, r.2)
  else if c.isDigit then (readNumber false (.char c :: s)).map fun r => (number r.1, r.2)
  else if c = '[' then (items s).map fun r => (array r.1, r.2)
  else if c = '\x7b' then (members s).map fun r => (object (SortedMap.ofList r.1).entries, r.2)
  else .error .expectedValue

theorem readValueWith_of_gaps {items : Content → Except Fault (List Json × Content)}
    {members : Content → Except Fault (List (String × Json) × Content)} {s u : Content} {c : Char}
    (h : skipGaps s = .char c :: u) :
    readValueWith items members s = readAfter items members c u := by
  rw [readValueWith, h]
  rfl

section

variable {items : ℕ → Content → Except Fault (List Json × Content)}
  {members : ℕ → Content → Except Fault (List (String × Json) × Content)}

theorem steady_readAfter (hitems : Closed items) (hmembers : Closed members) (c : Char) :
    Steady fun n s => readAfter (items n) (members n) c s := by
  unfold readAfter
  -- one case for each symbol that a value can start with
  split_ifs
  · exact steady_readWord _ _
  · exact steady_readWord _ _
  · exact steady_readWord _ _
  · exact steady_readString.map _
  · exact (steady_readNumber true).map _
  · exact (steady_readNumber_digit false c).map _
  · exact hitems.steady.map _
  · exact hmembers.steady.map fun ms => object (SortedMap.ofList ms).entries
  · intro n s x r h
    cases h

theorem steady_readValueWith (hitems : Closed items) (hmembers : Closed members) :
    Steady fun n s => readValueWith (items n) (members n) s := by
  intro n s x r h
  obtain ⟨c, u, hgaps⟩ : ∃ c u, skipGaps s = .char c :: u := by
    dsimp only at h
    unfold readValueWith at h
    split at h
    · cases h
    · cases h
    · next c u hgaps => exact ⟨c, u, hgaps⟩
  obtain ⟨t, rfl, ht⟩ := exists_gaps hgaps
  dsimp only at h
  rw [readValueWith_of_gaps hgaps] at h
  obtain ⟨v, rfl, hv⟩ := steady_readAfter hitems hmembers c h
  refine ⟨t ++ .char c :: v, by simp, fun n' hn r' hr' => ?_⟩
  simp only [List.append_assoc, List.cons_append]
  rw [readValueWith_of_gaps (ht _)]
  exact hv n' hn r' hr'

end

theorem steady_readValue (levels : ℕ) : Steady fun n s => readValue n levels s := by
  induction levels with
  | zero =>
    have hnone : ∀ {γ : Type}, Closed fun (_ : ℕ) (_ : Content) =>
        (.error .tooDeep : Except Fault (γ × Content)) := by
      intro γ n s x r h
      cases h
    exact steady_readValueWith hnone hnone
  | succ levels ih => exact steady_readValueWith (closed_readItems ih) (closed_readMembers ih)

/-! ### Values that are passed over -/

theorem skipName_object_eq_ok {s r : Content} (h : skipName .object s = .ok r) :
    ∃ t, s = t ++ r ∧ (∀ r', (skipGaps (t ++ r')).head? = (skipGaps s).head?) ∧
      ∀ r', skipName .object (t ++ r') = .ok r' := by
  unfold skipName at h
  dsimp only at h
  split at h
  · cases h
  · next u hgaps =>
    obtain ⟨s₁, hs₁, hcolon⟩ := bind_eq_ok h
    obtain ⟨t₂, rfl, ht₂⟩ := readColon_eq_ok hcolon
    obtain ⟨t₁, rfl, ht₁⟩ := skipString_eq_ok hs₁
    obtain ⟨t, rfl, ht⟩ := exists_gaps hgaps
    refine ⟨t ++ .char '"' :: (t₁ ++ t₂), by simp, fun r' => ?_, fun r' => ?_⟩
    · simp only [List.append_assoc, List.cons_append, ht, List.head?_cons]
    · simp only [List.append_assoc, List.cons_append]
      rw [skipName, ht]
      change skipString (t₁ ++ (t₂ ++ r')) >>= readColon = .ok r'
      rw [ht₁, ok_bind, ht₂]
  · cases h

theorem closeFrames_eq_ok {fs fs' : List Frame} {s r : Content}
    (h : closeFrames fs s = .ok (fs', r)) :
    ∃ t, s = t ++ r ∧ ∀ r', closeFrames fs (t ++ r') = .ok (fs', r') := by
  induction fs generalizing s with
  | nil =>
    cases h
    exact ⟨[], rfl, fun _ => rfl⟩
  | cons f fs ih =>
    rw [closeFrames] at h
    split at h
    · cases h
    · next x u hgaps =>
      obtain ⟨t, rfl, ht⟩ := exists_gaps hgaps
      split_ifs at h with hcomma hclose
      · obtain ⟨s₁, hs₁, h⟩ := map_eq_ok h
        cases h
        obtain ⟨v, rfl, hv⟩ : ∃ v, u = v ++ r ∧ ∀ r', skipName f (v ++ r') = .ok r' := by
          cases f with
          | array =>
            cases hs₁
            exact ⟨[], rfl, fun _ => rfl⟩
          | object =>
            obtain ⟨v, hu, -, hv⟩ := skipName_object_eq_ok hs₁
            exact ⟨v, hu, hv⟩
        refine ⟨t ++ x :: v, by simp, fun r' => ?_⟩
        rw [List.append_assoc, List.cons_append, closeFrames, ht]
        dsimp only
        rw [if_pos hcomma, hv]
        rfl
      · obtain ⟨v, rfl, hv⟩ := ih h
        refine ⟨t ++ x :: v, by simp, fun r' => ?_⟩
        rw [List.append_assoc, List.cons_append, closeFrames, ht]
        dsimp only
        rw [if_neg hcomma, if_pos hclose, hv]

/-- Where something stays open the first symbol after the gaps has been looked at as well. -/
theorem openFrame_eq_ok {f : Frame} {fs fs' : List Frame} {s r : Content}
    (h : openFrame f fs s = .ok (fs', r)) :
    ∃ t, s = t ++ r ∧ ∀ r', (fs' ≠ [] → (skipGaps r').head? = (skipGaps r).head?) →
      openFrame f fs (t ++ r') = .ok (fs', r') := by
  unfold openFrame at h
  split at h
  · cases h
  · next x u hgaps =>
    split_ifs at h with hclose
    · obtain ⟨t, rfl, ht⟩ := exists_gaps hgaps
      obtain ⟨v, rfl, hv⟩ := closeFrames_eq_ok h
      refine ⟨t ++ x :: v, by simp, fun r' _ => ?_⟩
      rw [List.append_assoc, List.cons_append, openFrame, ht]
      dsimp only
      rw [if_pos hclose, hv]
    · obtain ⟨s₁, hs₁, h⟩ := map_eq_ok h
      cases h
      have hopen : ∀ s', (skipGaps s').head? = (skipGaps s).head? → ∀ r', skipName f s' = .ok r' →
          openFrame f fs s' = .ok (f :: fs, r') := by
        intro s' hs' r' hname
        rw [hgaps] at hs'
        obtain ⟨u', hu'⟩ := List.head?_eq_some_iff.1 hs'
        rw [openFrame, hu']
        dsimp only
        rw [if_neg hclose, hname]
        rfl
      cases f with
      | array =>
        cases hs₁
        exact ⟨[], rfl, fun r' hr' => hopen r' (hr' (List.cons_ne_nil _ _)) r' rfl⟩
      | object =>
        obtain ⟨v, rfl, hhead, hv⟩ := skipName_object_eq_ok hs₁
        exact ⟨v, rfl, fun r' _ => hopen _ (hhead r') r' (hv r')⟩

/-- Passes over what follows the first character of a scalar. -/
def skipScalar (c : Char) (s : Content) : Except Fault Content :=
  if c = 'n' then readWord "ull".toList s
  else if c = 't' then readWord "rue".toList s
  else if c = 'f' then readWord "alse".toList s
  else if c = '"' then skipString s
  else if c = '-' then skipNumber s
  else if c.isDigit then skipNumber (.char c :: s)
  else .error .expectedValue

theorem skipStep_of_gaps {fs : List Frame} {s u : Content} {c : Char}
    (h : skipGaps s = .char c :: u) :
    skipStep fs s =
      if c = '[' then openFrame .array fs u
      else if c = '\x7b' then openFrame .object fs u
      else skipScalar c u >>= closeFrames fs := by
  unfold skipStep skipScalar
  rw [h]
  dsimp only
  split_ifs <;> rfl

/-- Symbols are passed over in the same way whatever follows the next one. -/
def Skips (skip : Content → Except Fault Content) : Prop :=
  ∀ ⦃s r⦄, skip s = .ok r → ∃ t, s = t ++ r ∧ ∀ r', r'.head? = r.head? → skip (t ++ r') = .ok r'

theorem skips_readWord (cs : List Char) : Skips (readWord cs) := by
  intro s r h
  obtain ⟨t, hs, ht⟩ := readWord_eq_ok h
  exact ⟨t, hs, fun r' _ => ht r'⟩

theorem skips_skipString : Skips skipString := by
  intro s r h
  obtain ⟨t, hs, ht⟩ := skipString_eq_ok h
  exact ⟨t, hs, fun r' _ => ht r'⟩

theorem skips_skipNumber : Skips skipNumber := by
  intro s r h
  obtain ⟨t, hs, -, ht⟩ := skipNumber_eq_ok h
  exact ⟨t, hs, ht⟩

theorem skips_skipNumber_digit (c : Char) : Skips fun s => skipNumber (.char c :: s) := by
  intro s r h
  obtain ⟨t, hs, hne, ht⟩ := skipNumber_eq_ok h
  obtain ⟨y, t, rfl⟩ := List.exists_cons_of_ne_nil hne
  obtain ⟨rfl, rfl⟩ := List.cons.inj hs
  exact ⟨t, rfl, ht⟩

theorem skips_skipScalar (c : Char) : Skips fun s => skipScalar c s := by
  unfold skipScalar
  split_ifs
  · exact skips_readWord _
  · exact skips_readWord _
  · exact skips_readWord _
  · exact skips_skipString
  · exact skips_skipNumber
  · exact skips_skipNumber_digit c
  · intro s r h
    cases h

/-- A step takes at least one symbol after the gaps. -/
theorem skipStep_eq_ok {fs fs' : List Frame} {s r : Content} (h : skipStep fs s = .ok (fs', r)) :
    ∃ g c v, s = g ++ .char c :: (v ++ r) ∧
      (∀ w, skipGaps (g ++ .char c :: w) = .char c :: w) ∧
      ∀ r', r'.head? = r.head? → (fs' ≠ [] → (skipGaps r').head? = (skipGaps r).head?) →
        skipStep fs (g ++ .char c :: (v ++ r')) = .ok (fs', r') := by
  have hstart : ∃ c u, skipGaps s = .char c :: u := by
    unfold skipStep at h
    split at h
    · cases h
    · cases h
    · next c u hgaps => exact ⟨c, u, hgaps⟩
  obtain ⟨c, u, hgaps⟩ := hstart
  obtain ⟨g, rfl, hg⟩ := exists_gaps hgaps
  rw [skipStep_of_gaps hgaps] at h
  split_ifs at h with hbracket hbrace
  · obtain ⟨v, rfl, hv⟩ := openFrame_eq_ok h
    refine ⟨g, c, v, rfl, hg, fun r' _ hr' => ?_⟩
    rw [skipStep_of_gaps (hg _), if_pos hbracket, hv r' hr']
  · obtain ⟨v, rfl, hv⟩ := openFrame_eq_ok h
    refine ⟨g, c, v, rfl, hg, fun r' _ hr' => ?_⟩
    rw [skipStep_of_gaps (hg _), if_neg hbracket, if_pos hbrace, hv r' hr']
  · obtain ⟨s₁, hscalar, hclose⟩ := bind_eq_ok h
    obtain ⟨v₂, rfl, hv₂⟩ := closeFrames_eq_ok hclose
    obtain ⟨v₁, rfl, hv₁⟩ := skips_skipScalar c hscalar
    refine ⟨g, c, v₁ ++ v₂, by simp, hg, fun r' hr' _ => ?_⟩
    have hscalar' := hv₁ _ (head?_append_congr hr' v₂)
    dsimp only at hscalar'
    rw [skipStep_of_gaps (hg _), if_neg hbracket, if_neg hbrace, List.append_assoc, hscalar',
      ok_bind, hv₂]

theorem skipValue_eq_ok {n : ℕ} {s r : Content} (h : skipValue n s = .ok r) :
    ∃ t, s = t ++ r ∧ ∀ n' ≥ n, ∀ r', r'.head? = r.head? → skipValue n' (t ++ r') = .ok r' := by
  have hgo : ∀ n fs s r, skipValue.go n fs s = .ok r →
      ∃ t, s = t ++ r ∧ t ≠ [] ∧ (∀ r', (skipGaps (t ++ r')).head? = (skipGaps (t ++ r)).head?) ∧
        ∀ n' ≥ n, ∀ r', r'.head? = r.head? → skipValue.go n' fs (t ++ r') = .ok r' := by
    intro n
    induction n with
    | zero =>
      intro fs s r h
      cases h
    | succ n ih =>
      intro fs s r h
      rw [skipValue.go] at h
      split at h
      · cases h
      · next s₁ hstep =>
        cases h
        obtain ⟨g, c, v, rfl, hg, hv⟩ := skipStep_eq_ok hstep
        refine ⟨g ++ .char c :: v, by simp, by simp, fun r' => ?_, fun n' hn r' hr' => ?_⟩
        · simp only [List.append_assoc, List.cons_append, hg, List.head?_cons]
        · obtain ⟨k, rfl⟩ := Nat.exists_eq_add_one.2 (Nat.zero_lt_of_lt hn)
          rw [List.append_assoc, List.cons_append, skipValue.go,
            hv r' hr' fun hne => absurd rfl hne]
      · next f fs₁ s₁ hstep =>
        obtain ⟨g, c, v, rfl, hg, hv⟩ := skipStep_eq_ok hstep
        obtain ⟨t, rfl, hne, hgaps, ht⟩ := ih _ _ _ h
        refine ⟨g ++ .char c :: (v ++ t), by simp, by simp, fun r' => ?_, fun n' hn r' hr' => ?_⟩
        · simp only [List.append_assoc, List.cons_append, hg, List.head?_cons]
        · obtain ⟨k, rfl⟩ := Nat.exists_eq_add_one.2 (Nat.zero_lt_of_lt hn)
          rw [List.append_assoc, List.cons_append, List.append_assoc, skipValue.go,
            hv (t ++ r') (head?_append_of_ne hne _ _) fun _ => hgaps r']
          exact ht k (Nat.le_of_succ_le_succ hn) r' hr'
  obtain ⟨t, hs, -, -, ht⟩ := hgo n [] s r h
  exact ⟨t, hs, ht⟩

end Json

end Gridlines
