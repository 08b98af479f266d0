import Gridlines.Json.Skip
import Gridlines.Proofs.Json.Numbers

/-!
# What is read depends on what is taken

A reader takes a part off the text and looks at no more than the first symbol after it.  So the
rest can be exchanged for another one that starts alike, and the outcome is the same.  Where loops
are bounded by turns, more turns change nothing either.

* `Steady` : a reader whose outcome is known from the symbols taken and the one after them.
* `Closed` : one that ends with a closing mark, so that the symbol after it does not matter.
* `readString_eq_ok`, `readNumber_eq_ok`, … : the readers of words, strings and numbers.
-/

namespace Gridlines

namespace Json

variable {ε α β : Type}

/-- The outcome is known from the symbols that are taken off the text and the first one that is
left, whatever else follows and however many more turns there are. -/
def Steady (read : ℕ → Content → Except ε (α × Content)) : Prop :=
  ∀ ⦃n s x r⦄, read n s = .ok (x, r) →
    ∃ t, s = t ++ r ∧ ∀ n' ≥ n, ∀ r', r'.head? = r.head? → read n' (t ++ r') = .ok (x, r')

/-- What is read ends with a closing mark, so that what follows does not matter at all. -/
def Closed (read : ℕ → Content → Except ε (α × Content)) : Prop :=
  ∀ ⦃n s x r⦄, read n s = .ok (x, r) →
    ∃ t, s = t ++ r ∧ t ≠ [] ∧ ∀ n' ≥ n, ∀ r', read n' (t ++ r') = .ok (x, r')

theorem Closed.steady {read : ℕ → Content → Except ε (α × Content)} (h : Closed read) :
    Steady read := by
  intro n s x r hs
  obtain ⟨t, rfl, -, ht⟩ := h hs
  exact ⟨t, rfl, fun n' hn r' _ => ht n' hn r'⟩

theorem head?_append_of_ne {t : Content} (h : t ≠ []) (r r' : Content) :
    (t ++ r').head? = (t ++ r).head? := by
  obtain ⟨x, t, rfl⟩ := List.exists_cons_of_ne_nil h
  rfl

theorem head?_append_congr {r r' : Content} (h : r'.head? = r.head?) (t : Content) :
    (t ++ r').head? = (t ++ r).head? := by
  cases t with
  | nil => exact h
  | cons x t => rfl

/-! ### Gaps and words -/

/-- The text starts with the same symbol, or it has ended. -/
def SameStart (r r' : Content) : Prop := r'.head? = r.head? ∨ r' = []

theorem SameStart.append {r r' : Content} (h : SameStart r r') (t : Content) :
    SameStart (t ++ r) (t ++ r') := by
  rcases eq_or_ne t [] with rfl | hne
  · exact h
  · exact .inl (head?_append_of_ne hne r r')

/-- The symbols that a test splits off are known from the first one that is left. -/
theorem exists_split (p : Symbol → Bool) (s : Content) :
    ∃ t, s = t ++ s.dropWhile p ∧ s.takeWhile p = t ∧ ∀ r', SameStart (s.dropWhile p) r' →
      (t ++ r').takeWhile p = t ∧ (t ++ r').dropWhile p = r' := by
  refine ⟨s.takeWhile p, (List.takeWhile_append_dropWhile ..).symm, rfl, fun r' hr' => ?_⟩
  have hp : ∀ x ∈ s.takeWhile p, p x := fun x hx => List.mem_takeWhile_imp hx
  rw [List.takeWhile_append_of_pos hp, List.dropWhile_append_of_pos hp]
  cases r' with
  | nil => simp
  | cons x r' =>
    have hx : p x = false := by
      have hhead := List.head?_dropWhile_not p s
      rw [← hr'.resolve_right (List.cons_ne_nil _ _)] at hhead
      simpa using hhead
    simp [hx]

theorem exists_gaps {x : Symbol} {s r : Content} (h : skipGaps s = x :: r) :
    ∃ t, s = t ++ x :: r ∧ ∀ r', skipGaps (t ++ x :: r') = x :: r' := by
  obtain ⟨t, hs, -, ht⟩ := exists_split isGap s
  rw [← skipGaps, h] at hs ht
  exact ⟨t, hs, fun r' => (ht (x :: r') (.inl rfl)).2⟩

theorem readWord_eq_ok {cs : List Char} {s r : Content} (h : readWord cs s = .ok r) :
    ∃ t, s = t ++ r ∧ ∀ r', readWord cs (t ++ r') = .ok r' := by
  induction cs generalizing s with
  | nil =>
    cases h
    exact ⟨[], rfl, fun _ => rfl⟩
  | cons c cs ih =>
    cases s with
    | nil => cases h
    | cons x s =>
      rw [readWord] at h
      split_ifs at h with hx
      obtain ⟨t, rfl, ht⟩ := ih h
      refine ⟨x :: t, rfl, fun r' => ?_⟩
      rw [List.cons_append, readWord, if_pos hx, ht]

/-! ### Strings -/

theorem readHex_eq_ok {s : Content} {n : ℕ} (h : readHex s = .ok n) :
    ∃ a b c d r, s = a :: b :: c :: d :: r ∧ ∀ r', readHex (a :: b :: c :: d :: r') = .ok n := by
  unfold readHex at h
  split at h
  · next a b c d r =>
    refine ⟨a, b, c, d, r, rfl, fun r' => ?_⟩
    rw [readHex]
    exact h
  · cases h

theorem readPairMark_eq_ok {cs : List Char} {s : Content} (h : readPairMark cs s = .ok ()) :
    ∃ r, s = cs.map .char ++ r ∧ ∀ r', readPairMark cs (cs.map .char ++ r') = .ok () := by
  induction cs generalizing s with
  | nil => exact ⟨s, rfl, fun _ => rfl⟩
  | cons c cs ih =>
    cases s with
    | nil => cases h
    | cons x s =>
      rw [readPairMark] at h
      split_ifs at h with hx
      obtain ⟨r, rfl, hr⟩ := ih h
      refine ⟨r, by rw [hx]; rfl, fun r' => ?_⟩
      rw [List.map_cons, List.cons_append, readPairMark, if_pos rfl, hr]

theorem readCodePoint_eq_ok {s : Content} {c : Char} {n : ℕ} (h : readCodePoint s = .ok (c, n)) :
    ∃ t r, s = t ++ r ∧ t.length = n ∧ ∀ r', readCodePoint (t ++ r') = .ok (c, n) := by
  unfold readCodePoint at h
  obtain ⟨m, hm, hrest⟩ := bind_eq_ok h
  obtain ⟨a, b, c', d, r, rfl, hread⟩ := readHex_eq_ok hm
  split_ifs at hrest with htrail hlead
  · obtain ⟨⟨⟩, hmark, hrest'⟩ := bind_eq_ok hrest
    obtain ⟨k, hk, hpair⟩ := bind_eq_ok hrest'
    obtain ⟨r₁, hr₁, hmark'⟩ := readPairMark_eq_ok hmark
    obtain rfl : r = .char '\\' :: .char 'u' :: r₁ := hr₁
    obtain ⟨a', b', c'', d', r₂, hr₂, hread'⟩ := readHex_eq_ok hk
    obtain rfl : r₁ = a' :: b' :: c'' :: d' :: r₂ := hr₂
    split_ifs at hpair with htrail'
    obtain ⟨rfl, rfl⟩ := Prod.mk.inj (Except.ok.inj hpair)
    refine ⟨[a, b, c', d, .char '\\', .char 'u', a', b', c'', d'], r₂, rfl, rfl, fun r' => ?_⟩
    have hmark := hmark' (a' :: b' :: c'' :: d' :: r')
    simp only [List.map_cons, List.map_nil, List.cons_append, List.nil_append] at hmark
    simp [readCodePoint, hread, hread', hmark, htrail, hlead, htrail', bind, Except.bind, pure,
      Except.pure]
  · cases hrest
    refine ⟨[a, b, c', d], r, rfl, rfl, fun r' => ?_⟩
    simp [readCodePoint, hread, htrail, hlead, bind, Except.bind, pure, Except.pure]

/-- An escape is known from its own symbols. -/
theorem readEscape_eq_ok {s : Content} {c : Char} {n : ℕ} (h : readEscape s = .ok (c, n)) :
    ∃ t r, s = t ++ r ∧ t.length = n ∧ ∀ r', readEscape (t ++ r') = .ok (c, n) := by
  unfold readEscape at h
  split at h
  · cases h
  · cases h
  · next d s =>
    split_ifs at h with hu
    · obtain ⟨⟨c', m⟩, hm, h⟩ := map_eq_ok h
      cases h
      obtain ⟨t, r, rfl, rfl, ht⟩ := readCodePoint_eq_ok hm
      refine ⟨.char d :: t, r, rfl, rfl, fun r' => ?_⟩
      rw [List.cons_append, readEscape, if_pos hu, ht]
      rfl
    · split at h
      · next c' hc =>
        cases h
        refine ⟨[.char d], s, rfl, rfl, fun r' => ?_⟩
        rw [List.singleton_append, readEscape, if_neg hu, hc]
      · cases h

theorem skipEscape_eq_ok {s : Content} {n : ℕ} (h : skipEscape s = .ok n) :
    ∃ t r, s = t ++ r ∧ t.length = n ∧ ∀ r', skipEscape (t ++ r') = .ok n := by
  unfold skipEscape at h
  split at h
  · cases h
  · cases h
  · next d s =>
    split_ifs at h with hu hknown
    · obtain ⟨m, hm, h⟩ := map_eq_ok h
      cases h
      obtain ⟨a, b, c, e, r, rfl, hread⟩ := readHex_eq_ok hm
      refine ⟨[.char d, a, b, c, e], r, rfl, rfl, fun r' => ?_⟩
      simp [skipEscape, hu, hread, Except.map]
    · cases h
      refine ⟨[.char d], s, rfl, rfl, fun r' => ?_⟩
      rw [List.singleton_append, skipEscape, if_neg hu, if_pos hknown]

/-- A string goes up to its closing quote, and what follows does not matter. -/
theorem readString_go_eq_ok {s r : Content} {n : ℕ} {sound : Bool} {acc : List Char} {x : String}
    (h : readString.go n sound acc s = .ok (x, r)) :
    ∃ t, s = t ++ r ∧ n ≤ t.length ∧ ∀ r', readString.go n sound acc (t ++ r') = .ok (x, r') := by
  induction s generalizing n sound acc with
  | nil =>
    unfold readString.go at h
    cases h
  | cons a s ih =>
    cases n with
    | succ n =>
      rw [readString.go] at h
      obtain ⟨t, rfl, hn, ht⟩ := ih h
      exact ⟨a :: t, rfl, Nat.succ_le_succ hn, ht⟩
    | zero =>
      cases a with
      | stray b =>
        rw [readString.go] at h
        obtain ⟨t, rfl, -, ht⟩ := ih h
        exact ⟨.stray b :: t, rfl, Nat.zero_le _, ht⟩
      | char c =>
        rw [readString.go] at h
        split_ifs at h with hquote hsound hslash hctl
        · cases h
          refine ⟨[.char c], rfl, Nat.zero_le _, fun r' => ?_⟩
          rw [List.singleton_append, readString.go, if_pos hquote, if_pos hsound]
        · split at h
          · next d m hescape =>
            obtain ⟨t, hs, hm, ht⟩ := ih h
            obtain ⟨u, v, hu, rfl, hread⟩ := readEscape_eq_ok hescape
            -- the symbols of the escape are among those taken
            obtain ⟨w, rfl⟩ : u <+: t :=
              List.prefix_of_prefix_length_le (hu ▸ List.prefix_append u v)
                (hs ▸ List.prefix_append t r) hm
            subst hs
            refine ⟨.char c :: (u ++ w), rfl, Nat.zero_le _, fun r' => ?_⟩
            rw [List.cons_append, readString.go, if_neg hquote, if_pos hslash, List.append_assoc,
              hread]
            dsimp only
            rw [← List.append_assoc]
            exact ht r'
          · cases h
        · obtain ⟨t, rfl, -, ht⟩ := ih h
          refine ⟨.char c :: t, rfl, Nat.zero_le _, fun r' => ?_⟩
          rw [List.cons_append, readString.go, if_neg hquote, if_neg hslash, if_neg hctl]
          exact ht r'

theorem readString_eq_ok {s r : Content} {x : String} (h : readString s = .ok (x, r)) :
    ∃ t, s = t ++ r ∧ ∀ r', readString (t ++ r') = .ok (x, r') := by
  obtain ⟨t, hs, -, ht⟩ := readString_go_eq_ok h
  exact ⟨t, hs, ht⟩

theorem skipString_go_eq_ok {s r : Content} {n : ℕ} (h : skipString.go n s = .ok r) :
    ∃ t, s = t ++ r ∧ n ≤ t.length ∧ ∀ r', skipString.go n (t ++ r') = .ok r' := by
  induction s generalizing n with
  | nil =>
    unfold skipString.go at h
    cases h
  | cons a s ih =>
    cases n with
    | succ n =>
      rw [skipString.go] at h
      obtain ⟨t, rfl, hn, ht⟩ := ih h
      exact ⟨a :: t, rfl, Nat.succ_le_succ hn, ht⟩
    | zero =>
      cases a with
      | stray b =>
        rw [skipString.go] at h
        obtain ⟨t, rfl, -, ht⟩ := ih h
        exact ⟨.stray b :: t, rfl, Nat.zero_le _, ht⟩
      | char c =>
        rw [skipString.go] at h
        split_ifs at h with hquote hslash hctl
        · cases h
          refine ⟨[.char c], rfl, Nat.zero_le _, fun r' => ?_⟩
          rw [List.singleton_append, skipString.go, if_pos hquote]
        · split at h
          · next m hescape =>
            obtain ⟨t, hs, hm, ht⟩ := ih h
            obtain ⟨u, v, hu, rfl, hread⟩ := skipEscape_eq_ok hescape
            obtain ⟨w, rfl⟩ : u <+: t :=
              List.prefix_of_prefix_length_le (hu ▸ List.prefix_append u v)
                (hs ▸ List.prefix_append t r) hm
            subst hs
            refine ⟨.char c :: (u ++ w), rfl, Nat.zero_le _, fun r' => ?_⟩
            rw [List.cons_append, skipString.go, if_neg hquote, if_pos hslash, List.append_assoc,
              hread]
            dsimp only
            rw [← List.append_assoc]
            exact ht r'
          · cases h
        · obtain ⟨t, rfl, -, ht⟩ := ih h
          refine ⟨.char c :: t, rfl, Nat.zero_le _, fun r' => ?_⟩
          rw [List.cons_append, skipString.go, if_neg hquote, if_neg hslash, if_neg hctl]
          exact ht r'

theorem skipString_eq_ok {s r : Content} (h : skipString s = .ok r) :
    ∃ t, s = t ++ r ∧ ∀ r', skipString (t ++ r') = .ok r' := by
  obtain ⟨t, hs, -, ht⟩ := skipString_go_eq_ok h
  exact ⟨t, hs, ht⟩

/-! ### Numbers -/

theorem needDigits_eq_ok_iff {s r : Content} {ds : List ℕ} :
    needDigits s = .ok (ds, r) ↔ splitDigits s = (ds, r) ∧ ds ≠ [] := by
  unfold needDigits
  rcases splitDigits s with ⟨es, r'⟩
  cases es with
  | nil =>
    cases r' with
    | nil => simp +contextual
    | cons x r' => simp +contextual
  | cons e es =>
    constructor
    · intro h
      cases h
      exact ⟨rfl, List.cons_ne_nil _ _⟩
    · rintro ⟨h, -⟩
      cases h
      rfl

theorem exists_chars {t : Content} (h : ∀ x ∈ t, (digit? x).isSome) :
    ∃ cs : List Char, t = cs.map .char := by
  induction t with
  | nil => exact ⟨[], rfl⟩
  | cons x t ih =>
    obtain ⟨hx, ht⟩ := List.forall_mem_cons.1 h
    obtain ⟨cs, rfl⟩ := ih ht
    cases x with
    | stray b => cases hx
    | char c => exact ⟨c :: cs, rfl⟩

theorem needDigits_eq_ok {s r : Content} {ds : List ℕ} (h : needDigits s = .ok (ds, r)) :
    ∃ cs : List Char, s = cs.map .char ++ r ∧ cs ≠ [] ∧
      ∀ r', SameStart r r' → needDigits (cs.map .char ++ r') = .ok (ds, r') := by
  obtain ⟨hsplit, hne⟩ := needDigits_eq_ok_iff.1 h
  obtain ⟨t, hs, htake, ht⟩ := exists_split (fun x => (digit? x).isSome) s
  have hdigits : ∀ x ∈ t, (digit? x).isSome := by
    rw [← htake]
    exact fun x hx => List.mem_takeWhile_imp (p := fun x => (digit? x).isSome) hx
  obtain ⟨cs, rfl⟩ := exists_chars hdigits
  unfold splitDigits at hsplit
  rw [htake] at hsplit
  obtain ⟨rfl, rfl⟩ := Prod.mk.inj hsplit
  refine ⟨cs, hs, ?_, fun r' hr' => ?_⟩
  · rintro rfl
    exact hne rfl
  · obtain ⟨htake', hdrop'⟩ := ht r' hr'
    refine needDigits_eq_ok_iff.2 ⟨?_, hne⟩
    rw [splitDigits, htake', hdrop']

theorem lexWhole_eq_ok {s r : Content} {ds : List ℕ} (h : lexWhole s = .ok (ds, r)) :
    ∃ cs : List Char, s = cs.map .char ++ r ∧ cs ≠ [] ∧
      ∀ r', SameStart r r' → lexWhole (cs.map .char ++ r') = .ok (ds, r') := by
  unfold lexWhole at h
  obtain ⟨⟨es, r₁⟩, hes, hzero⟩ := bind_eq_ok h
  dsimp only at hzero
  split at hzero
  · cases hzero
  · next hlone =>
    cases hzero
    obtain ⟨cs, rfl, hne, hcs⟩ := needDigits_eq_ok hes
    refine ⟨cs, rfl, hne, fun r' hr' => ?_⟩
    rw [lexWhole, hcs r' hr', ok_bind]
    dsimp only
    split
    · next d ds => exact absurd rfl (hlone d ds)
    · rfl

/-- Where there is no point the text goes on with the same symbol. -/
theorem lexPlaces_eq_ok {s r : Content} {p : Option (List ℕ)} (h : lexPlaces s = .ok (p, r)) :
    ∃ cs : List Char, s = cs.map .char ++ r ∧
      ∀ r', SameStart r r' → lexPlaces (cs.map .char ++ r') = .ok (p, r') := by
  unfold lexPlaces at h
  split at h
  · obtain ⟨⟨ds, r₁⟩, hds, h⟩ := bind_eq_ok h
    cases h
    obtain ⟨cs, rfl, -, hcs⟩ := needDigits_eq_ok hds
    refine ⟨'.' :: cs, rfl, fun r' hr' => ?_⟩
    rw [List.map_cons, List.cons_append, lexPlaces, hcs r' hr']
    rfl
  · next hpoint =>
    cases h
    refine ⟨[], rfl, fun r' hr' => ?_⟩
    rw [List.map_nil, List.nil_append]
    unfold lexPlaces
    split
    · next u =>
      have hhead := hr'.resolve_right (List.cons_ne_nil _ _)
      obtain ⟨v, rfl⟩ := List.head?_eq_some_iff.1 hhead.symm
      exact absurd rfl (hpoint v)
    · rfl

theorem exists_lexSign (s : Content) :
    ∃ cs : List Char, s = cs.map .char ++ (lexSign s).2 ∧
      ∀ r', r'.head? = (lexSign s).2.head? → lexSign (cs.map .char ++ r') = ((lexSign s).1, r') := by
  unfold lexSign
  split
  · exact ⟨['-'], rfl, fun _ _ => rfl⟩
  · exact ⟨['+'], rfl, fun _ _ => rfl⟩
  · next hminus hplus =>
    refine ⟨[], rfl, fun r' hr' => ?_⟩
    rw [List.map_nil, List.nil_append]
    cases s with
    | nil =>
      obtain rfl : r' = [] := List.head?_eq_none_iff.1 hr'
      rfl
    | cons x s =>
      obtain ⟨u, rfl⟩ := List.head?_eq_some_iff.1 hr'
      split
      · next heq =>
        cases heq
        exact absurd rfl (hminus s)
      · next heq =>
        cases heq
        exact absurd rfl (hplus s)
      · rfl

/-- Where there is no exponent the text goes on with the same symbol. -/
theorem lexExponent_of_sameStart {s r' : Content} (h : lexExponent s = .ok (none, s))
    (hr' : SameStart s r') : lexExponent r' = .ok (none, r') := by
  cases r' with
  | nil => rfl
  | cons x r' =>
    have hhead := hr'.resolve_right (List.cons_ne_nil _ _)
    obtain ⟨s, rfl⟩ := List.head?_eq_some_iff.1 hhead.symm
    cases x with
    | stray b => rfl
    | char c =>
      rw [lexExponent] at h ⊢
      split_ifs at h ⊢ with hc
      · obtain ⟨⟨ds, r₁⟩, -, h⟩ := bind_eq_ok h
        cases h
      · rfl

theorem lexExponent_eq_ok {s r : Content} {p : Option (Bool × List ℕ)}
    (h : lexExponent s = .ok (p, r)) :
    ∃ cs : List Char, s = cs.map .char ++ r ∧
      ∀ r', SameStart r r' → lexExponent (cs.map .char ++ r') = .ok (p, r') := by
  unfold lexExponent at h
  split at h
  · next c s =>
    split_ifs at h with hc
    · obtain ⟨u, hs, hu⟩ := exists_lexSign s
      rcases hsign : lexSign s with ⟨negative, s₁⟩
      rw [hsign] at h hs hu
      obtain ⟨⟨ds, r₁⟩, hds, h⟩ := bind_eq_ok h
      cases h
      obtain ⟨cs, rfl, hne, hread⟩ := needDigits_eq_ok hds
      subst hs
      refine ⟨c :: (u ++ cs), by simp, fun r' hr' => ?_⟩
      have hsign := hu (cs.map .char ++ r') (head?_append_of_ne (by simpa using hne) _ _)
      rw [List.map_cons, List.cons_append, List.map_append, List.append_assoc, lexExponent,
        if_pos hc, hsign]
      dsimp only
      rw [hread r' hr']
      rfl
    · cases h
      refine ⟨[], rfl, fun r' => lexExponent_of_sameStart ?_⟩
      rw [lexExponent, if_neg hc]
  · next hchar =>
    cases h
    refine ⟨[], rfl, fun r' => lexExponent_of_sameStart ?_⟩
    unfold lexExponent
    split
    · exact absurd rfl (hchar _ _)
    · rfl

/-- A literal consists of characters, and it is the same one at the end of the text. -/
theorem lexNumber_eq_ok {negative : Bool} {s r : Content} {t : NumberText}
    (h : lexNumber negative s = .ok (t, r)) :
    ∃ cs : List Char, s = cs.map .char ++ r ∧ cs ≠ [] ∧
      ∀ r', SameStart r r' → lexNumber negative (cs.map .char ++ r') = .ok (t, r') := by
  unfold lexNumber at h
  obtain ⟨⟨whole, s₁⟩, hw, h⟩ := bind_eq_ok h
  obtain ⟨⟨places, s₂⟩, hp, h⟩ := bind_eq_ok h
  obtain ⟨⟨exponent, s₃⟩, he, h⟩ := bind_eq_ok h
  cases h
  obtain ⟨u₁, rfl, hne, hu₁⟩ := lexWhole_eq_ok hw
  obtain ⟨u₂, rfl, hu₂⟩ := lexPlaces_eq_ok hp
  obtain ⟨u₃, rfl, hu₃⟩ := lexExponent_eq_ok he
  refine ⟨u₁ ++ (u₂ ++ u₃), by simp only [List.map_append, List.append_assoc], by simp [hne],
    fun r' hr' => ?_⟩
  have h₃ := hr'.append (u₃.map .char)
  have h₂ := h₃.append (u₂.map .char)
  simp only [lexNumber, List.map_append, List.append_assoc, hu₁ _ h₂, hu₂ _ h₃, hu₃ _ hr', ok_bind]
  rfl

theorem readNumber_eq_ok {negative : Bool} {s r : Content} {n : Number}
    (h : readNumber negative s = .ok (n, r)) :
    ∃ t, s = t ++ r ∧ t ≠ [] ∧ ∀ r', r'.head? = r.head? → readNumber negative (t ++ r') = .ok (n, r') := by
  unfold readNumber at h
  split at h
  · next t rest hlex =>
    obtain ⟨m, hm, h⟩ := map_eq_ok h
    cases h
    obtain ⟨cs, rfl, hne, hcs⟩ := lexNumber_eq_ok hlex
    refine ⟨cs.map .char, rfl, by simpa using hne, fun r' hr' => ?_⟩
    rw [readNumber, hcs r' (.inl hr')]
    dsimp only
    rw [hm]
    rfl
  · cases h
  · cases h

theorem skipNumber_eq_ok {s r : Content} (h : skipNumber s = .ok r) :
    ∃ t, s = t ++ r ∧ t ≠ [] ∧ ∀ r', r'.head? = r.head? → skipNumber (t ++ r') = .ok r' := by
  unfold skipNumber at h
  split at h
  · next t rest hlex =>
    cases h
    obtain ⟨cs, rfl, hne, hcs⟩ := lexNumber_eq_ok hlex
    refine ⟨cs.map .char, rfl, by simpa using hne, fun r' hr' => ?_⟩
    rw [skipNumber, hcs r' (.inl hr')]
  · cases h

end Json

end Gridlines
