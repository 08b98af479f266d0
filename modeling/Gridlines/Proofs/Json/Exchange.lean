import Gridlines.Proofs.Json.Literals
import Gridlines.Proofs.Json.SteadyRecords
import Gridlines.Proofs.SortedMap

/-!
# Another value in place of a number

A number that is read somewhere in a text can be exchanged for any value that is read as itself
whatever follows it, a string for example.  Then everything around it is read as before.

* `IsLiteral` : the spelling of a number; `readValue_number` finds it in the text.
* `Exchanges` : what is read if the spelling is exchanged.
* `Part` : a reader reads a part of the text with another reader, and `Exchanges.part` goes from
  the part to the whole.
-/

namespace Gridlines

namespace Json

variable {α β ε ε' : Type}

/-! ### The spelling of a number -/

/-- The characters are a number literal with these parts. -/
def IsLiteral (cs : List Char) (t : NumberText) : Prop :=
  ∃ ds : List Char, cs = (if t.negative then ['-'] else []) ++ ds ∧
    lexNumber t.negative (ds.map .char) = .ok (t, [])

theorem exists_literal {negative : Bool} {s r : Content} {n : Number}
    (h : readNumber negative s = .ok (n, r)) :
    ∃ ds t, s = ds.map .char ++ r ∧ t.value = .ok n ∧
      IsLiteral ((if negative then ['-'] else []) ++ ds) t := by
  unfold readNumber at h
  split at h
  · next t u hlex =>
    obtain ⟨m, hm, hpair⟩ := map_eq_ok h
    cases hpair
    obtain ⟨ds, hs, -, hds⟩ := lexNumber_eq_ok hlex
    have halone : lexNumber negative (ds.map .char) = .ok (t, []) := by
      simpa using hds [] (.inr rfl)
    obtain ⟨-, -, -, -, -, -, -, -, hnegative, -, -⟩ := exists_parts halone
    refine ⟨ds, t, hs, hm, ds, ?_, ?_⟩
    · rw [hnegative]
    · rw [hnegative]
      exact halone
  · cases h
  · cases h

/-- In a text cell the spelling, between blanks, is the number nearest to its decimal. -/
theorem IsLiteral.readDecimal? {cs before after : List Char} {t : NumberText} (h : IsLiteral cs t)
    (hbefore : ∀ c ∈ before, isBlank c) (hafter : ∀ c ∈ after, isBlank c) :
    Gridlines.readDecimal? (trimBlank (before ++ cs ++ after)) =
      some (t.decimal.toBinary64 t.negative) := by
  obtain ⟨ds, rfl, hds⟩ := h
  exact readDecimal?_literal hds hbefore hafter

/-- A number is read from its spelling, after the gaps. -/
theorem readValue_number {turns levels : ℕ} {s r : Content} {n : Number}
    (h : readValue turns levels s = .ok (.number n, r)) :
    ∃ g cs t, (∀ x ∈ g, isGap x) ∧ s = g ++ (cs.map .char ++ r) ∧ t.value = .ok n ∧
      IsLiteral cs t := by
  have hwith : ∀ items members, readValueWith items members s = .ok (.number n, r) →
      ∃ cs t, skipGaps s = cs.map .char ++ r ∧ t.value = .ok n ∧ IsLiteral cs t := by
    intro items members h
    unfold readValueWith at h
    split at h
    · cases h
    · cases h
    · next c u hgaps =>
      split_ifs at h with _ _ _ _ hminus
      -- values of the other kinds are no numbers
      any_goals
        obtain ⟨y, -, hpair⟩ := map_eq_ok h
        cases hpair
        done
      · obtain ⟨⟨m, u'⟩, hm, hpair⟩ := map_eq_ok h
        cases hpair
        obtain ⟨ds, t, rfl, hvalue, hcs⟩ := exists_literal hm
        exact ⟨'-' :: ds, t, by rw [hgaps, hminus]; rfl, hvalue, hcs⟩
      · obtain ⟨⟨m, u'⟩, hm, hpair⟩ := map_eq_ok h
        cases hpair
        obtain ⟨ds, t, hs, hvalue, hcs⟩ := exists_literal hm
        exact ⟨ds, t, by rw [hgaps, hs], hvalue, hcs⟩
  obtain ⟨cs, t, hgaps, hvalue, hcs⟩ : ∃ cs t, skipGaps s = cs.map .char ++ r ∧
      t.value = .ok n ∧ IsLiteral cs t := by
    cases levels with
    | zero => exact hwith _ _ h
    | succ levels => exact hwith _ _ h
  refine ⟨s.takeWhile isGap, cs, t, fun x hx => List.mem_takeWhile_imp hx, ?_, hvalue, hcs⟩
  rw [← hgaps, skipGaps, List.takeWhile_append_dropWhile]

theorem skipGaps_append {g : Content} (hg : ∀ x ∈ g, isGap x) (s : Content) :
    skipGaps (g ++ s) = skipGaps s :=
  List.dropWhile_append_of_pos hg

theorem readValue_gaps {g : Content} (hg : ∀ x ∈ g, isGap x) (turns levels : ℕ) (s : Content) :
    readValue turns levels (g ++ s) = readValue turns levels s := by
  have hwith : ∀ items members,
      readValueWith items members (g ++ s) = readValueWith items members s := by
    intro items members
    rw [readValueWith, readValueWith, skipGaps_append hg]
  cases levels with
  | zero => exact hwith _ _
  | succ levels => exact hwith _ _

/-! ### Exchanges -/

/-- The text is read as the value, whatever follows it. -/
def Stands (new : Content) (x : Json) : Prop :=
  ∀ turns levels r, readValue turns levels (new ++ r) = .ok (x, r)

theorem stands_string (w : String) : Stands (string w).symbols (.string w) := by
  intro turns levels r
  have hwith : ∀ items members, readValueWith items members ((string w).symbols ++ r) =
      .ok (.string w, r) := by
    intro items members
    rw [readValueWith, symbols_string, List.cons_append, skipGaps_cons (by decide)]
    change (readString (stringTail w ++ r)).map (fun r => (string r.1, r.2)) = _
    rw [readString_stringTail]
    rfl
  cases levels with
  | zero => exact hwith _ _
  | succ levels => exact hwith _ _

/-- Escapes only make a text longer. -/
theorem length_le_symbols_string (cs : List Char) :
    cs.length ≤ (string (.ofList cs)).symbols.length := by
  have hescape : ∀ c, 1 ≤ (escapeChar c).length := by
    intro c
    unfold escapeChar
    split_ifs <;> simp
  have hflat : cs.length ≤ (cs.flatMap escapeChar).length := by
    induction cs with
    | nil => exact Nat.le_refl 0
    | cons c cs ih =>
      have hc := hescape c
      rw [List.flatMap_cons, List.length_append, List.length_cons]
      omega
  rw [symbols_string, stringTail, String.toList_ofList, List.length_cons, List.length_map,
    List.length_append]
  omega

/-- Readers that look at no more than the next symbol read the same with more turns. -/
theorem Steady.more {read : ℕ → Content → Except ε (α × Content)} (h : Steady read) {n : ℕ}
    {s r : Content} {x : α} (hs : read n s = .ok (x, r)) {n' : ℕ} (hn : n' ≥ n) :
    read n' s = .ok (x, r) := by
  obtain ⟨t, rfl, ht⟩ := h hs
  exact ht n' hn r rfl

/-- In the text that is read up to `r`, each value that stands by itself can be put in place of
`old`; `f` says what is read then. -/
def Exchanges (read : ℕ → Content → Except ε (α × Content)) (n : ℕ) (s r old : Content)
    (f : Json → α) : Prop :=
  ∃ t u, t ≠ [] ∧ s = t ++ (old ++ u) ∧
    ∀ new x, Stands new x → ∀ n' ≥ n, read n' (t ++ (new ++ u)) = .ok (f x, r)

/-- A part of the text, up to `r₁`, is read with another reader.  If that reads something else
from a text that starts alike, the outcome is updated. -/
def Part (read : ℕ → Content → Except ε (α × Content))
    (inner : ℕ → Content → Except ε' (β × Content)) (n : ℕ) (s r s₁ r₁ : Content)
    (update : β → α) : Prop :=
  ∃ t, s = t ++ s₁ ∧ ∀ s₁' b, s₁'.head? = s₁.head? → (∀ n' ≥ n, inner n' s₁' = .ok (b, r₁)) →
    ∀ n' ≥ n, read n' (t ++ s₁') = .ok (update b, r)

theorem Exchanges.part {read : ℕ → Content → Except ε (α × Content)}
    {inner : ℕ → Content → Except ε' (β × Content)} {n : ℕ} {s r s₁ r₁ old : Content}
    {update : β → α} {f : Json → β} (h : Exchanges inner n s₁ r₁ old f)
    (hpart : Part read inner n s r s₁ r₁ update) :
    Exchanges read n s r old fun x => update (f x) := by
  obtain ⟨t₁, u, hne, rfl, hinner⟩ := h
  obtain ⟨t, rfl, hread⟩ := hpart
  refine ⟨t ++ t₁, u, by simp [hne], by simp only [List.append_assoc], fun new x hnew => ?_⟩
  rw [List.append_assoc]
  exact hread _ _ (head?_append_of_ne hne _ _) (hinner new x hnew)

/-! ### Members -/

section Members

variable {item : ℕ → Content → Except Fault (α × Content)} (hitem : Steady item)

include hitem

/-- The members that are read do not depend on those before them. -/
theorem readMembers_go_eq_ok {N n : ℕ} {acc ms : List (String × α)} {s r : Content}
    (h : readMembers.go (item N) n acc s = .ok (ms, r)) :
    ∃ ms', ms = acc.reverse ++ ms' ∧ ∀ N' ≥ N, ∀ n' ≥ n, ∀ acc', acc'.isEmpty = acc.isEmpty →
      readMembers.go (item N') n' acc' s = .ok (acc'.reverse ++ ms', r) := by
  induction n generalizing acc s with
  | zero => cases h
  | succ n ih =>
    rcases readMembers_go_step h with ⟨t, rfl, rfl, -, hend⟩ |
      ⟨k, x, t, s₁, s₂, rfl, -, hx, hgo, hturn⟩
    · refine ⟨[], by simp, fun N' _ n' hn acc' hacc => ?_⟩
      obtain ⟨m, rfl⟩ := Nat.exists_eq_add_one.2 (Nat.zero_lt_of_lt hn)
      rw [hend _ _ _ _ hacc, List.append_nil]
    · obtain ⟨ms', rfl, hrest⟩ := ih hgo
      refine ⟨(k, x) :: ms', by simp, fun N' hN n' hn acc' hacc => ?_⟩
      obtain ⟨m, rfl⟩ := Nat.exists_eq_add_one.2 (Nat.zero_lt_of_lt hn)
      rw [hturn _ _ _ _ _ _ hacc (hitem.more hx hN),
        hrest N' hN m (Nat.le_of_succ_le_succ hn) ((k, x) :: acc') rfl, List.reverse_cons,
        List.append_assoc]
      rfl

/-- The value of a member is read after a colon, so that another one may start in any way. -/
theorem exists_member {N n : ℕ} {acc ms₁ ms₂ : List (String × α)} {name : String} {j : α}
    {s r : Content}
    (h : readMembers.go (item N) n acc s = .ok (acc.reverse ++ (ms₁ ++ (name, j) :: ms₂), r)) :
    ∃ t s₁ r₁, s = t ++ s₁ ∧ t ≠ [] ∧ item N s₁ = .ok (j, r₁) ∧
      ∀ s₁' x, (∀ n' ≥ N, item n' s₁' = .ok (x, r₁)) → ∀ N' ≥ N, ∀ n' ≥ n,
        readMembers.go (item N') n' acc (t ++ s₁') =
          .ok (acc.reverse ++ (ms₁ ++ (name, x) :: ms₂), r) := by
  induction n generalizing acc ms₁ s with
  | zero => cases h
  | succ n ih =>
    rcases readMembers_go_step h with ⟨t, hms, -⟩ | ⟨k, x, t, s₁, s₂, rfl, hne, hx, hgo, hturn⟩
    · simp at hms
    · obtain ⟨ms', hms, hrest⟩ := readMembers_go_eq_ok hitem hgo
      rw [List.reverse_cons, List.append_assoc, List.append_cancel_left_eq] at hms
      cases ms₁ with
      | nil =>
        obtain ⟨⟨⟩, rfl⟩ := List.cons.inj hms
        refine ⟨t, s₁, s₂, rfl, hne, hx, fun s₁' y hy N' hN n' hn => ?_⟩
        obtain ⟨m, rfl⟩ := Nat.exists_eq_add_one.2 (Nat.zero_lt_of_lt hn)
        rw [hturn _ _ _ _ _ _ rfl (hy N' hN),
          hrest N' hN m (Nat.le_of_succ_le_succ hn) ((name, y) :: acc) rfl, List.reverse_cons,
          List.append_assoc]
        rfl
      | cons e ms₁ =>
        obtain ⟨rfl, rfl⟩ := List.cons.inj hms
        have hgo' : readMembers.go (item N) n ((k, x) :: acc) s₂ =
            .ok (((k, x) :: acc).reverse ++ (ms₁ ++ (name, j) :: ms₂), r) := by
          rw [List.reverse_cons, List.append_assoc]
          exact hgo
        obtain ⟨t₂, s₃, r₁, rfl, hne₂, hj, hexchange⟩ := ih hgo'
        obtain ⟨t₁, rfl, ht₁⟩ := hitem hx
        refine ⟨t ++ (t₁ ++ t₂), s₃, r₁, by simp only [List.append_assoc], by simp [hne], hj,
          fun s₁' y hy N' hN n' hn => ?_⟩
        obtain ⟨m, rfl⟩ := Nat.exists_eq_add_one.2 (Nat.zero_lt_of_lt hn)
        have hitem' := ht₁ N' hN _ (head?_append_of_ne hne₂ s₃ s₁')
        rw [List.append_assoc, List.append_assoc, hturn _ _ _ _ _ _ rfl hitem',
          hexchange s₁' y hy N' hN m (Nat.le_of_succ_le_succ hn), List.reverse_cons,
          List.append_assoc]
        rfl

end Members

namespace Decoder

variable {σ : Type} {d : Decoder α} {levels n : ℕ} {s r old : Content}

/-- A number that a name stands for can be exchanged in the text of the object. -/
theorem exchanges_map {m : SortedMap Json} {name : String} {v : Number}
    (h : map ⟨levels, n⟩ s = .ok (m, r)) (hv : m.get? name = some (.number v)) :
    ∃ cs t, t.value = .ok v ∧ IsLiteral cs t ∧
      Exchanges (fun n s => map ⟨levels, n⟩ s) n s r (cs.map .char) fun x =>
        m.adjust name fun _ => x := by
  unfold map at h
  split at h
  · next u hgaps =>
    cases levels with
    | zero => cases h
    | succ levels =>
      obtain ⟨⟨ms, r₁⟩, hms, hpair⟩ := map_eq_ok (here_eq_ok h)
      cases hpair
      obtain ⟨ms₁, ms₂, rfl, hlast⟩ := SortedMap.exists_last_of_get?_ofList hv
      have hgo : readMembers.go (readValue n levels) n [] u =
          .ok (([] : List (String × Json)).reverse ++ (ms₁ ++ (name, .number v) :: ms₂), r₁) := hms
      obtain ⟨t, s₁, r₁, rfl, hne, hnumber, hread⟩ := exists_member (steady_readValue levels) hgo
      obtain ⟨g, cs, parts, hg, rfl, hvalue, hcs⟩ := readValue_number hnumber
      obtain ⟨t₀, rfl, ht₀⟩ := exists_gaps hgaps
      refine ⟨cs, parts, hvalue, hcs, t₀ ++ .char '\x7b' :: (t ++ g), r₁, by simp, by simp,
        fun new x hnew n' hn => ?_⟩
      have hmembers := hread (g ++ (new ++ r₁)) x (fun n' _ => by
        rw [readValue_gaps hg, hnew]) n' hn n' hn
      simp only [List.append_assoc, List.cons_append]
      rw [map, ht₀]
      change here ((readMembers.go (readValue n' levels) n' [] (t ++ (g ++ (new ++ r₁)))).map
        fun r => (SortedMap.ofList r.1, r.2)) = _
      rw [hmembers, ← SortedMap.ofList_replace _ _ hlast]
      rfl
  · cases h

/-- What may be `null` starts with the same symbol as before, so it is no more `null` than then. -/
theorem part_optional {a : α} (h : optional d ⟨levels, n⟩ s = .ok (some a, r)) :
    ∃ s₁, d ⟨levels, n⟩ s₁ = .ok (a, r) ∧
      Part (fun n s => optional d ⟨levels, n⟩ s) (fun n s => d ⟨levels, n⟩ s) n s r s₁ r
        some := by
  unfold optional at h
  split at h
  · obtain ⟨r₁, -, hpair⟩ := map_eq_ok (here_eq_ok h)
    cases hpair
  · next hnull =>
    obtain ⟨⟨y, r₁⟩, hy, hpair⟩ := map_eq_ok h
    cases hpair
    obtain ⟨t, hs, -, ht⟩ := exists_split isGap s
    rw [← skipGaps] at hs ht
    refine ⟨skipGaps s, hy, t, hs, fun s₁' b hhead hb n' hn => ?_⟩
    have hgaps : skipGaps (t ++ s₁') = s₁' := (ht _ (.inl hhead)).2
    dsimp only at hb ⊢
    rw [optional, hgaps]
    split
    · next u =>
      obtain ⟨v, hv⟩ := List.head?_eq_some_iff.1 hhead.symm
      exact (hnull v hv).elim
    · rw [hb n' hn]
      rfl

/-- The items that are read do not depend on those before them. -/
theorem readList_eq_ok {item : ℕ → Content → Except ReadError (α × Content)}
    (hitem : Json.Steady item) {N : ℕ} {acc as : List α}
    (h : readList (item N) n acc s = .ok (as, r)) :
    ∃ as', as = acc.reverse ++ as' ∧ ∀ N' ≥ N, ∀ n' ≥ n, ∀ acc', acc'.isEmpty = acc.isEmpty →
      readList (item N') n' acc' s = .ok (acc'.reverse ++ as', r) := by
  induction n generalizing acc s with
  | zero => cases h
  | succ n ih =>
    rcases readList_step h with ⟨t, rfl, rfl, -, hend⟩ | ⟨x, t, s₁, s₂, rfl, hx, hlist, hturn⟩
    · refine ⟨[], by simp, fun N' _ n' hn acc' hacc => ?_⟩
      obtain ⟨m, rfl⟩ := Nat.exists_eq_add_one.2 (Nat.zero_lt_of_lt hn)
      rw [hend _ _ _ _ hacc, List.append_nil]
    · obtain ⟨as', rfl, hrest⟩ := ih hlist
      refine ⟨x :: as', by simp, fun N' hN n' hn acc' hacc => ?_⟩
      obtain ⟨m, rfl⟩ := Nat.exists_eq_add_one.2 (Nat.zero_lt_of_lt hn)
      rw [hturn _ _ _ _ _ _ hacc rfl (hitem.more hx hN),
        hrest N' hN m (Nat.le_of_succ_le_succ hn) (x :: acc') rfl, List.reverse_cons,
        List.append_assoc]
      rfl

/-- An item is a part of the text of its list. -/
theorem exists_item {item : ℕ → Content → Except ReadError (α × Content)}
    (hitem : Json.Steady item) {N : ℕ} {acc as₁ as₂ : List α} {a : α}
    (h : readList (item N) n acc s = .ok (acc.reverse ++ (as₁ ++ a :: as₂), r)) :
    ∃ t s₁ r₁, s = t ++ s₁ ∧ item N s₁ = .ok (a, r₁) ∧
      ∀ s₁' b, s₁'.head? = s₁.head? → (∀ n' ≥ N, item n' s₁' = .ok (b, r₁)) →
        ∀ N' ≥ N, ∀ n' ≥ n, readList (item N') n' acc (t ++ s₁') =
          .ok (acc.reverse ++ (as₁ ++ b :: as₂), r) := by
  induction n generalizing acc as₁ s with
  | zero => cases h
  | succ n ih =>
    rcases readList_step h with ⟨t, has, -⟩ | ⟨x, t, s₁, s₂, rfl, hx, hlist, hturn⟩
    · simp at has
    · obtain ⟨as', has, hrest⟩ := readList_eq_ok hitem hlist
      rw [List.reverse_cons, List.append_assoc, List.append_cancel_left_eq] at has
      cases as₁ with
      | nil =>
        obtain ⟨rfl, rfl⟩ := List.cons.inj has
        refine ⟨t, s₁, s₂, rfl, hx, fun s₁' b hhead hb N' hN n' hn => ?_⟩
        obtain ⟨m, rfl⟩ := Nat.exists_eq_add_one.2 (Nat.zero_lt_of_lt hn)
        rw [hturn _ _ _ _ _ _ rfl hhead (hb N' hN),
          hrest N' hN m (Nat.le_of_succ_le_succ hn) (b :: acc) rfl, List.reverse_cons,
          List.append_assoc]
        rfl
      | cons e as₁ =>
        obtain ⟨rfl, rfl⟩ := List.cons.inj has
        have hlist' : readList (item N) n (e :: acc) s₂ =
            .ok ((e :: acc).reverse ++ (as₁ ++ a :: as₂), r) := by
          rw [List.reverse_cons, List.append_assoc]
          exact hlist
        obtain ⟨t₂, s₃, r₁, rfl, ha, hexchange⟩ := ih hlist'
        obtain ⟨t₁, rfl, ht₁⟩ := hitem hx
        refine ⟨t ++ (t₁ ++ t₂), s₃, r₁, by simp only [List.append_assoc], ha,
          fun s₁' b hhead hb N' hN n' hn => ?_⟩
        obtain ⟨m, rfl⟩ := Nat.exists_eq_add_one.2 (Nat.zero_lt_of_lt hn)
        have hhead₂ := head?_append_congr hhead t₂
        rw [List.append_assoc, List.append_assoc,
          hturn _ _ _ _ _ _ rfl (head?_append_congr hhead₂ t₁) (ht₁ N' hN _ hhead₂),
          hexchange s₁' b hhead hb N' hN m (Nat.le_of_succ_le_succ hn), List.reverse_cons,
          List.append_assoc]
        rfl

theorem part_list (hd : d.Steady) {as : List α} (h : d.list ⟨levels + 1, n⟩ s = .ok (as, r))
    {k : ℕ} {a : α} (ha : as[k]? = some a) :
    ∃ s₁ r₁, d ⟨levels, n⟩ s₁ = .ok (a, r₁) ∧
      Part (fun n s => d.list ⟨levels + 1, n⟩ s) (fun n s => d ⟨levels, n⟩ s) n s r s₁ r₁
        fun b => as.set k b := by
  unfold list at h
  split at h
  · next u hgaps =>
    obtain ⟨hk, rfl⟩ := List.getElem?_eq_some_iff.1 ha
    have hsplit : as = as.take k ++ as[k] :: as.drop (k + 1) := by simp
    have hitems : readList (fun s => d ⟨levels, n⟩ s) n [] u =
        .ok (([] : List α).reverse ++ (as.take k ++ as[k] :: as.drop (k + 1)), r) := by
      rw [← hsplit]
      exact h
    obtain ⟨t, s₁, r₁, rfl, hitem, hread⟩ := exists_item (hd levels) hitems
    obtain ⟨t₀, rfl, ht₀⟩ := exists_gaps hgaps
    refine ⟨s₁, r₁, hitem, t₀ ++ .char '[' :: t, by simp, fun s₁' b hhead hb n' hn => ?_⟩
    have hlist := hread s₁' b hhead hb n' hn n' hn
    simp only [List.append_assoc, List.cons_append]
    rw [list, ht₀, List.set_eq_take_append_cons_drop, if_pos hk]
    exact hlist
  · cases h

theorem exists_of_run {a : α} (h : d.run s = .ok a) :
    ∃ r, d ⟨depthLimit, s.length⟩ s = .ok (a, r) ∧ readEnd r = .ok () := by
  obtain ⟨⟨b, r⟩, hb, hrest⟩ := bind_eq_ok h
  obtain ⟨u, hend, hpure⟩ := bind_eq_ok hrest
  cases hpure
  exact ⟨r, hb, here_eq_ok hend⟩

/-- A text that gets no shorter leaves no fewer turns. -/
theorem run_of_exchanges {f : Json → α}
    (h : Exchanges (fun n s => d ⟨depthLimit, n⟩ s) s.length s r old f) (hend : readEnd r = .ok ()) :
    ∃ t u, s = t ++ (old ++ u) ∧ ∀ new x, Stands new x → old.length ≤ new.length →
      d.run (t ++ (new ++ u)) = .ok (f x) := by
  obtain ⟨t, u, -, rfl, hread⟩ := h
  refine ⟨t, u, rfl, fun new x hnew hlength => ?_⟩
  have hturns : (t ++ (new ++ u)).length ≥ (t ++ (old ++ u)).length := by
    simp only [List.length_append]
    omega
  have hnew := hread new x hnew _ hturns
  dsimp only at hnew
  rw [run, hnew, ok_bind]
  dsimp only
  rw [hend]
  rfl

end Decoder

end Json

end Gridlines
