import Gridlines.Json.Record
import Gridlines.Proofs.Json.SteadyValues
import Gridlines.Proofs.Json.Records

/-!
# What is read as a record depends on what is taken

Readers of values of a known form look no further than other readers do, if the readers that they
are made of do not.

* `Decoder.Steady` : a reader of a known form whose outcome is known from what it takes.
* `Shape.closed_decoder` : records are read in that way if their members are.
-/

namespace Gridlines

namespace Json

theorem here_eq_ok_iff {α : Type} {r : Except Fault α} {a : α} : here r = .ok a ↔ r = .ok a := by
  refine ⟨Decoder.here_eq_ok, ?_⟩
  rintro rfl
  rfl

namespace Decoder

variable {α σ : Type}

/-- At every level the outcome is known from the symbols taken and the one after them. -/
def Steady (d : Decoder α) : Prop := ∀ levels, Json.Steady fun n s => d ⟨levels, n⟩ s

/-- What is read ends with a closing mark. -/
def Closed (d : Decoder α) : Prop := ∀ levels, Json.Closed fun n s => d ⟨levels, n⟩ s

variable {d : Decoder α}

theorem Closed.steady (h : d.Closed) : d.Steady := fun levels => (h levels).steady

theorem steady_value : value.Steady := by
  intro levels n s x r h
  obtain ⟨t, rfl, ht⟩ := steady_readValue levels (here_eq_ok h)
  refine ⟨t, rfl, fun n' hn r' hr' => ?_⟩
  exact here_eq_ok_iff.2 (ht n' hn r' hr')

theorem closed_text : text.Closed := by
  intro levels n s x r h
  dsimp only at h
  unfold text at h
  split at h
  · next u hgaps =>
    obtain ⟨t, rfl, ht⟩ := exists_gaps hgaps
    obtain ⟨v, rfl, hv⟩ := readString_eq_ok (here_eq_ok h)
    refine ⟨t ++ .char '"' :: v, by simp, by simp, fun n' _ r' => ?_⟩
    simp only [List.append_assoc, List.cons_append]
    rw [text, ht]
    exact here_eq_ok_iff.2 (hv r')
  · cases h

/-- Gaps are left out in front of a value as well. -/
theorem steady_optional (hd : d.Steady) : (optional d).Steady := by
  intro levels n s x r h
  dsimp only at h
  unfold optional at h
  split at h
  · next u hgaps =>
    obtain ⟨r₁, hr₁, h⟩ := map_eq_ok (here_eq_ok h)
    cases h
    obtain ⟨t, rfl, ht⟩ := exists_gaps hgaps
    obtain ⟨v, rfl, hv⟩ := readWord_eq_ok hr₁
    refine ⟨t ++ .char 'n' :: v, by simp, fun n' _ r' _ => ?_⟩
    simp only [List.append_assoc, List.cons_append]
    rw [optional, ht]
    change here ((readWord "ull".toList (v ++ r')).map fun s => ((none : Option α), s)) = _
    rw [hv]
    rfl
  · next hnull =>
    obtain ⟨⟨y, r₁⟩, hy, h⟩ := map_eq_ok h
    cases h
    obtain ⟨t, hs, -, ht⟩ := exists_split isGap s
    rw [← skipGaps] at hs ht
    obtain ⟨v, hv, hread⟩ := hd levels hy
    dsimp only at hread
    refine ⟨t ++ v, by rw [List.append_assoc, ← hv, ← hs], fun n' hn r' hr' => ?_⟩
    have hhead : (v ++ r').head? = (skipGaps s).head? := by
      rw [hv]
      exact head?_append_congr hr' v
    have hgaps : skipGaps (t ++ (v ++ r')) = v ++ r' := (ht _ (.inl hhead)).2
    simp only [List.append_assoc]
    rw [optional, hgaps]
    split
    · next u hu =>
      rw [hu] at hhead
      obtain ⟨w, hw⟩ := List.head?_eq_some_iff.1 hhead.symm
      exact (hnull w hw).elim
    · rw [hread n' hn r' hr']
      rfl

theorem closed_map : map.Closed := by
  intro levels n s m r h
  dsimp only at h
  unfold map at h
  split at h
  · next u hgaps =>
    cases levels with
    | zero => cases h
    | succ levels =>
      obtain ⟨⟨ms, r₁⟩, hms, h⟩ := map_eq_ok (here_eq_ok h)
      cases h
      obtain ⟨t, rfl, ht⟩ := exists_gaps hgaps
      obtain ⟨v, rfl, -, hv⟩ := closed_readMembers (steady_readValue levels) hms
      refine ⟨t ++ .char '\x7b' :: v, by simp, by simp, fun n' hn r' => ?_⟩
      simp only [List.append_assoc, List.cons_append]
      rw [map, ht]
      refine here_eq_ok_iff.2 ?_
      dsimp only at hv ⊢
      rw [hv n' hn r']
      rfl
  · cases h

theorem steady_note (hd : d.Steady) (f : α → σ → σ) : (d.note f).Steady :=
  fun levels => (hd levels).map f

/-- One turn of the loop of a list: it ends, or it reads an item. -/
theorem readList_step {item : Content → Except ReadError (α × Content)} {n : ℕ} {acc as : List α}
    {s r : Content} (h : readList item (n + 1) acc s = .ok (as, r)) :
    (∃ t, as = acc.reverse ∧ s = t ++ r ∧ t ≠ [] ∧
      ∀ (item' : Content → Except ReadError (α × Content)) n' acc' r',
        acc'.isEmpty = acc.isEmpty →
          readList item' (n' + 1) acc' (t ++ r') = .ok (acc'.reverse, r')) ∨
    ∃ x t s₁ s₂, s = t ++ s₁ ∧ item s₁ = .ok (x, s₂) ∧
      readList item n (x :: acc) s₂ = .ok (as, r) ∧
      ∀ (item' : Content → Except ReadError (α × Content)) n' acc' s₁' y s₂',
        acc'.isEmpty = acc.isEmpty → s₁'.head? = s₁.head? → item' s₁' = .ok (y, s₂') →
          readList item' (n' + 1) acc' (t ++ s₁') = readList item' n' (y :: acc') s₂' := by
  rw [readList] at h
  split at h
  · cases h
  · next hnext =>
    obtain ⟨t, r₁, rfl, hne, hend, ht⟩ := nextItem_eq_none hnext
    rw [hend] at h
    cases h
    refine .inl ⟨t, rfl, rfl, hne, fun item' n' acc' r' hacc => ?_⟩
    rw [readList, hacc, (ht r').1]
    dsimp only
    rw [(ht r').2]
    rfl
  · next s₁ hnext =>
    split at h
    · cases h
    · next x s₂ hx =>
      obtain ⟨t, rfl, ht⟩ := nextItem_eq_some hnext
      refine .inr ⟨x, t, s₁, s₂, rfl, within_eq_ok hx, h,
        fun item' n' acc' s₁' y s₂' hacc hhead hy => ?_⟩
      rw [readList, hacc, ht _ hhead]
      dsimp only
      rw [hy]
      rfl

theorem closed_readList {item : ℕ → Content → Except ReadError (α × Content)}
    (hitem : Json.Steady item) (N n : ℕ) {acc : List α} {s r : Content} {as : List α}
    (h : readList (item N) n acc s = .ok (as, r)) :
    ∃ t, s = t ++ r ∧ t ≠ [] ∧ ∀ N' ≥ N, ∀ n' ≥ n, ∀ r',
      readList (item N') n' acc (t ++ r') = .ok (as, r') := by
  induction n generalizing acc s with
  | zero => cases h
  | succ n ih =>
    rcases readList_step h with ⟨t, rfl, hs, hne, hend⟩ | ⟨x, t, s₁, s₂, rfl, hx, hrest, hturn⟩
    · refine ⟨t, hs, hne, fun N' _ n' hn r' => ?_⟩
      obtain ⟨k, rfl⟩ := Nat.exists_eq_add_one.2 (Nat.zero_lt_of_lt hn)
      exact hend _ _ _ _ rfl
    · obtain ⟨t₂, rfl, hne, ht₂⟩ := ih hrest
      obtain ⟨t₁, rfl, ht₁⟩ := hitem hx
      refine ⟨t ++ (t₁ ++ t₂), by simp only [List.append_assoc], by simp [hne],
        fun N' hN n' hn r' => ?_⟩
      obtain ⟨k, rfl⟩ := Nat.exists_eq_add_one.2 (Nat.zero_lt_of_lt hn)
      have hhead := head?_append_of_ne hne r r'
      rw [List.append_assoc, List.append_assoc,
        hturn _ _ _ _ _ _ rfl (head?_append_congr hhead t₁) (ht₁ N' hN _ hhead)]
      exact ht₂ N' hN k (Nat.le_of_succ_le_succ hn) r'

theorem closed_list (hd : d.Steady) : d.list.Closed := by
  intro levels n s as r h
  dsimp only at h
  unfold list at h
  split at h
  · next u hgaps =>
    cases levels with
    | zero => cases h
    | succ levels =>
      obtain ⟨t, rfl, ht⟩ := exists_gaps hgaps
      obtain ⟨v, rfl, -, hv⟩ := closed_readList (hd levels) n n h
      refine ⟨t ++ .char '[' :: v, by simp, by simp, fun n' hn r' => ?_⟩
      simp only [List.append_assoc, List.cons_append]
      rw [list, ht]
      exact hv n' hn n' hn r'
  · cases h

end Decoder

/-! ### Records -/

namespace Shape

variable {σ α : Type} {shape : Shape σ α} {levels : ℕ}

theorem nextItem_bracket (isFirst : Bool) {s u : Content} (h : skipGaps s = .char ']' :: u) :
    nextItem isFirst s = .ok none := by
  rw [nextItem, h]
  rfl

theorem exists_bracket_of_nextItem {isFirst : Bool} {s : Content}
    (h : nextItem isFirst s = .ok none) : ∃ u, skipGaps s = .char ']' :: u := by
  unfold nextItem at h
  split at h
  · cases h
  · next u hu => exact ⟨u, hu⟩
  · split_ifs at h
    · cases h
    · split at h <;> cases h

theorem exists_bracket_of_endArray {s r : Content} (h : endArray s = .ok r) :
    ∃ u, skipGaps s = .char ']' :: u := by
  unfold endArray at h
  split at h
  · cases h
  · next u hu => exact ⟨u, hu⟩
  · split at h <;> cases h
  · cases h

/-- Where the array ends, the members still to come leave any state as it is. -/
theorem readArray_bracket {turns i : ℕ} {ms : List (Member σ)} {state : σ} {s u r : Content}
    {a : α} (hs : skipGaps s = .char ']' :: u)
    (h : shape.readArray ⟨levels, turns⟩ ms i state s = .ok (a, r)) :
    shape.finish state = .ok a ∧ r = u ∧ ∀ turns' s' u' state' a',
      skipGaps s' = .char ']' :: u' → shape.finish state' = .ok a' →
        shape.readArray ⟨levels, turns'⟩ ms i state' s' = .ok (a', u') := by
  induction ms generalizing i with
  | nil =>
    obtain ⟨b, hb, hend⟩ := bind_eq_ok h
    rw [endArray, hs] at hend
    cases hend
    refine ⟨close_eq_ok hb, rfl, fun turns' s' u' state' a' hs' ha' => ?_⟩
    rw [readArray, close, ha', endArray, hs']
    rfl
  | cons m ms ih =>
    rw [readArray, nextItem_bracket _ hs] at h
    dsimp only at h
    split_ifs at h with hlack
    obtain ⟨hfinish, hr, hread⟩ := ih h
    refine ⟨hfinish, hr, fun turns' s' u' state' a' hs' ha' => ?_⟩
    rw [readArray, nextItem_bracket _ hs']
    dsimp only
    rw [if_pos hlack]
    exact hread turns' s' u' state' a' hs' ha'

theorem closed_readArray_bracket {turns i : ℕ} {ms : List (Member σ)} {state : σ}
    {s u r : Content} {a : α} (hs : skipGaps s = .char ']' :: u)
    (h : shape.readArray ⟨levels, turns⟩ ms i state s = .ok (a, r)) :
    ∃ t, s = t ++ r ∧ t ≠ [] ∧ ∀ turns' ≥ turns, ∀ r',
      shape.readArray ⟨levels, turns'⟩ ms i state (t ++ r') = .ok (a, r') := by
  obtain ⟨hfinish, rfl, hread⟩ := readArray_bracket hs h
  obtain ⟨t, rfl, ht⟩ := exists_gaps hs
  refine ⟨t ++ [.char ']'], by simp, by simp, fun turns' _ r' => ?_⟩
  rw [List.append_assoc, List.singleton_append]
  exact hread turns' _ r' state a (ht r') hfinish

/-- One step through the members of an array: it ends, or it reads the value of the next member. -/
theorem readArray_step {turns i : ℕ} {ms : List (Member σ)} {state : σ} {s r : Content} {a : α}
    (h : shape.readArray ⟨levels, turns⟩ ms i state s = .ok (a, r)) :
    (∃ u, skipGaps s = .char ']' :: u) ∨
    ∃ m ms' note t s₁ s₂, ms = m :: ms' ∧ s = t ++ s₁ ∧
      m.decoder ⟨levels, turns⟩ s₁ = .ok (note, s₂) ∧
      shape.readArray ⟨levels, turns⟩ ms' (i + 1) (note state) s₂ = .ok (a, r) ∧
      ∀ turns' state' s₁' note' s₂', s₁'.head? = s₁.head? →
        m.decoder ⟨levels, turns'⟩ s₁' = .ok (note', s₂') →
          shape.readArray ⟨levels, turns'⟩ ms i state' (t ++ s₁') =
            shape.readArray ⟨levels, turns'⟩ ms' (i + 1) (note' state') s₂' := by
  cases ms with
  | nil =>
    obtain ⟨b, -, hrest⟩ := bind_eq_ok h
    obtain ⟨v, hend, -⟩ := bind_eq_ok hrest
    exact .inl (exists_bracket_of_endArray (Decoder.here_eq_ok hend))
  | cons m ms =>
    rw [readArray] at h
    split at h
    · cases h
    · next hnext => exact .inl (exists_bracket_of_nextItem hnext)
    · next s₁ hnext =>
      split at h
      · cases h
      · next note s₂ hnote =>
        obtain ⟨t, rfl, ht⟩ := nextItem_eq_some hnext
        refine .inr ⟨m, ms, note, t, s₁, s₂, rfl, rfl, Decoder.within_eq_ok hnote, h,
          fun turns' state' s₁' note' s₂' hhead hnote' => ?_⟩
        rw [readArray, ht _ hhead]
        dsimp only
        rw [hnote']
        rfl

theorem closed_readArray {ms : List (Member σ)} (hms : ∀ m ∈ ms, m.decoder.Steady) (i : ℕ)
    (state : σ) : Json.Closed fun n s => shape.readArray ⟨levels, n⟩ ms i state s := by
  intro n s a r h
  dsimp only at h ⊢
  induction ms generalizing i state s with
  | nil =>
    rcases readArray_step h with ⟨u, hu⟩ | ⟨m, ms', note, t, s₁, s₂, hnil, -⟩
    · exact closed_readArray_bracket hu h
    · cases hnil
  | cons m ms ih =>
    rcases readArray_step h with ⟨u, hu⟩ |
      ⟨m', ms', note, t, s₁, s₂, hcons, rfl, hnote, hrest, hturn⟩
    · exact closed_readArray_bracket hu h
    · obtain ⟨rfl, rfl⟩ := List.cons.inj hcons
      obtain ⟨hm, hms⟩ := List.forall_mem_cons.1 hms
      obtain ⟨t₂, rfl, hne, ht₂⟩ := ih hms _ _ hrest
      obtain ⟨t₁, rfl, ht₁⟩ := hm levels hnote
      refine ⟨t ++ (t₁ ++ t₂), by simp only [List.append_assoc], by simp [hne],
        fun n' hn r' => ?_⟩
      have hhead := head?_append_of_ne hne r r'
      rw [List.append_assoc, List.append_assoc,
        hturn _ _ _ _ _ (head?_append_congr hhead t₁) (ht₁ n' hn _ hhead)]
      exact ht₂ n' hn r'

/-- A member is known from its value and the symbol after it, whether it is read or passed over. -/
theorem steady_readMember (hshape : ∀ m ∈ shape.members, m.decoder.Steady) (name : String)
    (state : σ) : Json.Steady fun n s => shape.readMember ⟨levels, n⟩ name state s := by
  intro n s state' r h
  dsimp only at h ⊢
  unfold readMember at h
  split at h
  · next hname =>
    obtain ⟨s₁, hcolon, hrest⟩ := bind_eq_ok h
    obtain ⟨s₂, hskip, hpure⟩ := bind_eq_ok hrest
    cases hpure
    obtain ⟨t₀, rfl, ht₀⟩ := readColon_eq_ok (Decoder.here_eq_ok hcolon)
    obtain ⟨t₁, rfl, ht₁⟩ :=
      skipValue_eq_ok (Decoder.here_eq_ok (Decoder.within_eq_ok hskip))
    refine ⟨t₀ ++ t₁, by simp, fun n' hn r' hr' => ?_⟩
    unfold readMember
    rw [hname]
    dsimp only
    rw [List.append_assoc, ht₀, here_ok, ok_bind, ht₁ n' hn r' hr']
    rfl
  · next m hname =>
    split at h
    · cases h
    · next hset =>
      obtain ⟨s₁, hcolon, hrest⟩ := bind_eq_ok h
      obtain ⟨⟨note, s₂⟩, hnote, hpure⟩ := bind_eq_ok hrest
      cases hpure
      obtain ⟨t₀, rfl, ht₀⟩ := readColon_eq_ok (Decoder.here_eq_ok hcolon)
      obtain ⟨t₁, rfl, ht₁⟩ :=
        hshape m (List.mem_of_find?_eq_some hname) levels (Decoder.within_eq_ok hnote)
      refine ⟨t₀ ++ t₁, by simp, fun n' hn r' hr' => ?_⟩
      have hm' := ht₁ n' hn r' hr'
      dsimp only at hm'
      unfold readMember
      rw [hname]
      dsimp only
      rw [if_neg hset, List.append_assoc, ht₀, here_ok, ok_bind, hm']
      rfl

/-- One turn of the loop of an object: it ends, or it takes a name off the text and reads a
member. -/
theorem readObject_step {turns n : ℕ} {isFirst : Bool} {state : σ} {s r : Content} {a : α}
    (h : shape.readObject ⟨levels, turns⟩ (n + 1) isFirst state s = .ok (a, r)) :
    (∃ t, shape.finish state = .ok a ∧ s = t ++ r ∧ t ≠ [] ∧ ∀ turns' n' state' a' r',
      shape.finish state' = .ok a' →
        shape.readObject ⟨levels, turns'⟩ (n' + 1) isFirst state' (t ++ r') = .ok (a', r')) ∨
    ∃ name t s₁ state₁ s₂, s = t ++ s₁ ∧
      shape.readMember ⟨levels, turns⟩ name state s₁ = .ok (state₁, s₂) ∧
      shape.readObject ⟨levels, turns⟩ n false state₁ s₂ = .ok (a, r) ∧
      ∀ turns' n' state' s₁' state₁' s₂',
        shape.readMember ⟨levels, turns'⟩ name state' s₁' = .ok (state₁', s₂') →
          shape.readObject ⟨levels, turns'⟩ (n' + 1) isFirst state' (t ++ s₁') =
            shape.readObject ⟨levels, turns'⟩ n' false state₁' s₂' := by
  rw [readObject] at h
  split at h
  · cases h
  · next hnext =>
    obtain ⟨b, hb, hpure⟩ := bind_eq_ok h
    cases hpure
    obtain ⟨t, r₁, hs, hne, hend, ht⟩ := nextMember_eq_none hnext
    rw [hend]
    refine .inl ⟨t, close_eq_ok hb, hs, hne, fun turns' n' state' a' r' ha' => ?_⟩
    rw [readObject, (ht r').1]
    dsimp only
    rw [close, ha', (ht r').2]
    rfl
  · next s₀ hnext =>
    obtain ⟨⟨name, s₁⟩, hname, hrest⟩ := bind_eq_ok h
    obtain ⟨⟨state₁, s₂⟩, hmember, hobject⟩ := bind_eq_ok hrest
    obtain ⟨t₁, rfl, ht₁⟩ := readString_eq_ok (Decoder.here_eq_ok hname)
    obtain ⟨t₀, rfl, -, ht₀⟩ := nextMember_eq_some hnext
    refine .inr ⟨name, t₀ ++ t₁, s₁, state₁, s₂, by simp only [List.append_assoc], hmember,
      hobject, fun turns' n' state' s₁' state₁' s₂' hmember' => ?_⟩
    rw [List.append_assoc, readObject, ht₀]
    dsimp only
    rw [ht₁, here_ok, ok_bind]
    dsimp only
    rw [hmember', ok_bind]

theorem closed_readObject (hshape : ∀ m ∈ shape.members, m.decoder.Steady) (N n : ℕ)
    {isFirst : Bool} {state : σ} {s r : Content} {a : α}
    (h : shape.readObject ⟨levels, N⟩ n isFirst state s = .ok (a, r)) :
    ∃ t, s = t ++ r ∧ t ≠ [] ∧ ∀ N' ≥ N, ∀ n' ≥ n, ∀ r',
      shape.readObject ⟨levels, N'⟩ n' isFirst state (t ++ r') = .ok (a, r') := by
  induction n generalizing isFirst state s with
  | zero => cases h
  | succ n ih =>
    rcases readObject_step h with ⟨t, hfinish, hs, hne, hend⟩ |
      ⟨name, t, s₁, state₁, s₂, rfl, hmember, hobject, hturn⟩
    · refine ⟨t, hs, hne, fun N' _ n' hn r' => ?_⟩
      obtain ⟨k, rfl⟩ := Nat.exists_eq_add_one.2 (Nat.zero_lt_of_lt hn)
      exact hend _ _ _ _ _ hfinish
    · obtain ⟨t₂, rfl, hne, ht₂⟩ := ih hobject
      obtain ⟨t₁, rfl, ht₁⟩ := steady_readMember hshape name state hmember
      refine ⟨t ++ (t₁ ++ t₂), by simp only [List.append_assoc], by simp [hne],
        fun N' hN n' hn r' => ?_⟩
      obtain ⟨k, rfl⟩ := Nat.exists_eq_add_one.2 (Nat.zero_lt_of_lt hn)
      rw [List.append_assoc, List.append_assoc,
        hturn _ _ _ _ _ _ (ht₁ N' hN _ (head?_append_of_ne hne r r'))]
      exact ht₂ N' hN k (Nat.le_of_succ_le_succ hn) r'

theorem closed_decoder (hshape : ∀ m ∈ shape.members, m.decoder.Steady) :
    shape.decoder.Closed := by
  intro levels n s a r h
  dsimp only at h
  unfold decoder at h
  split at h
  · next u hgaps =>
    cases levels with
    | zero => cases h
    | succ levels =>
      obtain ⟨t, rfl, ht⟩ := exists_gaps hgaps
      obtain ⟨v, rfl, -, hv⟩ := closed_readArray hshape 0 shape.start h
      refine ⟨t ++ .char '[' :: v, by simp, by simp, fun n' hn r' => ?_⟩
      simp only [List.append_assoc, List.cons_append]
      rw [decoder, ht]
      exact hv n' hn r'
  · next u hgaps =>
    cases levels with
    | zero => cases h
    | succ levels =>
      obtain ⟨t, rfl, ht⟩ := exists_gaps hgaps
      obtain ⟨v, rfl, -, hv⟩ := closed_readObject hshape n n h
      refine ⟨t ++ .char '\x7b' :: v, by simp, by simp, fun n' hn r' => ?_⟩
      simp only [List.append_assoc, List.cons_append]
      rw [decoder, ht]
      exact hv n' hn n' hn r'
  · cases h

end Shape

end Json

end Gridlines
