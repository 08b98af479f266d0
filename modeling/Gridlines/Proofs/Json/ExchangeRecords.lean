import Gridlines.Proofs.Json.Exchange

/-!
# Another value in place of a number in a record

A member that alone decides one part of a record is a part of the record's text.  Where another
value of it is read, the record has that part changed and nothing else, whether it is written as an
object or as an array.

* `Shape.Notes` : a member decides its part of the state alone.
* `Shape.part_decoder` : its value is a part of what is read as the record.
-/

namespace Gridlines

namespace Json

variable {σ α β : Type}

/-- The member does not look at what `p` notes with `f`, and does not change it. -/
structure Member.Apart (q p : Member σ) (f : β → σ → σ) : Prop where
  isSet_note : ∀ b state, q.isSet (f b state) = q.isSet state
  yields : ∀ levels, q.decoder.Yields levels fun note =>
    ∀ state, p.isSet (note state) = p.isSet state ∧ ∀ b, note (f b state) = f b (note state)

namespace Shape

/-- One part of the state is noted by the member `p` alone, once, and `put` changes that part of
the finished record. -/
structure Notes (shape : Shape σ α) (p : Member σ) (d : Decoder β) (f : β → σ → σ)
    (put : β → α → α) : Prop where
  decoder : p.decoder = d.note f
  isSet_start : p.isSet shape.start = false
  isSet_note : ∀ b state, p.isSet (f b state) = true
  finish_note : ∀ b b' state a, shape.finish (f b state) = .ok a →
    shape.finish (f b' state) = .ok (put b' a)
  split : ∃ ps qs, shape.members = ps ++ p :: qs ∧ ∀ q ∈ ps ++ qs, q.Apart p f
  steady : ∀ m ∈ shape.members, m.decoder.Steady

variable {shape : Shape σ α} {p : Member σ} {d : Decoder β} {f : β → σ → σ} {put : β → α → α}
  {levels n : ℕ} {state : σ} {s r : Content} {a : α}

theorem Notes.eq_or_apart (h : shape.Notes p d f put) {q : Member σ} (hq : q ∈ shape.members) :
    q = p ∨ q.Apart p f := by
  obtain ⟨ps, qs, hmembers, hapart⟩ := h.split
  rw [hmembers, List.mem_append, List.mem_cons] at hq
  rcases hq with hq | rfl | hq
  · exact .inr (hapart q (List.mem_append_left _ hq))
  · exact .inl rfl
  · exact .inr (hapart q (List.mem_append_right _ hq))

theorem Notes.put_eq (h : shape.Notes p d f put) {b : β} (ha : shape.finish (f b state) = .ok a) :
    put b a = a := by
  have hput := h.finish_note b b state a ha
  rw [ha] at hput
  exact (Except.ok.inj hput).symm

/-! ### Records as arrays -/

theorem Notes.readArray_after_bracket (h : shape.Notes p d f put) {ms : List (Member σ)} {i : ℕ}
    {b : β} {u : Content} (hu : skipGaps s = .char ']' :: u)
    (hread : shape.readArray ⟨levels, n⟩ ms i (f b state) s = .ok (a, r)) :
    put b a = a ∧ ∀ b', ∀ n' ≥ n,
      shape.readArray ⟨levels, n'⟩ ms i (f b' state) s = .ok (put b' a, r) := by
  obtain ⟨hfinish, rfl, hany⟩ := readArray_bracket hu hread
  refine ⟨h.put_eq hfinish, fun b' n' _ => ?_⟩
  exact hany n' s r _ _ hu (h.finish_note b b' state a hfinish)

/-- After the member has been read, the rest of the record does not depend on what it noted. -/
theorem Notes.readArray_after (h : shape.Notes p d f put) {qs : List (Member σ)}
    (hqs : ∀ q ∈ qs, q.Apart p f ∧ q.decoder.Steady) {i : ℕ} {b : β}
    (hread : shape.readArray ⟨levels, n⟩ qs i (f b state) s = .ok (a, r)) :
    put b a = a ∧ ∀ b', ∀ n' ≥ n,
      shape.readArray ⟨levels, n'⟩ qs i (f b' state) s = .ok (put b' a, r) := by
  induction qs generalizing i state s with
  | nil =>
    rcases readArray_step hread with ⟨u, hu⟩ | ⟨q', qs', note, t, s₁, s₂, hnil, -⟩
    · exact h.readArray_after_bracket hu hread
    · cases hnil
  | cons q qs ih =>
    rcases readArray_step hread with ⟨u, hu⟩ |
      ⟨q', qs', note, t, s₁, s₂, hcons, rfl, hnote, hrest, hturn⟩
    · exact h.readArray_after_bracket hu hread
    · obtain ⟨rfl, rfl⟩ := List.cons.inj hcons
      obtain ⟨⟨hapart, hsteady⟩, hqs⟩ := List.forall_mem_cons.1 hqs
      have hcomm := fun state => (hapart.yields levels n s₁ note s₂ hnote state).2
      rw [hcomm] at hrest
      obtain ⟨hput, hafter⟩ := ih hqs hrest
      refine ⟨hput, fun b' n' hn => ?_⟩
      rw [hturn _ _ _ _ _ rfl ((hsteady levels).more hnote hn), hcomm]
      exact hafter b' n' hn

/-- The record is finished without the member, or the member is a part of it. -/
theorem Notes.part_readArray (h : shape.Notes p d f put) {ps qs : List (Member σ)}
    (hps : ∀ q ∈ ps, q.Apart p f ∧ q.decoder.Steady)
    (hqs : ∀ q ∈ qs, q.Apart p f ∧ q.decoder.Steady) {i : ℕ} (hset : p.isSet state = false)
    (hread : shape.readArray ⟨levels, n⟩ (ps ++ p :: qs) i state s = .ok (a, r)) :
    (∃ state', p.isSet state' = false ∧ shape.finish state' = .ok a) ∨
      ∃ b s₁ r₁, d ⟨levels, n⟩ s₁ = .ok (b, r₁) ∧ put b a = a ∧
        Part (fun n s => shape.readArray ⟨levels, n⟩ (ps ++ p :: qs) i state s)
          (fun n s => d ⟨levels, n⟩ s) n s r s₁ r₁ fun b => put b a := by
  induction ps generalizing i state s with
  | nil =>
    rcases readArray_step hread with ⟨u, hu⟩ |
      ⟨q', qs', note, t, s₁, s₂, hcons, rfl, hnote, hrest, hturn⟩
    · exact .inl ⟨state, hset, (readArray_bracket hu hread).1⟩
    · obtain ⟨rfl, rfl⟩ := List.cons.inj hcons
      rw [h.decoder] at hnote
      obtain ⟨⟨b, r₁⟩, hb, hpair⟩ := map_eq_ok hnote
      cases hpair
      obtain ⟨hput, hafter⟩ := h.readArray_after hqs hrest
      refine .inr ⟨b, s₁, r₁, hb, hput, t, rfl, fun s₁' b' hhead hb' n' hn => ?_⟩
      have hread' := hb' n' hn
      have hnote' : p.decoder ⟨levels, n'⟩ s₁' = .ok (f b', r₁) := by
        dsimp only at hread'
        rw [h.decoder, Decoder.note, hread']
        rfl
      exact (hturn _ _ _ _ _ hhead hnote').trans (hafter b' n' hn)
  | cons q ps ih =>
    rcases readArray_step hread with ⟨u, hu⟩ |
      ⟨q', qs', note, t, s₁, s₂, hcons, rfl, hnote, hrest, hturn⟩
    · exact .inl ⟨state, hset, (readArray_bracket hu hread).1⟩
    · obtain ⟨rfl, rfl⟩ := List.cons.inj hcons
      obtain ⟨⟨hapart, hsteady⟩, hps⟩ := List.forall_mem_cons.1 hps
      have hset' : p.isSet (note state) = false := by
        rw [(hapart.yields levels n s₁ note s₂ hnote state).1, hset]
      refine (ih hps hset' hrest).imp_right ?_
      rintro ⟨b, s₃, r₁, hb, hput, t₂, rfl, hpart⟩
      obtain ⟨t₁, rfl, ht₁⟩ := hsteady levels hnote
      refine ⟨b, s₃, r₁, hb, hput, t ++ (t₁ ++ t₂), by simp only [List.append_assoc],
        fun s₁' b' hhead hb' n' hn => ?_⟩
      have hhead₂ := head?_append_congr hhead t₂
      rw [List.append_assoc, List.append_assoc]
      exact (hturn _ _ _ _ _ (head?_append_congr hhead₂ t₁) (ht₁ n' hn _ hhead₂)).trans
        (hpart s₁' b' hhead hb' n' hn)

/-! ### Records as objects -/

/-- Once the member has been read it is not read again, and the others do not look at it. -/
theorem Notes.readMember_after (h : shape.Notes p d f put) {name : String} {b : β} {state₁ : σ}
    (hread : shape.readMember ⟨levels, n⟩ name (f b state) s = .ok (state₁, r)) :
    ∃ state', state₁ = f b state' ∧ ∀ b', ∀ n' ≥ n,
      shape.readMember ⟨levels, n'⟩ name (f b' state) s = .ok (f b' state', r) := by
  unfold readMember at hread
  split at hread
  · next hname =>
    obtain ⟨s₁, hcolon, hrest⟩ := bind_eq_ok hread
    obtain ⟨s₂, hskip, hpure⟩ := bind_eq_ok hrest
    cases hpure
    obtain ⟨t, rfl, ht⟩ := skipValue_eq_ok (Decoder.here_eq_ok (Decoder.within_eq_ok hskip))
    refine ⟨state, rfl, fun b' n' hn => ?_⟩
    unfold readMember
    rw [hname]
    dsimp only
    rw [hcolon, ok_bind, ht n' hn r rfl]
    rfl
  · next q hname =>
    have hq := List.mem_of_find?_eq_some hname
    split at hread
    · cases hread
    · next hset =>
      rcases h.eq_or_apart hq with rfl | hapart
      · exact absurd (h.isSet_note b state) hset
      · obtain ⟨s₁, hcolon, hrest⟩ := bind_eq_ok hread
        obtain ⟨⟨note, s₂⟩, hnote, hpure⟩ := bind_eq_ok hrest
        cases hpure
        have hnote := Decoder.within_eq_ok hnote
        have hcomm := (hapart.yields levels n s₁ note r hnote state).2
        refine ⟨note state, hcomm b, fun b' n' hn => ?_⟩
        have hmore := (h.steady q hq levels).more hnote hn
        rw [hapart.isSet_note] at hset
        unfold readMember
        rw [hname]
        dsimp only
        rw [hapart.isSet_note, if_neg hset, hcolon, ok_bind, hmore]
        exact congrArg (fun state => Except.ok (state, r)) (hcomm b')

/-- A member of an object leaves what `p` notes unread, or it is `p` and notes what it reads. -/
theorem Notes.readMember_before (h : shape.Notes p d f put) {name : String} {state₁ : σ}
    (hset : p.isSet state = false)
    (hread : shape.readMember ⟨levels, n⟩ name state s = .ok (state₁, r)) :
    p.isSet state₁ = false ∨ ∃ t s₁ b, s = t ++ s₁ ∧ d ⟨levels, n⟩ s₁ = .ok (b, r) ∧
      state₁ = f b state ∧ ∀ n' s₁' b', d ⟨levels, n'⟩ s₁' = .ok (b', r) →
        shape.readMember ⟨levels, n'⟩ name state (t ++ s₁') = .ok (f b' state, r) := by
  unfold readMember at hread
  split at hread
  · obtain ⟨s₁, -, hrest⟩ := bind_eq_ok hread
    obtain ⟨s₂, -, hpure⟩ := bind_eq_ok hrest
    cases hpure
    exact .inl hset
  · next q hname =>
    split at hread
    · cases hread
    · next hq =>
      obtain ⟨s₁, hcolon, hrest⟩ := bind_eq_ok hread
      obtain ⟨⟨note, s₂⟩, hnote, hpure⟩ := bind_eq_ok hrest
      cases hpure
      have hnote := Decoder.within_eq_ok hnote
      rcases h.eq_or_apart (List.mem_of_find?_eq_some hname) with rfl | hapart
      · rw [h.decoder] at hnote
        obtain ⟨⟨b, r₁⟩, hb, hpair⟩ := map_eq_ok hnote
        cases hpair
        obtain ⟨t, rfl, ht⟩ := readColon_eq_ok (Decoder.here_eq_ok hcolon)
        refine .inr ⟨t, s₁, b, rfl, hb, rfl, fun n' s₁' b' hb' => ?_⟩
        unfold readMember
        rw [hname]
        dsimp only
        rw [if_neg hq, ht, here_ok, ok_bind, h.decoder, Decoder.note, hb']
        rfl
      · rw [← (hapart.yields levels n s₁ note r hnote state).1] at hset
        exact .inl hset

theorem Notes.readObject_after (h : shape.Notes p d f put) {N : ℕ} {isFirst : Bool} {b : β}
    (hread : shape.readObject ⟨levels, N⟩ n isFirst (f b state) s = .ok (a, r)) :
    put b a = a ∧ ∀ b', ∀ N' ≥ N, ∀ n' ≥ n,
      shape.readObject ⟨levels, N'⟩ n' isFirst (f b' state) s = .ok (put b' a, r) := by
  induction n generalizing isFirst state s with
  | zero => cases hread
  | succ n ih =>
    rcases readObject_step hread with ⟨t, hfinish, rfl, -, hend⟩ |
      ⟨name, t, s₁, state₁, s₂, rfl, hmember, hobject, hturn⟩
    · refine ⟨h.put_eq hfinish, fun b' N' _ n' hn => ?_⟩
      obtain ⟨m, rfl⟩ := Nat.exists_eq_add_one.2 (Nat.zero_lt_of_lt hn)
      exact hend _ _ _ _ _ (h.finish_note b b' state a hfinish)
    · obtain ⟨state', rfl, hafter⟩ := h.readMember_after hmember
      obtain ⟨hput, hloop⟩ := ih hobject
      refine ⟨hput, fun b' N' hN n' hn => ?_⟩
      obtain ⟨m, rfl⟩ := Nat.exists_eq_add_one.2 (Nat.zero_lt_of_lt hn)
      rw [hturn _ _ _ _ _ _ (hafter b' N' hN)]
      exact hloop b' N' hN m (Nat.le_of_succ_le_succ hn)

theorem Notes.part_readObject (h : shape.Notes p d f put) {N : ℕ} {isFirst : Bool}
    (hset : p.isSet state = false)
    (hread : shape.readObject ⟨levels, N⟩ n isFirst state s = .ok (a, r)) :
    (∃ state', p.isSet state' = false ∧ shape.finish state' = .ok a) ∨
      ∃ b t s₁ r₁, s = t ++ s₁ ∧ d ⟨levels, N⟩ s₁ = .ok (b, r₁) ∧ put b a = a ∧
        ∀ s₁' b', s₁'.head? = s₁.head? → (∀ n' ≥ N, d ⟨levels, n'⟩ s₁' = .ok (b', r₁)) →
          ∀ N' ≥ N, ∀ n' ≥ n,
            shape.readObject ⟨levels, N'⟩ n' isFirst state (t ++ s₁') = .ok (put b' a, r) := by
  induction n generalizing isFirst state s with
  | zero => cases hread
  | succ n ih =>
    rcases readObject_step hread with ⟨t, hfinish, -⟩ |
      ⟨name, t, s₁, state₁, s₂, rfl, hmember, hobject, hturn⟩
    · exact .inl ⟨state, hset, hfinish⟩
    · rcases h.readMember_before hset hmember with hset' | ⟨t₁, s₃, b, rfl, hb, rfl, hplace⟩
      · refine (ih hset' hobject).imp_right ?_
        rintro ⟨b, t₂, s₃, r₁, rfl, hb, hput, hpart⟩
        obtain ⟨t₁, rfl, ht₁⟩ := steady_readMember h.steady name state hmember
        refine ⟨b, t ++ (t₁ ++ t₂), s₃, r₁, by simp only [List.append_assoc], hb, hput,
          fun s₁' b' hhead hb' N' hN n' hn => ?_⟩
        obtain ⟨m, rfl⟩ := Nat.exists_eq_add_one.2 (Nat.zero_lt_of_lt hn)
        rw [List.append_assoc, List.append_assoc,
          hturn _ _ _ _ _ _ (ht₁ N' hN _ (head?_append_congr hhead t₂))]
        exact hpart s₁' b' hhead hb' N' hN m (Nat.le_of_succ_le_succ hn)
      · obtain ⟨hput, hafter⟩ := h.readObject_after hobject
        refine .inr ⟨b, t ++ t₁, s₃, s₂, by simp only [List.append_assoc], hb, hput,
          fun s₁' b' _ hb' N' hN n' hn => ?_⟩
        obtain ⟨m, rfl⟩ := Nat.exists_eq_add_one.2 (Nat.zero_lt_of_lt hn)
        rw [List.append_assoc, hturn _ _ _ _ _ _ (hplace N' s₁' b' (hb' N' hN))]
        exact hafter b' N' hN m (Nat.le_of_succ_le_succ hn)

/-- The record is finished without the member, or the member's value is a part of the text. -/
theorem Notes.part_decoder (h : shape.Notes p d f put)
    (hread : shape.decoder ⟨levels + 1, n⟩ s = .ok (a, r)) :
    (∃ state, p.isSet state = false ∧ shape.finish state = .ok a) ∨
      ∃ b s₁ r₁, d ⟨levels, n⟩ s₁ = .ok (b, r₁) ∧ put b a = a ∧
        Part (fun n s => shape.decoder ⟨levels + 1, n⟩ s) (fun n s => d ⟨levels, n⟩ s) n s r s₁ r₁
          fun b => put b a := by
  unfold Shape.decoder at hread
  split at hread
  · next u hgaps =>
    obtain ⟨ps, qs, hmembers, hapart⟩ := h.split
    have hps : ∀ q ∈ ps, q.Apart p f ∧ q.decoder.Steady := fun q hq =>
      ⟨hapart q (List.mem_append_left _ hq), h.steady q (by simp [hmembers, hq])⟩
    have hqs : ∀ q ∈ qs, q.Apart p f ∧ q.decoder.Steady := fun q hq =>
      ⟨hapart q (List.mem_append_right _ hq), h.steady q (by simp [hmembers, hq])⟩
    have harray : shape.readArray ⟨levels, n⟩ (ps ++ p :: qs) 0 shape.start u = .ok (a, r) := by
      rw [← hmembers]
      exact hread
    refine (h.part_readArray hps hqs h.isSet_start harray).imp_right ?_
    rintro ⟨b, s₁, r₁, hb, hput, t, rfl, hpart⟩
    obtain ⟨t₀, rfl, ht₀⟩ := exists_gaps hgaps
    refine ⟨b, s₁, r₁, hb, hput, t₀ ++ .char '[' :: t, by simp, fun s₁' b' hhead hb' n' hn => ?_⟩
    have hpart := hpart s₁' b' hhead hb' n' hn
    simp only [List.append_assoc, List.cons_append]
    rw [Shape.decoder, ht₀, hmembers]
    exact hpart
  · next u hgaps =>
    refine (h.part_readObject h.isSet_start hread).imp_right ?_
    rintro ⟨b, t, s₁, r₁, rfl, hb, hput, hpart⟩
    obtain ⟨t₀, rfl, ht₀⟩ := exists_gaps hgaps
    refine ⟨b, s₁, r₁, hb, hput, t₀ ++ .char '\x7b' :: t, by simp,
      fun s₁' b' hhead hb' n' hn => ?_⟩
    simp only [List.append_assoc, List.cons_append]
    rw [Shape.decoder, ht₀]
    exact hpart s₁' b' hhead hb' n' hn n' hn
  · cases hread

end Shape

end Json

end Gridlines
