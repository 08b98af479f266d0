import Gridlines.Json.Record
import Gridlines.Proofs.Json.Reread
import Mathlib.Data.List.DropRight

/-!
# Records are read back

Readers of values of a known form are compared with written values.  A reader that is built from
others reads a value back if they read its parts back, and gives only values of a kind if they do;
a record is read back through the states that its members lead to.

* `Decoder.Reads` : a reader reads a written value back, and `Decoder.Yields` what it gives at all.
* `Shape.Absorbs` : the members of an object take the state of a record to another one.
* `Shape.decoder_reads`, `Shape.decoder_yields` : the readers of records.
-/

namespace Gridlines

namespace Json

namespace Decoder

variable {α : Type}

/-- With `n` levels, the written value `j` is read as `a`. -/
def Reads (d : Decoder α) (n : Nat) (j : Json) (a : α) : Prop :=
  ∀ turns rest, j.symbols.length ≤ turns → Delimited rest →
    d ⟨n, turns⟩ (j.symbols ++ rest) = .ok (a, rest)

/-- With `n` levels, whatever is read has the property. -/
def Yields (d : Decoder α) (n : Nat) (P : α → Prop) : Prop :=
  ∀ turns s a r, d ⟨n, turns⟩ s = .ok (a, r) → P a

variable {d : Decoder α} {n : Nat} {j : Json} {a : α} {P : α → Prop}

/-! ### Reading back -/

theorem value_reads (hj : j.Settled n) (hf : ∀ f ∈ j.floats, f.ReadsBack) : value.Reads n j j := by
  intro turns rest hturns hrest
  rw [value, readValue_symbols hj hf hturns hrest]
  rfl

theorem text_reads (n : Nat) (s : String) : text.Reads n (.string s) s := by
  intro turns rest _ _
  rw [text, symbols_string, List.cons_append, skipGaps_cons (by decide)]
  change here (readString (stringTail s ++ rest)) = .ok (s, rest)
  rw [readString_stringTail]
  rfl

theorem port_reads (n : Nat) (p : Fin 65536) : port.Reads n (.count p) p := by
  intro turns rest _ hrest
  have hrange : 0 ≤ (p.val : Int) ∧ (p.val : Int) < 65536 := by omega
  have hread := readNumber_append hrest (readNumber_false_toDigits (n := p.val) (by omega))
  have hsymbols : (count p).symbols = (Nat.toDigits 10 p).map .char := rfl
  obtain ⟨c, cs, hcs⟩ := List.exists_cons_of_ne_nil (Nat.toDigits_ne_nil (n := p.val) (b := 10))
  have hc : c.isDigit :=
    Nat.isDigit_of_mem_toDigits (by decide) (by decide) (hcs ▸ List.mem_cons_self)
  have hminus : c ≠ '-' := by
    rintro rfl
    exact absurd hc (by decide)
  unfold port
  rw [skipGaps_symbols, hsymbols]
  rw [hcs, List.map_cons, List.cons_append] at hread ⊢
  dsimp only
  rw [if_neg hminus, if_pos hc, hread]
  dsimp only
  rw [dif_pos hrange]
  rfl

theorem optional_reads (h : d.Reads n j a) (hj : j ≠ .null) : (optional d).Reads n j (some a) := by
  intro turns rest hturns hrest
  have hread := h turns rest hturns hrest
  obtain ⟨c, s, hs, -, hn⟩ := j.symbols_head
  have hc : c ≠ 'n' := fun hc => hj (hn hc)
  unfold optional
  rw [skipGaps_symbols]
  rw [hs, List.cons_append] at hread ⊢
  split
  · next heq =>
    cases heq
    exact absurd rfl hc
  · rw [hread]
    rfl

theorem map_reads {m : SortedMap Json} (hm : (Json.object m.entries).Settled n)
    (hf : ∀ f ∈ (Json.object m.entries).floats, f.ReadsBack) :
    map.Reads n (.object m.entries) m := by
  intro turns rest hturns hrest
  cases hm with
  | @object n _ hsorted h =>
    have hms : readMembers (readValue turns n) turns (membersTail true m.entries ++ rest) =
        .ok (m.entries, rest) := by
      refine readMembers_symbols (fun e he hlen s hs => ?_) hturns
      exact readValue_symbols (h e he) (fun f h => hf f (mem_floats_object.2 ⟨e, he, h⟩)) hlen hs
    rw [map, symbols_object, List.cons_append, skipGaps_cons (by decide)]
    change here ((readMembers (readValue turns n) turns (membersTail true m.entries ++ rest)).map
      fun r => (SortedMap.ofList r.1, r.2)) = .ok (m, rest)
    rw [hms, Except.map, SortedMap.ofList_entries]
    rfl

theorem note_reads {σ : Type} (h : d.Reads n j a) (f : α → σ → σ) : (d.note f).Reads n j (f a) := by
  intro turns rest hturns hrest
  rw [note, h turns rest hturns hrest]
  rfl

theorem readList_itemsTail {item : Content → Except ReadError (α × Content)} {write : α → Json}
    {turns : Nat} (acc : List α) {as : List α}
    (hitem : ∀ a ∈ as, ∀ s, Delimited s → item ((write a).symbols ++ s) = .ok (a, s))
    (hturns : as.length < turns) (rest : Content) :
    readList item turns acc (itemsTail acc.isEmpty (as.map write) ++ rest) =
      .ok (acc.reverse ++ as, rest) := by
  induction as generalizing turns acc with
  | nil =>
    obtain ⟨k, rfl⟩ := Nat.exists_eq_add_one.2 hturns
    rw [readList, List.map_nil, nextItem_nil, List.append_nil]
    rfl
  | cons a as ih =>
    obtain ⟨k, rfl⟩ := Nat.exists_eq_add_one.2 (Nat.zero_lt_of_lt hturns)
    obtain ⟨ha, has⟩ := List.forall_mem_cons.1 hitem
    have hacc : acc.reverse ++ a :: as = (a :: acc).reverse ++ as := by simp
    rw [readList, List.map_cons, nextItem_cons]
    dsimp only
    rw [ha _ (delimited_itemsTail _ rest), hacc]
    exact ih (a :: acc) has (Nat.lt_of_succ_lt_succ hturns)

theorem list_reads {write : α → Json} {as : List α} (h : ∀ a ∈ as, d.Reads n (write a) a) :
    d.list.Reads (n + 1) (.array (as.map write)) as := by
  intro turns rest hturns hrest
  rw [symbols_array, List.length_cons] at hturns
  rw [list, symbols_array, List.cons_append, skipGaps_cons (by decide)]
  dsimp only [descend]
  refine readList_itemsTail [] ?_ ?_ rest
  · intro a ha s hs
    have hlen := length_le_itemsTail true (List.mem_map_of_mem (f := write) ha)
    exact h a ha turns s (by omega) hs
  · have hlen := length_lt_itemsTail true (as.map write)
    rw [List.length_map] at hlen
    omega

/-- A text that holds a written value and nothing else is read back. -/
theorem run_reads (h : d.Reads depthLimit j a) : d.run (Symbol.ofString j.compact) = .ok a := by
  have hread := h j.symbols.length [] (Nat.le_refl _) trivial
  rw [List.append_nil] at hread
  rw [ofString_compact, run, hread]
  rfl

/-- At the start of a text as well. -/
theorem runFirst_reads (h : d.Reads depthLimit j a) :
    d.runFirst (Symbol.ofString j.compact) = .ok a := by
  have hread := h j.symbols.length [] (Nat.le_refl _) trivial
  rw [List.append_nil] at hread
  rw [ofString_compact, runFirst, hread]
  rfl

/-! ### What is read at all -/

theorem here_eq_ok {r : Except Fault α} (h : here r = .ok a) : r = .ok a := by
  cases r with
  | error f => cases h
  | ok b => exact congrArg Except.ok (Except.ok.inj h)

theorem within_eq_ok {step : Step} {r : Except ReadError α} (h : within step r = .ok a) :
    r = .ok a := by
  cases r with
  | error e => cases h
  | ok b => exact congrArg Except.ok (Except.ok.inj h)

theorem run_yields (h : d.Yields depthLimit P) {s : Content} (ha : d.run s = .ok a) : P a := by
  obtain ⟨⟨b, r⟩, hb, ha⟩ := bind_eq_ok ha
  obtain ⟨u, -, ha⟩ := bind_eq_ok ha
  cases ha
  exact h s.length s a r hb

theorem value_yields (n : Nat) : value.Yields n (·.Settled n) := by
  intro turns s x r h
  exact settled_of_readValue (here_eq_ok h)

theorem text_yields (n : Nat) : text.Yields n fun _ => True :=
  fun _ _ _ _ _ => trivial

/-- An optional value that is there is not `null`. -/
theorem optional_value_yields (n : Nat) :
    (optional value).Yields n fun x => ∀ y, x = some y → y ≠ .null ∧ y.Settled n := by
  intro turns s x r h
  unfold optional at h
  split at h
  · obtain ⟨t, -, h⟩ := map_eq_ok (here_eq_ok h)
    cases h
    rintro y ⟨⟩
  · next hn =>
    obtain ⟨⟨y, t⟩, hy, h⟩ := map_eq_ok h
    cases h
    rintro y ⟨⟩
    have hread := here_eq_ok hy
    refine ⟨ne_null_of_readValue ?_ hread, settled_of_readValue hread⟩
    intro t ht
    rw [skipGaps, skipGaps, List.dropWhile_idempotent] at ht
    exact hn t ht

theorem map_yields (n : Nat) : map.Yields n fun m => (Json.object m.entries).Settled n := by
  intro turns s m r h
  unfold map at h
  split at h
  · cases n with
    | zero => cases h
    | succ n =>
      obtain ⟨⟨ms, t⟩, hms, h⟩ := map_eq_ok (here_eq_ok h)
      cases h
      refine settled_ofList (readMembers_forall (fun s x r hx => ?_) hms)
      exact settled_of_readValue hx
  · cases h

theorem optional_yields (h : d.Yields n P) :
    (optional d).Yields n fun x => ∀ y, x = some y → P y := by
  intro turns s x r hx
  unfold optional at hx
  split at hx
  · obtain ⟨t, -, hx⟩ := map_eq_ok (here_eq_ok hx)
    cases hx
    rintro y ⟨⟩
  · obtain ⟨⟨y, t⟩, hy, hx⟩ := map_eq_ok hx
    cases hx
    rintro y ⟨⟩
    exact h turns _ y t hy

/-- What is noted keeps an invariant of the states. -/
theorem note_yields {σ : Type} {f : α → σ → σ} {I : σ → Prop} (h : d.Yields n P)
    (hf : ∀ a, P a → ∀ state, I state → I (f a state)) :
    (d.note f).Yields n fun note => ∀ state, I state → I (note state) := by
  intro turns s note r hnote
  obtain ⟨⟨a, t⟩, ha, hnote⟩ := map_eq_ok hnote
  cases hnote
  exact hf a (h turns s a t ha)

theorem readList_forall {item : Content → Except ReadError (α × Content)}
    (hitem : ∀ s a r, item s = .ok (a, r) → P a) {turns : Nat} {acc : List α}
    (hacc : ∀ a ∈ acc, P a) {s r : Content} {as : List α}
    (h : readList item turns acc s = .ok (as, r)) : ∀ a ∈ as, P a := by
  induction turns generalizing acc s with
  | zero => cases h
  | succ k ih =>
    rw [readList] at h
    split at h
    · cases h
    · obtain ⟨t, -, h⟩ := map_eq_ok (here_eq_ok h)
      cases h
      simpa using hacc
    · split at h
      · cases h
      · next heq =>
        refine ih ?_ h
        rw [List.forall_mem_cons]
        exact ⟨hitem _ _ _ (within_eq_ok heq), hacc⟩

theorem list_yields (h : d.Yields n P) : d.list.Yields (n + 1) fun as => ∀ a ∈ as, P a := by
  intro turns s as r has
  unfold list at has
  split at has
  · exact readList_forall (h turns) (List.forall_mem_nil P) has
  · cases has

end Decoder

theorem here_ok {α : Type} (a : α) : here (.ok a) = .ok a := rfl

namespace Shape

variable {σ α : Type} {shape : Shape σ α} {n : Nat}

/-- The members of an object take the state of a record to another one, each as the record reads it
with `n` levels.  A string that is no member is passed over. -/
inductive Absorbs (shape : Shape σ α) (n : Nat) : σ → List (String × Json) → σ → Prop where
  | nil {state : σ} : Absorbs shape n state [] state
  | skip {state state' : σ} {name text : String} {ms : List (String × Json)}
      (hname : shape.members.find? (·.name == name) = none)
      (h : Absorbs shape n state ms state') :
      Absorbs shape n state ((name, .string text) :: ms) state'
  | read {state state' : σ} {name : String} {j : Json} {ms : List (String × Json)}
      {m : Member σ} {note : σ → σ} (hname : shape.members.find? (·.name == name) = some m)
      (hset : m.isSet state = false) (hread : m.decoder.Reads n j note)
      (h : Absorbs shape n (note state) ms state') : Absorbs shape n state ((name, j) :: ms) state'

/-- A member whose value is noted. -/
theorem Absorbs.note {β : Type} {state state' : σ} {name : String} {mayLack : Bool}
    {isSet : σ → Bool} {d : Decoder β} {f : β → σ → σ} {j : Json} {b : β}
    {ms : List (String × Json)}
    (hname : shape.members.find? (·.name == name) = some ⟨name, mayLack, isSet, d.note f⟩)
    (hset : isSet state = false) (hread : d.Reads n j b)
    (h : Absorbs shape n (f b state) ms state') : Absorbs shape n state ((name, j) :: ms) state' :=
  .read hname hset (Decoder.note_reads hread f) h

theorem readMember_skip {turns : Nat} {name : String}
    (hname : shape.members.find? (·.name == name) = none) (hturns : 0 < turns) (state : σ)
    (text : String) (s : Content) :
    shape.readMember ⟨n, turns⟩ name state (.char ':' :: ((string text).symbols ++ s)) =
      .ok (state, s) := by
  unfold readMember
  rw [hname]
  dsimp only
  rw [readColon_colon, here_ok, ok_bind, skipValue_string hturns]
  rfl

theorem readMember_read {turns : Nat} {name : String} {m : Member σ} {note : σ → σ} {state : σ}
    {j : Json} (hname : shape.members.find? (·.name == name) = some m)
    (hset : m.isSet state = false) (hread : m.decoder.Reads n j note)
    (hturns : j.symbols.length ≤ turns) {s : Content} (hs : Delimited s) :
    shape.readMember ⟨n, turns⟩ name state (.char ':' :: (j.symbols ++ s)) =
      .ok (note state, s) := by
  unfold readMember
  rw [hname]
  dsimp only
  rw [hset, readColon_colon, here_ok]
  simp only [Bool.false_eq_true, if_false, ok_bind, hread turns s hturns hs]
  rfl

/-- A member that leads to another state is read, and the object goes on from that state. -/
theorem readObject_membersTail_cons {steps turns : Nat} {name : String} {j : Json}
    {ms : List (String × Json)} {state state' : σ} {isFirst : Bool} {rest : Content}
    (h : shape.readMember ⟨n, turns⟩ name state
        (.char ':' :: (j.symbols ++ (membersTail false ms ++ rest))) =
      .ok (state', membersTail false ms ++ rest)) :
    shape.readObject ⟨n, turns⟩ (steps + 1) isFirst state
        (membersTail isFirst ((name, j) :: ms) ++ rest) =
      shape.readObject ⟨n, turns⟩ steps false state' (membersTail false ms ++ rest) := by
  rw [readObject, nextMember_cons]
  dsimp only
  rw [readString_stringTail, here_ok, ok_bind]
  dsimp only
  rw [h, ok_bind]

theorem readObject_membersTail {ms : List (String × Json)} {state state' : σ} {a : α}
    (h : Absorbs shape n state ms state') (ha : shape.finish state' = .ok a) {steps turns : Nat}
    (hsteps : ms.length < steps) (hturns : ∀ e ∈ ms, e.2.symbols.length ≤ turns)
    (isFirst : Bool) (rest : Content) :
    shape.readObject ⟨n, turns⟩ steps isFirst state (membersTail isFirst ms ++ rest) =
      .ok (a, rest) := by
  induction h generalizing steps isFirst with
  | nil =>
    obtain ⟨k, rfl⟩ := Nat.exists_eq_add_one.2 hsteps
    rw [readObject, nextMember_nil, close, ha]
    rfl
  | skip hname _ ih =>
    obtain ⟨k, rfl⟩ := Nat.exists_eq_add_one.2 (Nat.zero_lt_of_lt hsteps)
    obtain ⟨hj, hms⟩ := List.forall_mem_cons.1 hturns
    have hpos := (length_symbols_pos _).trans_le hj
    rw [readObject_membersTail_cons (readMember_skip hname hpos _ _ _)]
    exact ih ha (Nat.lt_of_succ_lt_succ hsteps) hms false
  | read hname hset hread _ ih =>
    obtain ⟨k, rfl⟩ := Nat.exists_eq_add_one.2 (Nat.zero_lt_of_lt hsteps)
    obtain ⟨hj, hms⟩ := List.forall_mem_cons.1 hturns
    have hrest := fun ms => delimited_membersTail ms rest
    rw [readObject_membersTail_cons (readMember_read hname hset hread hj (hrest _))]
    exact ih ha (Nat.lt_of_succ_lt_succ hsteps) hms false

/-- A record is read back from an object whose members lead to a state of the record. -/
theorem decoder_reads {ms : List (String × Json)} (state : σ) {a : α}
    (h : Absorbs shape n shape.start ms state) (ha : shape.finish state = .ok a) :
    shape.decoder.Reads (n + 1) (.object ms) a := by
  intro turns rest hturns _
  rw [symbols_object, List.length_cons] at hturns
  rw [decoder, symbols_object, List.cons_append, skipGaps_cons (by decide)]
  change shape.readObject ⟨n, turns⟩ turns true shape.start (membersTail true ms ++ rest) = _
  refine readObject_membersTail h ha ?_ (fun e he => ?_) true rest
  · have hlen := length_lt_membersTail true ms
    omega
  · have hlen := length_le_membersTail true he
    omega

/-! ### What a record can be -/

variable {I : σ → Prop} {P : α → Prop}

/-- Every member keeps the invariant of the states. -/
def Keeps (shape : Shape σ α) (n : Nat) (I : σ → Prop) : Prop :=
  ∀ m ∈ shape.members, m.decoder.Yields n fun note => ∀ state, I state → I (note state)

theorem close_eq_ok {state : σ} {a : α} (h : shape.close state = .ok a) :
    shape.finish state = .ok a := by
  unfold close at h
  split at h
  · next heq =>
    cases h
    exact heq
  · cases h

theorem readArray_yields {turns : Nat} {ms : List (Member σ)}
    (hms : ∀ m ∈ ms, m.decoder.Yields n fun note => ∀ state, I state → I (note state))
    (hfinish : ∀ state a, I state → shape.finish state = .ok a → P a) {i : Nat} {state : σ}
    (hstate : I state) {s r : Content} {a : α}
    (h : shape.readArray ⟨n, turns⟩ ms i state s = .ok (a, r)) : P a := by
  induction ms generalizing i state s with
  | nil =>
    obtain ⟨b, hb, h⟩ := bind_eq_ok h
    obtain ⟨t, -, h⟩ := bind_eq_ok h
    cases h
    exact hfinish state a hstate (close_eq_ok hb)
  | cons m ms ih =>
    obtain ⟨hm, hms⟩ := List.forall_mem_cons.1 hms
    rw [readArray] at h
    split at h
    · cases h
    · split_ifs at h
      exact ih hms hstate h
    · split at h
      · cases h
      · next heq =>
        exact ih hms (hm turns _ _ _ (Decoder.within_eq_ok heq) state hstate) h

theorem readMember_keeps (hkeeps : shape.Keeps n I) {turns : Nat} {name : String}
    {state state' : σ} (hstate : I state) {s r : Content}
    (h : shape.readMember ⟨n, turns⟩ name state s = .ok (state', r)) : I state' := by
  unfold readMember at h
  split at h
  · obtain ⟨t, -, h⟩ := bind_eq_ok h
    obtain ⟨t', -, h⟩ := bind_eq_ok h
    cases h
    exact hstate
  · next m hm =>
    split at h
    · cases h
    · obtain ⟨t, -, h⟩ := bind_eq_ok h
      obtain ⟨⟨note, t'⟩, hnote, h⟩ := bind_eq_ok h
      cases h
      exact hkeeps m (List.mem_of_find?_eq_some hm) turns t note r
        (Decoder.within_eq_ok hnote) state hstate

theorem readObject_yields (hkeeps : shape.Keeps n I)
    (hfinish : ∀ state a, I state → shape.finish state = .ok a → P a) {steps turns : Nat}
    {isFirst : Bool} {state : σ} (hstate : I state) {s r : Content} {a : α}
    (h : shape.readObject ⟨n, turns⟩ steps isFirst state s = .ok (a, r)) : P a := by
  induction steps generalizing isFirst state s with
  | zero => cases h
  | succ k ih =>
    rw [readObject] at h
    split at h
    · cases h
    · obtain ⟨b, hb, h⟩ := bind_eq_ok h
      cases h
      exact hfinish state a hstate (close_eq_ok hb)
    · obtain ⟨⟨name, t⟩, -, h⟩ := bind_eq_ok h
      obtain ⟨⟨state', t'⟩, hmember, h⟩ := bind_eq_ok h
      exact ih (readMember_keeps hkeeps hstate hmember) h

/-- A record has a property if the states that can be finished have it: the invariant holds at the
start, every member keeps it, and it is all that is left of how the record was written. -/
theorem decoder_yields (hstart : I shape.start) (hkeeps : shape.Keeps n I)
    (hfinish : ∀ state a, I state → shape.finish state = .ok a → P a) :
    shape.decoder.Yields (n + 1) P := by
  intro turns s a r h
  unfold decoder at h
  split at h
  · exact readArray_yields hkeeps hfinish hstart h
  · exact readObject_yields hkeeps hfinish hstart h
  · cases h

end Shape

end Json

end Gridlines
