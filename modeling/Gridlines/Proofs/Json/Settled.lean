import Gridlines.Proofs.Json.Numbers
import Gridlines.Proofs.SortedMap

/-!
# What a value that was read looks like

The reader gives more than any value: its integers have the size that the reader knows, its objects
have their members in order, and it is nested no deeper than the levels that were allowed.

* `Json.Settled` : a value of that form.
* `readValueWith_cases` : what the first symbol of a value says about it.
* `settled_of_readValue` : values that are read are settled.
-/

namespace Gridlines

namespace Json

/-- A value with at most so many levels of arrays and objects, as the reader gives it. -/
inductive Settled : Nat → Json → Prop where
  | null {n : Nat} : Settled n null
  | bool {n : Nat} (b : Bool) : Settled n (bool b)
  | number {n : Nat} {m : Number} (h : m.InRange) : Settled n (number m)
  | string {n : Nat} (s : String) : Settled n (string s)
  | array {n : Nat} {xs : List Json} (h : ∀ x ∈ xs, Settled n x) : Settled (n + 1) (array xs)
  | object {n : Nat} {ms : List (String × Json)} (hs : SortedEntries ms)
      (h : ∀ e ∈ ms, Settled n e.2) : Settled (n + 1) (object ms)

theorem Settled.mono {n m : Nat} {x : Json} (h : x.Settled n) (hnm : n ≤ m) : x.Settled m := by
  induction h generalizing m with
  | null => exact .null
  | bool b => exact .bool b
  | number h => exact .number h
  | string s => exact .string s
  | array _ ih =>
    obtain ⟨k, rfl⟩ := Nat.exists_eq_add_of_le' (Nat.le_of_add_left_le hnm)
    exact .array fun x hx => ih x hx (by omega)
  | object hs _ ih =>
    obtain ⟨k, rfl⟩ := Nat.exists_eq_add_of_le' (Nat.le_of_add_left_le hnm)
    exact .object hs fun e he => ih e he (by omega)

/-! ### Numbers -/

theorem NumberText.inRange_of_value {t : NumberText} {n : Number} (h : t.value = .ok n) :
    n.InRange := by
  have hfloat : ∀ {f : Finite → Finite}, t.magnitude.map (fun x => Number.float (f x)) = .ok n →
      n.InRange := by
    intro f hf
    obtain ⟨x, -, rfl⟩ := map_eq_ok hf
    trivial
  unfold value at h
  dsimp only at h
  split at h
  · exact hfloat h
  split at h
  · split at h
    · next hn =>
      cases h
      have hle : digitsNat t.whole ≤ 1 <<< 63 := hn.2
      rw [Number.InRange]
      omega
    · exact hfloat h
  · split at h
    · next hn =>
      cases h
      have hlt : digitsNat t.whole < 1 <<< 64 := hn
      rw [Number.InRange]
      omega
    · exact hfloat h

theorem inRange_of_readNumber {negative : Bool} {s r : Content} {n : Number}
    (h : readNumber negative s = .ok (n, r)) : n.InRange := by
  unfold readNumber at h
  split at h
  · obtain ⟨m, hm, h⟩ := map_eq_ok h
    cases h
    exact NumberText.inRange_of_value hm
  · cases h
  · cases h

/-! ### Items and members -/

section

variable {α : Type} {P : α → Prop} {item : Content → Except Fault (α × Content)}

theorem readItems_go_forall (hitem : ∀ s x r, item s = .ok (x, r) → P x) (turns : Nat)
    {acc : List α} (hacc : ∀ x ∈ acc, P x) {s r : Content} {xs : List α}
    (h : readItems.go item turns acc s = .ok (xs, r)) : ∀ x ∈ xs, P x := by
  induction turns generalizing acc s with
  | zero => cases h
  | succ n ih =>
    rw [readItems.go] at h
    split at h
    · cases h
    · obtain ⟨s', -, h⟩ := map_eq_ok h
      cases h
      simpa using hacc
    · split at h
      · cases h
      · next heq =>
        refine ih ?_ h
        rw [List.forall_mem_cons]
        exact ⟨hitem _ _ _ heq, hacc⟩

theorem readItems_forall (hitem : ∀ s x r, item s = .ok (x, r) → P x) {turns : Nat}
    {s r : Content} {xs : List α} (h : readItems item turns s = .ok (xs, r)) : ∀ x ∈ xs, P x :=
  readItems_go_forall hitem turns (List.forall_mem_nil P) h

theorem readMembers_go_forall (hitem : ∀ s x r, item s = .ok (x, r) → P x) (turns : Nat)
    {acc : List (String × α)} (hacc : ∀ e ∈ acc, P e.2) {s r : Content} {ms : List (String × α)}
    (h : readMembers.go item turns acc s = .ok (ms, r)) : ∀ e ∈ ms, P e.2 := by
  induction turns generalizing acc s with
  | zero => cases h
  | succ n ih =>
    rw [readMembers.go] at h
    split at h
    · cases h
    · cases h
      simpa using hacc
    · obtain ⟨⟨k, s₁⟩, -, h⟩ := bind_eq_ok h
      obtain ⟨s₂, -, h⟩ := bind_eq_ok h
      obtain ⟨⟨x, s₃⟩, hx, h⟩ := bind_eq_ok h
      refine ih ?_ h
      rw [List.forall_mem_cons]
      exact ⟨hitem _ _ _ hx, hacc⟩

theorem readMembers_forall (hitem : ∀ s x r, item s = .ok (x, r) → P x) {turns : Nat}
    {s r : Content} {ms : List (String × α)} (h : readMembers item turns s = .ok (ms, r)) :
    ∀ e ∈ ms, P e.2 :=
  readMembers_go_forall hitem turns (List.forall_mem_nil _) h

end

/-! ### Values -/

/-- What the first symbol of a value says about it. -/
theorem readValueWith_cases {items : Content → Except Fault (List Json × Content)}
    {members : Content → Except Fault (List (String × Json) × Content)} {s r : Content} {x : Json}
    (h : readValueWith items members s = .ok (x, r)) :
    ∃ c t, skipGaps s = .char c :: t ∧
      ((c = 'n' ∧ x = .null) ∨ (∃ b, x = .bool b) ∨ (∃ k, x = .string k) ∨
        (∃ n, x = .number n ∧
          ((c = '-' ∧ readNumber true t = .ok (n, r)) ∨
            (c.isDigit ∧ readNumber false (.char c :: t) = .ok (n, r)))) ∨
        (∃ xs, x = .array xs ∧ items t = .ok (xs, r)) ∨
        ∃ ms, x = .object (SortedMap.ofList ms).entries ∧ members t = .ok (ms, r)) := by
  unfold readValueWith at h
  split at h
  · cases h
  · cases h
  · next c t heq =>
    refine ⟨c, t, heq, ?_⟩
    split at h
    · obtain ⟨t', -, h⟩ := map_eq_ok h
      cases h
      exact .inl ⟨‹_›, rfl⟩
    split at h
    · obtain ⟨t', -, h⟩ := map_eq_ok h
      cases h
      exact .inr (.inl ⟨true, rfl⟩)
    split at h
    · obtain ⟨t', -, h⟩ := map_eq_ok h
      cases h
      exact .inr (.inl ⟨false, rfl⟩)
    split at h
    · obtain ⟨⟨k, t'⟩, -, h⟩ := map_eq_ok h
      cases h
      exact .inr (.inr (.inl ⟨k, rfl⟩))
    split at h
    · obtain ⟨⟨n, t'⟩, hn, h⟩ := map_eq_ok h
      cases h
      exact .inr (.inr (.inr (.inl ⟨n, rfl, .inl ⟨‹_›, hn⟩⟩)))
    split at h
    · obtain ⟨⟨n, t'⟩, hn, h⟩ := map_eq_ok h
      cases h
      exact .inr (.inr (.inr (.inl ⟨n, rfl, .inr ⟨‹_›, hn⟩⟩)))
    split at h
    · obtain ⟨⟨xs, t'⟩, hxs, h⟩ := map_eq_ok h
      cases h
      exact .inr (.inr (.inr (.inr (.inl ⟨xs, rfl, hxs⟩))))
    split at h
    · obtain ⟨⟨ms, t'⟩, hms, h⟩ := map_eq_ok h
      cases h
      exact .inr (.inr (.inr (.inr (.inr ⟨ms, rfl, hms⟩))))
    · cases h

theorem settled_of_readValueWith {n : Nat}
    {items : Content → Except Fault (List Json × Content)}
    {members : Content → Except Fault (List (String × Json) × Content)}
    (hitems : ∀ s xs r, items s = .ok (xs, r) → Settled n (.array xs))
    (hmembers : ∀ s ms r, members s = .ok (ms, r) →
      Settled n (.object (SortedMap.ofList ms).entries))
    {s r : Content} {x : Json} (h : readValueWith items members s = .ok (x, r)) :
    x.Settled n := by
  obtain ⟨c, t, -, hx⟩ := readValueWith_cases h
  obtain ⟨-, rfl⟩ | ⟨b, rfl⟩ | ⟨k, rfl⟩ | ⟨m, rfl, hm⟩ | ⟨xs, rfl, hxs⟩ | ⟨ms, rfl, hms⟩ := hx
  · exact .null
  · exact .bool b
  · exact .string k
  · obtain ⟨-, hm⟩ | ⟨-, hm⟩ := hm
    · exact .number (inRange_of_readNumber hm)
    · exact .number (inRange_of_readNumber hm)
  · exact hitems t xs r hxs
  · exact hmembers t ms r hms

theorem settled_ofList {n : Nat} {ms : List (String × Json)} (h : ∀ e ∈ ms, e.2.Settled n) :
    Settled (n + 1) (.object (SortedMap.ofList ms).entries) :=
  .object (SortedMap.ofList ms).sorted fun e he => h e (SortedMap.mem_of_mem_ofList he)

/-- A value that is read with so many levels is settled with as many. -/
theorem settled_of_readValue {turns n : Nat} {s r : Content} {x : Json}
    (h : readValue turns n s = .ok (x, r)) : x.Settled n := by
  induction n generalizing s x r with
  | zero =>
    -- at the last level nothing opens
    refine settled_of_readValueWith ?_ ?_ h
    · rintro s xs r ⟨⟩
    · rintro s ms r ⟨⟩
  | succ n ih =>
    have hitem : ∀ s x r, readValue turns n s = .ok (x, r) → x.Settled n := fun s x r hx => ih hx
    refine settled_of_readValueWith ?_ ?_ h
    · intro s xs r hxs
      exact .array (readItems_forall hitem hxs)
    · intro s ms r hms
      exact settled_ofList (readMembers_forall hitem hms)

/-- Only `null` starts with an `n`. -/
theorem ne_null_of_readValue {turns n : Nat} {s r : Content} {x : Json}
    (hs : ∀ t, skipGaps s ≠ .char 'n' :: t) (h : readValue turns n s = .ok (x, r)) :
    x ≠ .null := by
  have hcases : ∃ items members, readValueWith items members s = .ok (x, r) := by
    cases n with
    | zero => exact ⟨_, _, h⟩
    | succ n => exact ⟨_, _, h⟩
  -- the readers of items and members do not matter here
  obtain ⟨items, members, h⟩ := hcases
  obtain ⟨c, t, hc, hx⟩ := readValueWith_cases h
  rintro rfl
  obtain ⟨rfl, -⟩ | ⟨b, h⟩ | ⟨k, h⟩ | ⟨m, h, -⟩ | ⟨xs, h, -⟩ | ⟨ms, h, -⟩ := hx
  · exact hs t hc
  · cases h
  · cases h
  · cases h
  · cases h
  · cases h

end Json

end Gridlines
