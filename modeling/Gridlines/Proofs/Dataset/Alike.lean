import Gridlines.Answer.Execute
import Gridlines.Proofs.Answer.Groups
import Mathlib.Data.List.Forall2

/-!
# What answers look up

The text of an answer and its counts depend on the numbers of the features, on the names of their
groups, on the conditions that they meet, and on the columns of the dataset.  So two numbers with
the same binary64 value are answered alike, whether they are integers or not.

* `Feature.Alike` : nothing that answers look up tells the features apart.
* `Dataset.Alike.execute_eq` : datasets of such features, with the same columns, are answered with
  the same texts and counts.
-/

namespace Gridlines

namespace Feature

/-- Nothing that answers look up tells the features apart. -/
structure Alike (f g : Feature) : Prop where
  number : ∀ name, f.number? name = g.number? name
  group : ∀ name, f.group? name = g.group? name
  meets : ∀ c, f.meets c = g.meets c

variable {f g : Feature}

theorem Alike.refl (f : Feature) : f.Alike f := ⟨fun _ => rfl, fun _ => rfl, fun _ => rfl⟩

theorem Alike.meetsAll_eq (h : f.Alike g) (cs : List Condition) : f.meetsAll cs = g.meetsAll cs := by
  rw [meetsAll, meetsAll, funext h.meets]

/-- A test does not tell numbers with the same binary64 value apart. -/
theorem passes_number_congr {m n : Json.Number} (h : m.toBinary64 = n.toBinary64) (test : Test) :
    test.passes (.number m) = test.passes (.number n) := by
  cases test with
  | equals value =>
    cases value with
    | number l => exact congrArg (·.eq l.toBinary64) h
    | _ => rfl
  | contains needle => rfl
  | atLeast bound => exact congrArg bound.le h

theorem alike_of_get? (h : ∀ name, f.get? name = g.get? name ∨ ∃ m n,
      f.get? name = some (.number m) ∧ g.get? name = some (.number n) ∧
        m.toBinary64 = n.toBinary64) : f.Alike g where
  number := by
    intro name
    rcases h name with hget | ⟨m, n, hm, hn, heq⟩
    · rw [number?, number?, hget]
    · rw [number?, number?, hm, hn]
      exact congrArg some heq
  group := by
    intro name
    rcases h name with hget | ⟨m, n, hm, hn, heq⟩
    · rw [group?, group?, hget]
    · rw [group?, group?, hm, hn]
      exact congrArg (fun x => some (groupStyle.writeAny x)) heq
  meets := by
    intro c
    rcases h c.field with hget | ⟨m, n, hm, hn, heq⟩
    · rw [Feature.meets, Feature.meets, hget]
    · rw [Feature.meets, Feature.meets, hm, hn]
      exact passes_number_congr heq c.test

end Feature

theorem filterMap_eq_of_forall₂ {α : Type} {R : Feature → Feature → Prop}
    {get : Feature → Option α} (hget : ∀ f g, R f g → get f = get g) {fs gs : List Feature}
    (h : List.Forall₂ R fs gs) : fs.filterMap get = gs.filterMap get := by
  induction h with
  | nil => rfl
  | cons hfg _ ih => rw [List.filterMap_cons, List.filterMap_cons, hget _ _ hfg, ih]

theorem namesMet_eq_of_forall₂ {fs gs : List Feature}
    (h : List.Forall₂ (fun f g => f.properties.keys = g.properties.keys) fs gs) :
    namesMet fs = namesMet gs := by
  refine congrArg List.eraseDups ?_
  induction h with
  | nil => rfl
  | cons hfg _ ih => rw [List.flatMap_cons, List.flatMap_cons, hfg, ih]

/-- A change of one item relates it to what it was. -/
theorem forall₂_modify {α : Type} {R : α → α → Prop} {g : α → α} (hrefl : ∀ a, R a a)
    {as : List α} {k : ℕ} (h : ∀ a, as[k]? = some a → R a (g a)) :
    List.Forall₂ R as (as.modify k g) := by
  induction as generalizing k with
  | nil => cases k <;> exact .nil
  | cons a as ih =>
    cases k with
    | zero => exact .cons (h a rfl) (List.forall₂_same.2 fun b _ => hrefl b)
    | succ k => exact .cons (hrefl a) (ih h)

namespace Dataset

/-- The datasets have the same columns, and their features are looked up alike. -/
structure Alike (d e : Dataset) : Prop where
  columns : ∀ name, d.hasColumn name = e.hasColumn name
  features : List.Forall₂ Feature.Alike d.features e.features

namespace Alike

variable {d e : Dataset} (h : Alike d e)

include h

theorem size_eq : d.size = e.size := h.features.length_eq

theorem enforced_eq (cs : List Condition) : d.enforced cs = e.enforced cs :=
  enforced_congr fun c _ => h.columns c.field

theorem filter (cs : List Condition) :
    List.Forall₂ Feature.Alike (d.filter cs) (e.filter cs) := by
  rw [Dataset.filter, Dataset.filter, h.enforced_eq]
  refine List.rel_filter (fun f g hfg => ?_) h.features
  exact Bool.eq_iff_iff.1 (hfg.meetsAll_eq _)

theorem totalLength_eq (cs : List Condition) :
    totalLength (d.filter cs) = totalLength (e.filter cs) := by
  rw [totalLength, totalLength,
    filterMap_eq_of_forall₂ (fun _ _ hfg => hfg.number Field.length) (h.filter cs)]

theorem leadingGroup?_eq (field : String) :
    leadingGroup? d.features field = leadingGroup? e.features field :=
  leadingGroup?_congr (.of_eq (filterMap_eq_of_forall₂ (fun _ _ hfg => hfg.group field)
    h.features))

/-- Every intent is answered with the same text and the same counts. -/
theorem execute_eq (intent : Intent) :
    (d.execute intent).text = (e.execute intent).text ∧
      (d.execute intent).stats = (e.execute intent).stats := by
  cases intent with
  | aggregate groupBy metric description =>
    simp only [execute, executeAggregate, h.leadingGroup?_eq, h.size_eq, and_self]
  | filter cs description =>
    simp only [execute, executeFilter, h.columns, h.totalLength_eq, (h.filter cs).length_eq,
      h.size_eq, h.enforced_eq, and_self]
  | unrecognized query => exact ⟨rfl, rfl⟩

end Alike

end Dataset

end Gridlines
