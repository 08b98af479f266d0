import Gridlines.Proofs.Dataset.Alike
import Gridlines.Proofs.Json.ExchangeRecords
import Gridlines.Proofs.Json.RoundedOnce

/-!
# Lengths in quotes

A length may be written as a number or as a text.  A text is rounded once, to the number nearest to
its decimal.  A number that is no integer is rounded once for its digits, once for the power of ten
and once for their product or quotient, so it need not be the same.  Nothing else of the document
depends on which of the two it is.

* `Dataset.exists_number` : a number can be exchanged in the text of a document.
* `Dataset.Requoted` : what datasets have in common that differ in the quotes of one length.
* `Dataset.takesQuotes_of_run` : every length that is written as a number can be put in quotes.
-/

namespace Gridlines

open Json

namespace Feature

/-- Notes the attributes. -/
def noteProperties (x : Option (SortedMap Json)) (d : Draft) : Draft :=
  { d with properties := some (x.getD ∅) }

theorem steady_members : ∀ m ∈ shape.members, m.decoder.Steady := by
  simp only [shape, List.forall_mem_cons]
  exact ⟨Decoder.steady_note (Decoder.steady_optional Decoder.steady_value) _,
    Decoder.steady_note Decoder.steady_value _,
    Decoder.steady_note (Decoder.steady_optional Decoder.closed_map.steady) _,
    List.forall_mem_nil _⟩

/-- The attributes of a feature are noted by one member alone. -/
theorem notes_properties :
    shape.Notes ⟨"properties", true, fun d => d.properties.isSome,
        (Decoder.optional .map).note noteProperties⟩
      (Decoder.optional .map) noteProperties fun x f => { f with properties := x.getD ∅ } where
  decoder := rfl
  isSet_start := rfl
  isSet_note _ _ := rfl
  finish_note := by
    intro b b' state a h
    cases h
    rfl
  split := by
    refine ⟨[_, _], [], rfl, ?_⟩
    simp only [List.append_nil, List.forall_mem_cons]
    refine ⟨⟨fun _ _ => rfl, ?_⟩, ⟨fun _ _ => rfl, ?_⟩, List.forall_mem_nil _⟩
    all_goals
      intro levels turns s note r h
      obtain ⟨y, -, hpair⟩ := map_eq_ok h
      cases hpair
      exact fun _ => ⟨rfl, fun _ => rfl⟩
  steady := steady_members

end Feature

namespace Dataset

/-- Notes the features. -/
def noteFeatures (x : List Feature) (d : Draft) : Draft := { d with features := some x }

theorem steady_members : ∀ m ∈ documentShape.members, m.decoder.Steady := by
  simp only [documentShape, List.forall_mem_cons]
  exact ⟨Decoder.steady_note (Decoder.steady_optional Decoder.closed_text.steady) _,
    Decoder.steady_note
      (Decoder.closed_list (Shape.closed_decoder Feature.steady_members).steady).steady _,
    List.forall_mem_nil _⟩

/-- The features of a document are noted by one member alone. -/
theorem notes_features :
    documentShape.Notes ⟨"features", true, fun d => d.features.isSome,
        Feature.shape.decoder.list.note noteFeatures⟩
      Feature.shape.decoder.list noteFeatures fun x doc => { doc with features := x } where
  decoder := rfl
  isSet_start := rfl
  isSet_note _ _ := rfl
  finish_note := by
    intro b b' state a h
    cases h
    rfl
  split := by
    refine ⟨[_], [], rfl, ?_⟩
    simp only [List.append_nil, List.forall_mem_cons]
    refine ⟨⟨fun _ _ => rfl, ?_⟩, List.forall_mem_nil _⟩
    intro levels turns s note r h
    obtain ⟨y, -, hpair⟩ := map_eq_ok h
    cases hpair
    exact fun _ => ⟨rfl, fun _ => rfl⟩
  steady := steady_members

/-- The document with another value for an attribute that feature `k` has. -/
def Document.setAttribute (doc : Document) (k : ℕ) (name : String) (x : Json) : Document :=
  { doc with
    features := doc.features.modify k fun f =>
      { f with properties := f.properties.adjust name fun _ => x } }

/-- **A number can be exchanged in the text of the document.** -/
theorem exists_number {s : Content} {doc : Document} {k : ℕ} {f : Feature} {name : String}
    {v : Number} (h : documentShape.decoder.run s = .ok doc) (hf : doc.features[k]? = some f)
    (hv : f.properties.get? name = some (.number v)) :
    ∃ before cs after t, s = before ++ (cs.map .char ++ after) ∧ t.value = .ok v ∧
      IsLiteral cs t ∧ ∀ new x, Stands new x → cs.length ≤ new.length →
        documentShape.decoder.run (before ++ (new ++ after)) =
          .ok (doc.setAttribute k name x) := by
  obtain ⟨r, hdoc, hend⟩ := Decoder.exists_of_run h
  rcases notes_features.part_decoder hdoc with ⟨state, hset, hfinish⟩ |
    ⟨fs, s₁, r₁, hfs, hfeatures, hpart₁⟩
  · -- a document without features has no feature `k`
    have hnone : state.features = none := by simpa using hset
    cases hfinish
    simp [hnone] at hf
  obtain rfl : fs = doc.features := congrArg Document.features hfeatures
  obtain ⟨s₂, r₂, hfeature, hpart₂⟩ := Decoder.part_list
    (Shape.closed_decoder Feature.steady_members).steady hfs hf
  rcases Feature.notes_properties.part_decoder hfeature with ⟨state, hset, hfinish⟩ |
    ⟨x, s₃, r₃, hx, hproperties, hpart₃⟩
  · have hnone : state.properties = none := by simpa using hset
    cases hfinish
    rw [hnone] at hv
    cases hv
  have hget : x.getD ∅ = f.properties := congrArg Feature.properties hproperties
  obtain rfl : x = some f.properties := by
    cases x with
    | none =>
      rw [← hget] at hv
      cases hv
    | some m => exact congrArg some hget
  obtain ⟨s₄, hmap, hpart₄⟩ := Decoder.part_optional hx
  obtain ⟨cs, t, hvalue, hcs, hexchange⟩ := Decoder.exchanges_map hmap hv
  have hwhole := (((hexchange.part hpart₄).part hpart₃).part hpart₂).part hpart₁
  obtain ⟨before, after, hs, hread⟩ := Decoder.run_of_exchanges hwhole hend
  refine ⟨before, cs, after, t, hs, hvalue, hcs, fun new x hnew hlength => ?_⟩
  rw [hread new x hnew (by simpa using hlength), Document.setAttribute,
    List.modify_eq_set_getElem?, hf]
  rfl

end Dataset

/-! ### Lengths in quotes -/

/-- A length as it is held: a number, or nothing. -/
def heldLength : Option Finite → Json
  | some x => .number (.float x)
  | none => .null

/-- In quotes a length is the number nearest to its decimal. -/
theorem coerceLength_quoted {left cs right : List Char} {t : NumberText} (h : IsLiteral cs t)
    (hleft : ∀ c ∈ left, isBlank c) (hright : ∀ c ∈ right, isBlank c) :
    coerceLength (.string (.ofList (left ++ cs ++ right))) =
      heldLength (t.decimal.toBinary64 t.negative).finite? := by
  rw [coerceLength, String.toList_ofList, h.readDecimal? hleft hright]
  cases t.decimal.toBinary64 t.negative <;> rfl

namespace Feature

/-- The feature with another length. -/
def withLength (f : Feature) (x : Option Finite) : Feature :=
  { f with properties := f.properties.adjust Field.length fun _ => heldLength x }

variable {f : Feature} {x : Option Finite}

theorem get?_withLength_of_ne {name : String} (h : name ≠ Field.length) :
    (f.withLength x).get? name = f.get? name := by
  rw [get?, withLength, SortedMap.get?_adjust, if_neg h, get?]

theorem get?_withLength {v : Json} (h : f.properties.get? Field.length = some v) :
    (f.withLength x).get? Field.length = x.map fun y => .number (.float y) := by
  rw [get?, withLength, SortedMap.get?_adjust, if_pos rfl, h]
  cases x <;> rfl

theorem number?_withLength {v : Json} (h : f.properties.get? Field.length = some v) :
    (f.withLength x).number? Field.length = x.map .finite := by
  rw [number?, get?_withLength h]
  cases x <;> rfl

theorem get?_of_number {name : String} {n : Number}
    (h : f.properties.get? name = some (.number n)) : f.get? name = some (.number n) :=
  get?_eq_some_iff.2 ⟨h, Json.noConfusion⟩

theorem get?_coerceLength {n : Number} (h : f.properties.get? Field.length = some (.number n)) :
    f.coerceLength.properties.get? Field.length = some (.number n) := by
  rw [coerceLength, SortedMap.get?_adjust, if_pos rfl, h]
  rfl

/-- Coercing a length that has been exchanged holds the other one. -/
theorem coerceLength_adjust (f : Feature) {v : Json} (hv : Gridlines.coerceLength v = heldLength x) :
    coerceLength { f with properties := f.properties.adjust Field.length fun _ => v } =
      f.coerceLength.withLength x := by
  have hproperties : ((f.properties.adjust Field.length fun _ => v).adjust Field.length
      Gridlines.coerceLength) = (f.properties.adjust Field.length Gridlines.coerceLength).adjust
        Field.length fun _ => heldLength x := by
    refine SortedMap.ext_get? fun name => ?_
    simp only [SortedMap.get?_adjust]
    split_ifs
    · cases f.properties.get? name with
      | none => rfl
      | some w => exact congrArg some hv
    · rfl
  exact congrArg (fun m => { f with properties := m }) hproperties

/-- A length with the same binary64 value is looked up alike. -/
theorem alike_withLength {n : Number} {y : Finite}
    (h : f.properties.get? Field.length = some (.number n)) (hy : n.toBinary64 = .finite y) :
    f.Alike (f.withLength (some y)) := by
  refine alike_of_get? fun name => ?_
  by_cases hname : name = Field.length
  · subst hname
    exact .inr ⟨n, .float y, get?_of_number h, get?_withLength h, hy⟩
  · exact .inl (get?_withLength_of_ne hname).symm

end Feature

namespace Dataset

/-- What the datasets have in common of which one has the literal of a length in quotes and the
other has it without: `n` is the number that is read without quotes. -/
structure Requoted (d e : Dataset) (k : ℕ) (n : Number) (t : NumberText) : Prop where
  /-- Nothing but that length is different; in quotes it is the number nearest to the decimal. -/
  features : e.features =
    d.features.modify k (·.withLength (t.decimal.toBinary64 t.negative).finite?)
  plain : (d.features[k]?.bind (·.number? Field.length)) = some n.toBinary64
  quoted : (e.features[k]?.bind (·.number? Field.length)) =
    (t.decimal.toBinary64 t.negative).finite?.map .finite
  /-- Without quotes it is the same number if reading it rounds only once. -/
  once : t.RoundsOnce → n.toBinary64 = t.decimal.toBinary64 t.negative
  /-- Where it is the same number all answers are the same. -/
  answers : n.toBinary64 = t.decimal.toBinary64 t.negative → ∀ intent,
    (e.execute intent).text = (d.execute intent).text ∧
      (e.execute intent).stats = (d.execute intent).stats

theorem alike_of_features {d e : Dataset} {k : ℕ} {f : Feature} {n : Number} {y : Finite}
    (hf : d.features[k]? = some f) (hn : f.properties.get? Field.length = some (.number n))
    (hy : n.toBinary64 = .finite y) (h : e.features = d.features.modify k (·.withLength (some y))) :
    Alike d e where
  columns := by
    intro name
    let R := fun f g : Feature => f.properties.keys = g.properties.keys
    have hkeys : List.Forall₂ R d.features (d.features.modify k (·.withLength (some y))) :=
      forall₂_modify (R := R) (fun _ => rfl) fun f _ => (f.properties.keys_adjust _ _).symm
    rw [hasColumn, hasColumn, columns, columns, h, namesMet_eq_of_forall₂ hkeys]
  features := by
    rw [h]
    refine forall₂_modify Feature.Alike.refl fun g hg => ?_
    rw [hf] at hg
    cases hg
    exact Feature.alike_withLength hn hy

theorem requoted_of_literal {loadedAt : String} {features : List Feature} {k : ℕ} {f : Feature}
    {n : Number} {t : NumberText} {v : Json} (hf : features[k]? = some f)
    (hn : f.properties.get? Field.length = some (.number n)) (ht : t.value = .ok n)
    (hv : coerceLength v = heldLength (t.decimal.toBinary64 t.negative).finite?) :
    Requoted (ofFeatures loadedAt features) (ofFeatures loadedAt (features.modify k fun f =>
      { f with properties := f.properties.adjust Field.length fun _ => v })) k n t := by
  have hd : (ofFeatures loadedAt features).features[k]? = some f.coerceLength := by
    simp [ofFeatures, hf]
  have hheld := Feature.get?_coerceLength hn
  have hfeatures : (ofFeatures loadedAt (features.modify k fun f =>
      { f with properties := f.properties.adjust Field.length fun _ => v })).features =
        (ofFeatures loadedAt features).features.modify k
          (·.withLength (t.decimal.toBinary64 t.negative).finite?) := by
    refine List.ext_getElem? fun i => ?_
    simp only [ofFeatures, List.getElem?_map, List.getElem?_modify]
    cases features[i]? with
    | none => rfl
    | some g =>
      by_cases hi : k = i
      · simp [hi, Feature.coerceLength_adjust g hv]
      · simp [hi]
  refine ⟨hfeatures, ?_, ?_, fun honce => ?_, fun heq => ?_⟩
  · rw [hd, Option.bind_some, Feature.number?, Feature.get?_of_number hheld]
    rfl
  · rw [hfeatures, List.getElem?_modify_eq, hd]
    exact Feature.number?_withLength hheld
  · obtain ⟨m, hm, hnearest⟩ := NumberText.exists_value_of_roundsOnce honce
    rw [ht] at hm
    cases hm
    exact hnearest
  · obtain ⟨y, hy⟩ := NumberText.exists_finite_of_value ht
    rw [← heq, hy] at hfeatures
    have halike := alike_of_features hd hheld hy hfeatures
    exact fun intent => ⟨(halike.execute_eq intent).1.symm, (halike.execute_eq intent).2.symm⟩

/-- The literal of the length `n` of feature `k` can be put in quotes, with blanks around it.  The
text is a dataset with and without the quotes.  Where the literal stands, any value that is not
shorter is read as the length of feature `k`. -/
def TakesQuotes (loadedAt : String) (s : Content) (doc : Document) (k : ℕ) (n : Number) : Prop :=
  ∃ before cs after t, s = before ++ (cs.map .char ++ after) ∧ IsLiteral cs t ∧ t.value = .ok n ∧
    (∀ new x, Stands new x → cs.length ≤ new.length →
      documentShape.decoder.run (before ++ (new ++ after)) =
        .ok (doc.setAttribute k Field.length x)) ∧
    ∀ left right, (∀ c ∈ left, isBlank c) → (∀ c ∈ right, isBlank c) →
      ∃ d e, read loadedAt s = .ok d ∧
        read loadedAt (before ++
          ((Json.string (.ofList (left ++ cs ++ right))).symbols ++ after)) = .ok e ∧
        Requoted d e k n t

variable {s : Content} {doc : Document} {k : ℕ} {f : Feature} {n : Number}

/-- **A length in quotes is the number nearest to its decimal; without quotes it is the same number
if reading it rounds only once.** -/
theorem takesQuotes_of_run (loadedAt : String) (h : documentShape.decoder.run s = .ok doc)
    (htype : doc.type = some "FeatureCollection") (hf : doc.features[k]? = some f)
    (hn : f.properties.get? Field.length = some (.number n)) : TakesQuotes loadedAt s doc k n := by
  obtain ⟨before, cs, after, t, hs, ht, hcs, hexchange⟩ := exists_number h hf hn
  refine ⟨before, cs, after, t, hs, hcs, ht, hexchange, fun left right hleft hright => ?_⟩
  refine ⟨ofFeatures loadedAt doc.features, _, ?_, ?_,
    requoted_of_literal hf hn ht (coerceLength_quoted hcs hleft hright)⟩
  · rw [read, h]
    dsimp only
    rw [ofDocument, htype]
    exact if_pos rfl
  · have hlength := length_le_symbols_string (left ++ cs ++ right)
    simp only [List.length_append] at hlength
    rw [read, hexchange _ _ (stands_string _) (by omega)]
    change ofDocument loadedAt (doc.setAttribute k Field.length _) = _
    rw [ofDocument, Document.setAttribute, htype]
    exact if_pos rfl

/-- A document with one feature that has a length. -/
def oneLength (length : String) : Content :=
  Symbol.ofString ("\x7b\"type\":\"FeatureCollection\",\"features\":[\x7b\"properties\":" ++
    "\x7b\"SHAPE__Len\":" ++ length ++ "\x7d\x7d]\x7d")

/-- A length with sixteen digits, which is not read as the number nearest to it. -/
theorem takesQuotes_of_run_fraction :
    ∃ doc f n, documentShape.decoder.run (oneLength "95142.42627359937") = .ok doc ∧
      doc.type = some "FeatureCollection" ∧ doc.features[0]? = some f ∧
      f.properties.get? Field.length = some (.number n) ∧
      n.toBinary64 = Decimal.toBinary64 false ⟨9514242627359935, -11⟩ ∧
      TakesQuotes "" (oneLength "95142.42627359937") doc 0 n := by
  obtain ⟨doc, hdoc, htype, hlength⟩ :
      ∃ doc, documentShape.decoder.run (oneLength "95142.42627359937") = .ok doc ∧
        doc.type = some "FeatureCollection" ∧
        (doc.features[0]?.bind fun f =>
          (f.properties.get? Field.length).bind Json.number?).map Number.toBinary64 =
            some (Decimal.toBinary64 false ⟨9514242627359935, -11⟩) :=
    exists_eq_ok (by decide +kernel)
  obtain ⟨n, hnumber, hn⟩ := Option.map_eq_some_iff.1 hlength
  obtain ⟨f, hf, hvalue⟩ := Option.bind_eq_some_iff.1 hnumber
  obtain ⟨v, hv, hnumber⟩ := Option.bind_eq_some_iff.1 hvalue
  obtain rfl : v = .number n := by
    cases v with
    | number m => exact congrArg Json.number (Option.some.inj hnumber)
    | _ => cases hnumber
  exact ⟨doc, f, n, hdoc, htype, hf, hv, hn, takesQuotes_of_run "" hdoc htype hf hv⟩

/-- That length is rounded more than once without quotes: the number nearest to another decimal is
read, and it is the total. -/
theorem length_ne_quoted :
    let plain := Decimal.toBinary64 false ⟨9514242627359935, -11⟩
    let nearest := Decimal.toBinary64 false ⟨9514242627359937, -11⟩
    plain ≠ nearest ∧
      (∃ d, read "" (oneLength "95142.42627359937") = .ok d ∧
        (d.features[0]?.bind (·.number? Field.length)) = some plain ∧
        (d.execute (.filter [] "lines")).stats.totalLength = some plain) ∧
      ∃ e, read "" (oneLength "\"95142.42627359937\"") = .ok e ∧
        (e.features[0]?.bind (·.number? Field.length)) = some nearest ∧
        (e.execute (.filter [] "lines")).stats.totalLength = some nearest := by
  exact ⟨by decide +kernel, exists_eq_ok (by decide +kernel), exists_eq_ok (by decide +kernel)⟩

end Dataset

end Gridlines
