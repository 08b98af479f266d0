import Gridlines.Answer.Response
import Gridlines.Proofs.Json.Records

/-!
# Written answers are read back

What the service writes is read back as it was.  The readers of features leave something open in
how a feature is written: it may be an array, a member may be missing, an id or attributes may be
`null`.  All of this is gone once the feature is read; what is left is a settled feature, and those
are read back, by the reader of collections and by the reader of datasets, which looks at the tag.

* `Feature.Settled`, `FeatureCollection.Settled` : what the readers give.
* `Feature.shape_reads`, `FeatureCollection.shape_reads`, `Dataset.documentShape_reads`,
  `Response.shape_reads` : what is settled is read back.
* `restored_of_run` : whatever was read is restored from its written form.
-/

namespace Gridlines

open Json (Decoder)

variable {n : Nat}

/-! ### Features -/

/-- A feature as its reader gives it, its values with at most `n` levels: an id that is there is
not `null`. -/
structure Feature.Settled (n : Nat) (f : Feature) : Prop where
  id : ∀ x, f.id = some x → x ≠ .null ∧ x.Settled n
  geometry : f.geometry.Settled n
  properties : (Json.object f.properties.entries).Settled n

/-- What has been read of a settled feature. -/
structure Feature.Draft.Settled (n : Nat) (d : Draft) : Prop where
  id : ∀ x, d.id = some (some x) → x ≠ .null ∧ x.Settled n
  geometry : ∀ x, d.geometry = some x → x.Settled n
  properties : ∀ m, d.properties = some m → (Json.object m.entries).Settled n

namespace Feature

theorem Settled.mono {m : Nat} {f : Feature} (h : f.Settled n) (hnm : n ≤ m) : f.Settled m where
  id := fun x hx => ⟨(h.id x hx).1, (h.id x hx).2.mono hnm⟩
  geometry := h.geometry.mono hnm
  properties := h.properties.mono hnm

theorem settled_empty : (Json.object (∅ : SortedMap Json).entries).Settled (n + 1) :=
  .object sortedEntries_nil (List.forall_mem_nil _)

theorem shape_keeps : shape.Keeps (n + 1) (Draft.Settled (n + 1)) := by
  intro m hm
  simp only [shape, List.mem_cons, List.not_mem_nil, or_false] at hm
  obtain rfl | rfl | rfl := hm
  all_goals dsimp only
  -- each member says something about its own part of the draft
  · refine Decoder.note_yields (Decoder.optional_value_yields (n + 1)) fun x hx d hd => ?_
    exact ⟨fun y hy => hx y (Option.some.inj hy), hd.geometry, hd.properties⟩
  · refine Decoder.note_yields (Decoder.value_yields (n + 1)) fun x hx d hd => ?_
    exact ⟨hd.id, fun y hy => Option.some.inj hy ▸ hx, hd.properties⟩
  · refine Decoder.note_yields (Decoder.optional_yields (Decoder.map_yields (n + 1))) ?_
    intro x hx d hd
    refine ⟨hd.id, hd.geometry, fun m hm => ?_⟩
    cases hm
    cases x with
    | none => exact settled_empty
    | some m => exact hx m rfl

/-- A feature that is read is settled. -/
theorem shape_yields : shape.decoder.Yields (n + 2) (Settled (n + 1)) := by
  refine Json.Shape.decoder_yields (I := Draft.Settled (n + 1)) ?_ shape_keeps ?_
  · exact ⟨by rintro x ⟨⟩, by rintro x ⟨⟩, by rintro m ⟨⟩⟩
  · rintro ⟨id, geometry, properties⟩ f hd hf
    cases hf
    refine ⟨fun x hx => ?_, ?_, ?_⟩
    · cases id with
      | none => cases hx
      | some y => exact hd.id x (congrArg some hx)
    · cases geometry with
      | none => exact .null
      | some x => exact hd.geometry x rfl
    · cases properties with
      | none => exact settled_empty
      | some m => exact hd.properties m rfl

/-- The geometry and the attributes of a settled feature end its reading. -/
theorem absorbs_rest {f : Feature} (h : f.Settled n) (hf : ∀ x ∈ f.toJson.floats, x.ReadsBack)
    (id : Option (Option Json)) :
    shape.Absorbs n ⟨id, none, none⟩
      [("geometry", f.geometry), ("properties", .object f.properties.entries)]
      ⟨id, some f.geometry, some f.properties⟩ := by
  have hgeometry : ∀ x ∈ f.geometry.floats, x.ReadsBack := fun x hx =>
    hf x (Json.mem_floats_object.2 ⟨("geometry", f.geometry), by simp, hx⟩)
  have hproperties : ∀ x ∈ (Json.object f.properties.entries).floats, x.ReadsBack := fun x hx =>
    hf x (Json.mem_floats_object.2 ⟨("properties", .object f.properties.entries), by simp, hx⟩)
  refine .note rfl rfl (Decoder.value_reads h.geometry hgeometry) ?_
  have hmap := Decoder.map_reads h.properties hproperties
  exact .note rfl rfl (Decoder.optional_reads hmap Json.noConfusion) .nil

/-- A settled feature is read back. -/
theorem shape_reads {f : Feature} (h : f.Settled n) (hf : ∀ x ∈ f.toJson.floats, x.ReadsBack) :
    shape.decoder.Reads (n + 1) f.toJson f := by
  have hrest := absorbs_rest h hf
  obtain ⟨id, geometry, properties⟩ := f
  cases id with
  | none => exact Json.Shape.decoder_reads _ (.skip rfl (hrest none)) rfl
  | some x =>
    obtain ⟨hx, hsettled⟩ := h.id x rfl
    have hid : ∀ y ∈ x.floats, y.ReadsBack := fun y hy =>
      hf y (Json.mem_floats_object.2 ⟨("id", x), by simp, hy⟩)
    have hvalue := Decoder.optional_reads (Decoder.value_reads hsettled hid) hx
    refine Json.Shape.decoder_reads ⟨some (some x), some geometry, some properties⟩ ?_ rfl
    refine .skip rfl (.note rfl rfl hvalue ?_)
    exact hrest (some (some x))

end Feature

/-! ### Collections -/

/-- A collection of settled features. -/
def FeatureCollection.Settled (n : Nat) (c : FeatureCollection) : Prop :=
  ∀ f ∈ c.features, f.Settled n

namespace FeatureCollection

theorem Settled.mono {m : Nat} {c : FeatureCollection} (h : c.Settled n) (hnm : n ≤ m) :
    c.Settled m :=
  fun f hf => (h f hf).mono hnm

/-- The features of a collection that is read are settled. -/
theorem shape_yields : shape.decoder.Yields (n + 4) (Settled (n + 1)) := by
  refine Json.Shape.decoder_yields
    (I := fun o => ∀ fs, o = some fs → ∀ f ∈ fs, f.Settled (n + 1)) ?_ ?_ ?_
  · rintro fs ⟨⟩
  · intro m hm
    simp only [shape, List.mem_cons, List.not_mem_nil, or_false] at hm
    obtain rfl := hm
    dsimp only
    refine Decoder.note_yields (Decoder.list_yields Feature.shape_yields) fun fs hfs o _ => ?_
    rintro gs ⟨⟩
    exact hfs
  · intro o c ho hc
    cases o with
    | none => cases hc
    | some fs =>
      cases hc
      exact ho fs rfl

theorem list_reads {c : FeatureCollection} (h : c.Settled n)
    (hc : ∀ x ∈ c.toJson.floats, x.ReadsBack) :
    Feature.shape.decoder.list.Reads (n + 2) (.array (c.features.map Feature.toJson))
      c.features := by
  refine Decoder.list_reads fun f hf => Feature.shape_reads (h f hf) fun x hx => hc x ?_
  refine Json.mem_floats_object.2 ⟨("features", .array (c.features.map Feature.toJson)), ?_, ?_⟩
  · simp
  · exact Json.mem_floats_array.2 ⟨f.toJson, List.mem_map_of_mem hf, hx⟩

/-- A settled collection is read back. -/
theorem shape_reads {c : FeatureCollection} (h : c.Settled n)
    (hc : ∀ x ∈ c.toJson.floats, x.ReadsBack) : shape.decoder.Reads (n + 3) c.toJson c := by
  refine Json.Shape.decoder_reads (some c.features) ?_ rfl
  refine .skip rfl (.note rfl rfl (list_reads h hc) ?_)
  exact .nil

end FeatureCollection

namespace Dataset

/-- A settled collection is read as a document with its tag. -/
theorem documentShape_reads {c : FeatureCollection} (h : c.Settled n)
    (hc : ∀ x ∈ c.toJson.floats, x.ReadsBack) :
    documentShape.decoder.Reads (n + 3) c.toJson ⟨some "FeatureCollection", c.features⟩ := by
  have htype := Decoder.optional_reads (Decoder.text_reads (n + 2) "FeatureCollection")
    Json.noConfusion
  refine Json.Shape.decoder_reads ⟨some (some "FeatureCollection"), some c.features⟩ ?_ rfl
  refine .note rfl rfl htype ?_
  refine .note rfl rfl (c.list_reads h hc) ?_
  exact .nil

end Dataset

/-! ### Responses -/

namespace Response

/-- The features of a response that is read are settled. -/
theorem shape_yields : shape.decoder.Yields (n + 5) fun r => r.features.Settled (n + 1) := by
  refine Json.Shape.decoder_yields
    (I := fun d : Draft => ∀ c, d.features = some c → c.Settled (n + 1)) ?_ ?_ ?_
  · rintro c ⟨⟩
  · intro m hm
    simp only [shape, List.mem_cons, List.not_mem_nil, or_false] at hm
    obtain rfl | rfl := hm
    all_goals dsimp only
    · exact Decoder.note_yields (Decoder.text_yields (n + 4)) fun _ _ d hd => hd
    · refine Decoder.note_yields FeatureCollection.shape_yields fun c hc d _ => ?_
      rintro c' ⟨⟩
      exact hc
  · rintro ⟨text, features⟩ r hd hr
    cases text with
    | none => cases hr
    | some text =>
      cases features with
      | none => cases hr
      | some c =>
        cases hr
        exact hd c rfl

theorem floats_features {r : Response} {x : Finite} (hx : x ∈ r.features.toJson.floats) :
    x ∈ r.toJson.floats :=
  Json.mem_floats_object.2 ⟨("geojson_data", r.features.toJson), by simp, hx⟩

/-- A response with settled features is read back. -/
theorem shape_reads {r : Response} (h : r.features.Settled n)
    (hr : ∀ x ∈ r.toJson.floats, x.ReadsBack) : shape.decoder.Reads (n + 4) r.toJson r := by
  have hc : ∀ x ∈ r.features.toJson.floats, x.ReadsBack := fun x hx => hr x (floats_features hx)
  refine Json.Shape.decoder_reads ⟨some r.text, some r.features⟩ ?_ rfl
  refine .note rfl rfl (Decoder.text_reads _ r.text) ?_
  refine .note rfl rfl (FeatureCollection.shape_reads h hc) ?_
  exact .nil

end Response

/-! ### Texts -/

/-- The collection is restored from its written form: it is read back, so that it is written once
more as it was, and as a document it gives the dataset of its features. -/
structure FeatureCollection.Restored (c : FeatureCollection) : Prop where
  read : shape.decoder.run (Symbol.ofString c.toJson.compact) = .ok c
  rewritten : ∀ c', shape.decoder.run (Symbol.ofString c.toJson.compact) = .ok c' →
    c'.toJson.compact = c.toJson.compact
  loaded : ∀ loadedAt, Dataset.read loadedAt (Symbol.ofString c.toJson.compact) =
    .ok (.ofFeatures loadedAt c.features)

/-- The response is restored from its written form. -/
structure Response.Restored (r : Response) : Prop where
  read : shape.decoder.run (Symbol.ofString r.toJson.compact) = .ok r
  rewritten : ∀ r', shape.decoder.run (Symbol.ofString r.toJson.compact) = .ok r' →
    r'.toJson.compact = r.toJson.compact
  features : r.features.Restored

theorem FeatureCollection.restored {c : FeatureCollection} (h : c.Settled 124)
    (hc : ∀ x ∈ c.toJson.floats, x.ReadsBack) : c.Restored where
  read := Decoder.run_reads (shape_reads h hc)
  rewritten := by
    intro c' hc'
    rw [Decoder.run_reads (shape_reads h hc)] at hc'
    cases hc'
    rfl
  loaded := by
    intro loadedAt
    rw [Dataset.read, Decoder.run_reads (Dataset.documentShape_reads h hc)]
    rfl

theorem Response.restored {r : Response} (h : r.features.Settled 123)
    (hr : ∀ x ∈ r.toJson.floats, x.ReadsBack) : r.Restored where
  read := Decoder.run_reads (shape_reads h hr)
  rewritten := by
    intro r' hr'
    rw [Decoder.run_reads (shape_reads h hr)] at hr'
    cases hr'
    rfl
  features := FeatureCollection.restored (h.mono (by decide)) fun x hx => hr x (floats_features hx)

/-- **Whatever was read is restored from its written form**, if the floats in it are read back from
their own texts: collections and responses of any content, however they were written. -/
theorem restored_of_run :
    (∀ (s : Content) (c : FeatureCollection), FeatureCollection.shape.decoder.run s = .ok c →
      (∀ x ∈ c.toJson.floats, x.ReadsBack) → c.Restored) ∧
    ∀ (s : Content) (r : Response), Response.shape.decoder.run s = .ok r →
      (∀ x ∈ r.toJson.floats, x.ReadsBack) → r.Restored := by
  refine ⟨fun s c hs hc => ?_, fun s r hs hr => ?_⟩
  · have hsettled := Decoder.run_yields (FeatureCollection.shape_yields (n := 123)) hs
    exact c.restored hsettled hc
  · have hsettled := Decoder.run_yields (Response.shape_yields (n := 122)) hs
    exact r.restored hsettled hr

/-- Features written as arrays, without tags, and with a float for a geometry. -/
theorem restored_of_run_arrays :
    (∃ c, FeatureCollection.shape.decoder.run
        (Symbol.ofString "[[[7,0.5,\x7b\"VOLTAGE\":138\x7d],[]]]") = .ok c ∧
      c.toJson.floats.length = 1 ∧ c.Restored) ∧
    ∃ r, Response.shape.decoder.run
        (Symbol.ofString "[\"one\",[[[null,0.5]]]]") = .ok r ∧
      r.toJson.floats.length = 1 ∧ r.Restored := by
  refine ⟨?_, ?_⟩
  · obtain ⟨c, hc, hlen, hfloats⟩ : ∃ c, FeatureCollection.shape.decoder.run
        (Symbol.ofString "[[[7,0.5,\x7b\"VOLTAGE\":138\x7d],[]]]") = .ok c ∧
        c.toJson.floats.length = 1 ∧ ∀ x ∈ c.toJson.floats, x.ReadsBack :=
      exists_eq_ok (by decide +kernel)
    exact ⟨c, hc, hlen, restored_of_run.1 _ c hc hfloats⟩
  · obtain ⟨r, hr, hlen, hfloats⟩ : ∃ r, Response.shape.decoder.run
        (Symbol.ofString "[\"one\",[[[null,0.5]]]]") = .ok r ∧
        r.toJson.floats.length = 1 ∧ ∀ x ∈ r.toJson.floats, x.ReadsBack :=
      exists_eq_ok (by decide +kernel)
    exact ⟨r, hr, hlen, restored_of_run.2 _ r hr hfloats⟩

end Gridlines
