import Gridlines.Proofs.Http.Posting
import Gridlines.Proofs.Json.Reread
import Gridlines.Proofs.Service.WriteOnce
import Gridlines.Proofs.SortedMap

/-!
# Outcomes of requests

A body that is posted as a question is looked at before the slot is.  So a body that holds no
question is refused whatever the slot holds, and only then a question finds a dataset or none.
The other two routes tell which of the two it is, and no request changes it.

* `Request.Rejected` : why a body holds no question.
* `plainReply_cases` : a reply carries an error only if a posted body or its slot is at fault.
* `Server.outcomes` : the three routes on every slot.
-/

namespace Gridlines

namespace Http

/-- The body of the request is not taken as a question. -/
inductive Request.Rejected (r : Request) : Prop
  /-- The request does not say that it holds JSON. -/
  | notJson (h : ∀ type, r.header? "content-type" = some type → isJsonType type = false)
  | tooLarge (h : bodyLimit < Symbol.totalSize r.body)
  /-- The body does not start with a question. -/
  | malformed (e : Json.ReadError) (h : Question.shape.decoder.runFirst r.body = .error e)

variable {slot : Slot} {r : Request}

/-! ### Posted bodies -/

theorem rejected_iff : r.Rejected ↔ ∃ e, readQuestion r = .error e := by
  have htype : (!((r.header? "content-type").map isJsonType).getD false) = true ↔
      ∀ type, r.header? "content-type" = some type → isJsonType type = false := by
    cases r.header? "content-type" <;> simp
  unfold readQuestion
  by_cases hjson : (!((r.header? "content-type").map isJsonType).getD false) = true
  · rw [if_pos hjson]
    exact ⟨fun _ => ⟨_, rfl⟩, fun _ => .notJson (htype.1 hjson)⟩
  rw [if_neg hjson]
  by_cases hsize : bodyLimit < Symbol.totalSize r.body
  · rw [if_pos hsize]
    exact ⟨fun _ => ⟨_, rfl⟩, fun _ => .tooLarge hsize⟩
  rw [if_neg hsize]
  cases hread : Question.shape.decoder.runFirst r.body with
  | error e => exact ⟨fun _ => ⟨_, rfl⟩, fun _ => .malformed e hread⟩
  | ok q =>
    refine ⟨fun h => ?_, fun ⟨_, h⟩ => by cases h⟩
    cases h with
    | notJson h => exact absurd (htype.2 h) hjson
    | tooLarge h => exact absurd h hsize
    | malformed e h => cases hread.symm.trans h

theorem Request.Calls.posts (hr : r.Calls "POST" .query) (h : ¬r.Rejected) :
    ∃ q, r.Posts q := by
  cases hq : readQuestion r with
  | ok q => exact ⟨q, hr.method, hr.path, hq⟩
  | error e => exact absurd (rejected_iff.2 ⟨e, hq⟩) h

theorem respond_body (server : Server) :
    (server.respond slot r).body = (plainReply slot r).body := rfl

theorem respond_status (server : Server) :
    (server.respond slot r).status = (plainReply slot r).status := rfl

theorem respond_rejected (server : Server) (hr : r.Calls "POST" .query) (h : r.Rejected) :
    (server.respond slot r).status = 400 := by
  obtain ⟨e, he⟩ := rejected_iff.1 h
  rw [respond_status, plainReply_of_calls hr (by decide) (by decide), Route.reply, queryReply, he]
  rfl

/-! ### Errors -/

theorem queryReply_cases (slot : Slot) (r : Request) :
    (queryReply slot r).status = 200 ∨ ∃ e, queryReply slot r = errorReply e := by
  rw [queryReply]
  cases readQuestion r with
  | error e => exact .inr ⟨.badRequest e.message, rfl⟩
  | ok q =>
    cases hanswer : slot.answer q.query with
    | error e =>
      refine .inr ⟨.unavailable e, ?_⟩
      simp only [hanswer]
    | ok response =>
      refine .inl ?_
      simp only [hanswer]
      rfl

/-- A reply has what was asked for, or is empty, or carries an error with its status. -/
theorem plainReply_cases (slot : Slot) (r : Request) :
    (plainReply slot r).status = 200 ∨
      ((plainReply slot r).status ∈ [404, 405] ∧ (plainReply slot r).body = "") ∨
      ∃ e, plainReply slot r = errorReply e := by
  unfold plainReply
  dsimp only
  by_cases hoptions : r.method = "OPTIONS"
  · rw [if_pos hoptions]
    exact .inl rfl
  rw [if_neg hoptions]
  cases Route.ofPath r.path with
  | none => exact .inr (.inl ⟨by simp, rfl⟩)
  | some route =>
    dsimp only
    by_cases hmethod : r.method ∈ route.methods
    · rw [if_pos hmethod]
      cases route with
      | health | info =>
        refine .inl ?_
        split <;> rfl
      | query =>
        have hpost : r.method = "POST" := List.mem_singleton.1 hmethod
        rw [if_neg (by rw [hpost]; decide)]
        exact (queryReply_cases slot r).imp_right .inr
    · rw [if_neg hmethod]
      exact .inr (.inl ⟨by simp, rfl⟩)

/-- An object of two members is read back in the order of their names. -/
theorem read_pair {k l : String} {x y : Json} (hx : x.Settled 126) (hy : y.Settled 126)
    (hfloats : x.floats = [] ∧ y.floats = []) (h : l < k) :
    Json.read (Symbol.ofString (Json.object [(k, x), (l, y)]).compact) =
      .ok (.object [(l, y), (k, x)]) := by
  have hsettled : ∀ m ∈ [(k, x), (l, y)], m.2.Settled 126 := by
    simp only [List.forall_mem_cons]
    exact ⟨hx, hy, List.forall_mem_nil _⟩
  have hread := Json.read_object hsettled (by simp [hfloats])
  rw [SortedMap.entries_ofList_pair _ _ h] at hread
  exact hread

/-- The body of an error names the status of its reply. -/
theorem read_errorReply (e : ServiceError) :
    Json.read (Symbol.ofString (errorReply e).body) =
      .ok (.object [("code", .count (errorReply e).status), ("error", .string e.message)]) := by
  have hrange : (Json.Number.int e.status).InRange := by
    cases e with
    | badRequest => exact (⟨by decide, by decide⟩ : (Json.Number.int 400).InRange)
    | unavailable => exact (⟨by decide, by decide⟩ : (Json.Number.int 503).InRange)
  exact read_pair (.string _) (.number hrange) ⟨rfl, rfl⟩ (by decide)

/-! ### Health and summary -/

theorem read_healthReply (slot : Slot) :
    Json.read (Symbol.ofString (healthReply slot).body) =
      .ok (.object [("data_loaded", .bool slot.isLoaded), ("status", .string "healthy")]) :=
  read_pair (.string _) (.bool _) ⟨rfl, rfl⟩ (by decide)

/-- What `/info` says if there is no dataset. -/
def noSummary : Json := .object [("error", .string "Data not loaded")]

theorem symbols_summary (s : Summary) :
    ∃ ms, s.toJson.symbols = .char '\x7b' :: .char '"' :: (Json.stringTail "total_features" ++
      .char ':' :: ((Json.count s.total).symbols ++ Json.membersTail false ms)) := by
  rw [Summary.toJson, Json.symbols_object]
  exact ⟨_, rfl⟩

/-- The number of features is known from the text of a summary. -/
theorem total_inj {s t : Summary} (h : s.toJson.compact = t.toJson.compact) :
    s.total = t.total := by
  obtain ⟨ms, hs⟩ := symbols_summary s
  obtain ⟨ns, ht⟩ := symbols_summary t
  have hsymbols := Json.symbols_eq_of_compact_eq h
  rw [hs, ht] at hsymbols
  simp only [List.cons.injEq, true_and, List.append_cancel_left_eq] at hsymbols
  have hms : Json.Delimited (Json.membersTail false ms) := by
    simpa using Json.delimited_membersTail ms []
  have hns : Json.Delimited (Json.membersTail false ns) := by
    simpa using Json.delimited_membersTail ns []
  exact Json.count_inj hms hns hsymbols

theorem noSummary_ne (s : Summary) : noSummary.compact ≠ s.toJson.compact := by
  intro h
  obtain ⟨ms, hs⟩ := symbols_summary s
  have hsymbols := Json.symbols_eq_of_compact_eq h
  -- the names differ in their first letter
  rw [hs] at hsymbols
  cases hsymbols

theorem infoReply_loaded (d : Dataset) :
    infoReply (.loaded d) = jsonReply 200 (d.summary infoSamples).toJson := rfl

theorem infoReply_empty : infoReply .empty = jsonReply 200 noSummary := rfl

theorem read_noSummary : Json.read (Symbol.ofString noSummary.compact) = .ok noSummary := by
  have hsettled : ∀ m ∈ [("error", Json.string "Data not loaded")], m.2.Settled 126 := by
    simp only [List.forall_mem_cons]
    exact ⟨.string _, List.forall_mem_nil _⟩
  have hread := Json.read_object hsettled (by simp [Json.floats])
  rw [SortedMap.entries_ofList (List.pairwise_singleton _ _)] at hread
  exact hread

/-! ### The routes on one slot -/

/-- The reply says that there is a dataset. -/
def Reply.SaysLoaded (reply : Reply) : Prop :=
  ∃ ms, Json.read (Symbol.ofString reply.body) = .ok (.object ms) ∧ ("data_loaded", .bool true) ∈ ms

/-- The reply is a summary. -/
def Reply.IsSummary (reply : Reply) (s : Summary) : Prop := reply.body = s.toJson.compact

/-- What the routes of a server say about a slot. -/
structure Server.Outcomes (server : Server) (slot : Slot) : Prop where
  /-- A posted body that is no question is refused, whatever the slot holds. -/
  rejected : ∀ r : Request, r.Calls "POST" .query → r.Rejected →
    (server.respond slot r).status = 400
  /-- Any other one finds no dataset exactly if the slot is empty, -/
  unavailable : ∀ r : Request, r.Calls "POST" .query → ¬r.Rejected →
    ((server.respond slot r).status = 503 ↔ slot = .empty)
  /-- and else it is answered from the slot. -/
  answered : ∀ r : Request, r.Calls "POST" .query → ¬r.Rejected → slot ≠ .empty →
    (server.respond slot r).status = 200 ∧ ∃ q response, readQuestion r = .ok q ∧
      slot.answer q.query = .ok response ∧
      (server.respond slot r).body = response.toJson.compact
  /-- A reply to any request is asked for, or is empty, or is an error that names its status. -/
  code : ∀ r : Request, (server.respond slot r).status = 200 ∨
    ((server.respond slot r).status ∈ [404, 405] ∧ (server.respond slot r).body = "") ∨
    ((server.respond slot r).status ∈ [400, 503] ∧ ∃ words,
      Json.read (Symbol.ofString (server.respond slot r).body) =
        .ok (.object [("code", .count (server.respond slot r).status), ("error", .string words)]))
  health : ∀ r : Request, r.Calls "GET" .health → (server.respond slot r).status = 200 ∧
    Json.read (Symbol.ofString (server.respond slot r).body) =
      .ok (.object [("data_loaded", .bool slot.isLoaded), ("status", .string "healthy")])
  /-- The dataset is there for all three routes or for none. -/
  ready : ∀ h i p : Request, h.Calls "GET" .health → i.Calls "GET" .info →
    p.Calls "POST" .query → ¬p.Rejected →
    ((server.respond slot h).SaysLoaded ↔ (server.respond slot p).status ≠ 503) ∧
      ((server.respond slot p).status ≠ 503 ↔ ∃ s, (server.respond slot i).IsSummary s)
  /-- A summary counts the features of the dataset. -/
  total : ∀ r : Request, r.Calls "GET" .info → ∀ s, (server.respond slot r).IsSummary s →
    ∃ d, slot = .loaded d ∧ s.total = d.features.length
  /-- Without a summary there is an error in its place. -/
  noSummary : ∀ r : Request, r.Calls "GET" .info → (¬∃ s, (server.respond slot r).IsSummary s) →
    Json.read (Symbol.ofString (server.respond slot r).body) =
      .ok (.object [("error", .string "Data not loaded")])
  /-- No request changes the slot, nor do many. -/
  unchanged : ∀ ms : List Moment, (∀ m ∈ ms, ∃ r, m.event = .request r) → slot.final ms = slot

theorem eq_empty_or_loaded (slot : Slot) : slot = .empty ∨ ∃ d, slot = .loaded d := by
  obtain ⟨_ | d⟩ := slot
  · exact .inl rfl
  · exact .inr ⟨d, rfl⟩

theorem saysLoaded_iff (server : Server) (hr : r.Calls "GET" .health) :
    (server.respond slot r).SaysLoaded ↔ slot ≠ .empty := by
  rw [Reply.SaysLoaded, respond_body, plainReply_of_calls hr (by decide) (by decide), Route.reply,
    read_healthReply]
  rcases eq_empty_or_loaded slot with rfl | ⟨d, rfl⟩
  · simp [Slot.isLoaded, Slot.empty]
  · simp [Slot.isLoaded, Slot.loaded, Slot.empty]

theorem isSummary_iff (server : Server) (hr : r.Calls "GET" .info) (s : Summary) :
    (server.respond slot r).IsSummary s ↔
      ∃ d, slot = .loaded d ∧ s.toJson.compact = (d.summary infoSamples).toJson.compact := by
  rw [Reply.IsSummary, respond_body, plainReply_of_calls hr (by decide) (by decide), Route.reply]
  rcases eq_empty_or_loaded slot with rfl | ⟨d, rfl⟩
  · rw [infoReply_empty, jsonReply]
    refine ⟨fun h => absurd h (noSummary_ne s), ?_⟩
    rintro ⟨d, hd, -⟩
    cases hd
  · rw [infoReply_loaded, jsonReply]
    refine ⟨fun h => ⟨d, rfl, h.symm⟩, ?_⟩
    rintro ⟨d', hd, h⟩
    cases hd
    exact h.symm

theorem unavailable_iff (server : Server) {q : Question} (hr : r.Posts q) :
    (server.respond slot r).status = 503 ↔ slot = .empty := by
  rcases eq_empty_or_loaded slot with rfl | ⟨d, rfl⟩
  · exact ⟨fun _ => rfl, fun _ => respond_empty server hr rfl⟩
  · have hd : (Slot.loaded d).dataset = some d := rfl
    rw [(respond_loaded server hr hd).1]
    refine ⟨fun h => absurd h (by decide), fun h => ?_⟩
    cases h

theorem final_of_requests (slot : Slot) {ms : List Moment}
    (h : ∀ m ∈ ms, ∃ r, m.event = .request r) : slot.final ms = slot := by
  induction ms with
  | nil => rfl
  | cons m ms ih =>
    obtain ⟨⟨r, hr⟩, hms⟩ := List.forall_mem_cons.1 h
    have hm : (m.step slot).1 = slot := by
      rw [Moment.step, hr]
      rfl
    rw [Slot.final_cons, hm, ih hms]

/-- **The routes agree about every slot**: a body is refused before the slot is looked at, and all
three routes find a dataset or none of them does. -/
theorem Server.outcomes (server : Server) (slot : Slot) : server.Outcomes slot where
  rejected _ := respond_rejected server
  unavailable := by
    intro r hr hok
    obtain ⟨q, hq⟩ := hr.posts hok
    exact unavailable_iff server hq
  answered := by
    intro r hr hok hslot
    obtain ⟨q, hq⟩ := hr.posts hok
    obtain ⟨d, rfl⟩ := (eq_empty_or_loaded slot).resolve_left hslot
    obtain ⟨hstatus, hbody⟩ := respond_loaded server hq rfl
    exact ⟨hstatus, q, _, hq.body, rfl, hbody⟩
  code := by
    intro r
    rw [respond_status, respond_body]
    refine (plainReply_cases slot r).imp_right (Or.imp_right ?_)
    rintro ⟨e, he⟩
    rw [he]
    refine ⟨?_, e.message, read_errorReply e⟩
    cases e <;> simp [errorReply, jsonReply, ServiceError.status]
  health := by
    intro r hr
    rw [respond_status, respond_body, plainReply_of_calls hr (by decide) (by decide)]
    exact ⟨rfl, read_healthReply slot⟩
  ready := by
    intro h i p hh hi hp hok
    obtain ⟨q, hq⟩ := hp.posts hok
    have hpost : (server.respond slot p).status ≠ 503 ↔ slot ≠ .empty :=
      not_congr (unavailable_iff server hq)
    have hinfo : (∃ s, (server.respond slot i).IsSummary s) ↔ slot ≠ .empty := by
      simp only [isSummary_iff server hi]
      rcases eq_empty_or_loaded slot with rfl | ⟨d, rfl⟩
      · simp [Slot.empty, Slot.loaded]
      · simp only [Slot.empty, Slot.loaded, ne_eq, Slot.mk.injEq, reduceCtorEq, not_false_eq_true,
          iff_true]
        exact ⟨_, d, rfl, rfl⟩
    exact ⟨(saysLoaded_iff server hh).trans hpost.symm, hpost.trans hinfo.symm⟩
  total := by
    intro r hr s hs
    obtain ⟨d, hd, hcompact⟩ := (isSummary_iff server hr s).1 hs
    exact ⟨d, hd, total_inj hcompact⟩
  noSummary := by
    intro r hr hnone
    rcases eq_empty_or_loaded slot with rfl | ⟨d, rfl⟩
    · rw [respond_body, plainReply_of_calls hr (by decide) (by decide), Route.reply,
        infoReply_empty]
      exact read_noSummary
    · exact absurd ⟨_, (isSummary_iff server hr _).2 ⟨d, rfl, rfl⟩⟩ hnone
  unchanged _ := final_of_requests slot

end Http

end Gridlines
