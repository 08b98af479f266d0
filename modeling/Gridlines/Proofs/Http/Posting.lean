import Gridlines.Http.Server
import Gridlines.Proofs.Json.Records

/-!
# Posting a question

A request posts a question if it goes to `/api/query` with the method `POST` and its body can be
read as a question.  The reply is then decided by the slot alone: `respond_loaded` if it holds a
dataset, `respond_empty` if it does not.  Every question that is not too long can be posted in its
written form (`Request.Sends.posts`).
-/

namespace Gridlines

/-- A question is read back. -/
theorem Question.shape_reads (n : Nat) (q : Question) :
    shape.decoder.Reads (n + 1) q.toJson q := by
  refine Json.Shape.decoder_reads (some q.query) ?_ rfl
  exact .note rfl rfl (Json.Decoder.text_reads n q.query) .nil

namespace Http

/-- The request goes to the route with the method. -/
structure Request.Calls (r : Request) (method : String) (route : Route) : Prop where
  method : r.method = method
  path : Route.ofPath r.path = some route

/-- The request posts the question. -/
structure Request.Posts (r : Request) (q : Question) : Prop where
  method : r.method = "POST"
  path : Route.ofPath r.path = some .query
  body : readQuestion r = .ok q

/-- The request posts the question in its written form, and says that this is JSON. -/
structure Request.Sends (r : Request) (q : Question) : Prop where
  calls : r.Calls "POST" .query
  type : ∃ type, r.header? "content-type" = some type ∧ isJsonType type
  body : r.body = Symbol.ofString q.toJson.compact
  size : Symbol.totalSize r.body ≤ bodyLimit

variable {slot : Slot} {r : Request} {q : Question}

theorem Request.Sends.posts (h : r.Sends q) : r.Posts q := by
  refine ⟨h.calls.method, h.calls.path, ?_⟩
  obtain ⟨type, htype, hjson⟩ := h.type
  have hsize : ¬bodyLimit < Symbol.totalSize r.body := not_lt.2 h.size
  have hread : Question.shape.decoder.runFirst r.body = .ok q := by
    rw [h.body]
    exact Json.Decoder.runFirst_reads (Question.shape_reads _ q)
  simp [readQuestion, htype, hjson, hsize, hread]

theorem ofPath_of_target (h : r.target = "/api/query") : Route.ofPath r.path = some .query := by
  unfold Request.path
  rw [h]
  decide

/-- A question that is not too long can be posted in its written form. -/
theorem exists_sends (h : Symbol.totalSize (Symbol.ofString q.toJson.compact) ≤ bodyLimit) :
    ∃ r : Request, r.Sends q := by
  generalize hcontent : Symbol.ofString q.toJson.compact = content at h
  let headers : List Header := [("content-type", "application/json")]
  let r : Request := ⟨"POST", "/api/query", headers, content⟩
  have htype : r.header? "content-type" = some (Symbol.ofString "application/json") := by rfl
  have hjson : isJsonType (Symbol.ofString "application/json") := by decide
  exact ⟨r, ⟨rfl, ofPath_of_target rfl⟩, ⟨_, htype, hjson⟩, hcontent.symm, h⟩

theorem plainReply_of_calls {method : String} {route : Route} (hr : r.Calls method route)
    (hmethod : method ∈ route.methods) (hhead : method ≠ "HEAD") :
    plainReply slot r = route.reply slot r := by
  have hoptions : method ≠ "OPTIONS" := by
    rintro rfl
    revert hmethod
    cases route <;> decide
  simp [plainReply, hr.method, hr.path, hmethod, hhead, hoptions]

theorem plainReply_of_posts (h : r.Posts q) : plainReply slot r = queryReply slot r :=
  plainReply_of_calls ⟨h.method, h.path⟩ (by decide) (by decide)

theorem respond_loaded (server : Server) {d : Dataset} (h : r.Posts q)
    (hd : slot.dataset = some d) :
    (server.respond slot r).status = 200 ∧
      (server.respond slot r).body =
        (Response.toJson ⟨(d.execute (.ofQuery q.query)).text,
          (d.execute (.ofQuery q.query)).features⟩).compact := by
  have hq : queryReply slot r = jsonReply 200 (Response.toJson
      ⟨(d.execute (.ofQuery q.query)).text, (d.execute (.ofQuery q.query)).features⟩) := by
    simp only [queryReply, h.body, Slot.answer, Slot.execute, hd]
    rfl
  simp [Server.respond, plainReply_of_posts h, hq, jsonReply]

theorem respond_empty (server : Server) (h : r.Posts q) (hd : slot.dataset = none) :
    (server.respond slot r).status = 503 := by
  have hq : queryReply slot r = errorReply (.unavailable .unavailable) := by
    simp only [queryReply, h.body, Slot.answer, Slot.execute, hd]
    rfl
  simp [Server.respond, plainReply_of_posts h, hq, errorReply, jsonReply, ServiceError.status]

end Http

end Gridlines
