import Gridlines.Http.Server
import Mathlib.Tactic.Common

/-!
# Which origins a service lets in

Origins are looked at when the service is built: entries that cannot stand in a header are dropped,
and the entry `*`, which can, is refused.  From then on a reply to any request, on a route or on
none, names the origin of the request if it is one of those that are left.  Whether all origins are
let in is decided before entries are dropped, so a list of nothing but useless entries lets in none.

* `Cors.ofOrigins_eq`, `Server.exists_build_iff` : which settings make a service.
* `allowedOrigins_respond` : the origins that a reply names are decided by the policy alone.
* `Server.failsClosed` : the policy for every list of origins without `*`.
-/

namespace Gridlines

namespace Http

/-! ### Building -/

theorem isHeaderValue_star : isHeaderValue "*" := by decide

/-- The policy for a list of origins without `*`. -/
def Cors.without (origins : List String) : Cors :=
  if origins.isEmpty then .any else .only (origins.filter isHeaderValue)

theorem Cors.ofOrigins_eq (origins : List String) :
    ofOrigins origins =
      if "*" ∈ origins then .error .wildcardOrigin else .ok (Cors.without origins) := by
  have hvalid : "*" ∈ origins.filter isHeaderValue ↔ "*" ∈ origins := by
    rw [List.mem_filter, and_iff_left isHeaderValue_star]
  cases origins with
  | nil => rfl
  | cons origin origins =>
    rw [ofOrigins, if_neg (by simp)]
    simp only [hvalid]
    rfl

variable {config : Config}

theorem Server.build_of_mem (h : "*" ∈ config.corsOrigins) :
    build config = .error .wildcardOrigin := by
  rw [build, Cors.ofOrigins_eq, if_pos h]
  rfl

theorem Server.build_of_not_mem (h : "*" ∉ config.corsOrigins) :
    build config = .ok ⟨config, Cors.without config.corsOrigins⟩ := by
  rw [build, Cors.ofOrigins_eq, if_neg h]
  rfl

/-- Settings make a service unless `*` is one of their origins. -/
theorem Server.exists_build_iff :
    (∃ server, build config = .ok server) ↔ "*" ∉ config.corsOrigins := by
  refine ⟨?_, fun h => ⟨_, build_of_not_mem h⟩⟩
  rintro ⟨server, hserver⟩ h
  cases (build_of_mem h).symm.trans hserver

/-! ### The origins that headers name -/

/-- The values of all headers of a name, which is given in lowercase. -/
def headerValues {α : Type} (name : String) (headers : List (String × α)) : List α :=
  (headers.filter fun h => h.1.toList.map Char.toLower = name.toList).map Prod.snd

/-- The origins that a request says it comes from.  A browser sends one at most, and only the first
one is looked at. -/
def Request.origins (r : Request) : List Content := headerValues "origin" r.headers

/-- The origins that a reply lets in; `*` stands for all of them. -/
def Reply.allowedOrigins (reply : Reply) : List String :=
  headerValues "access-control-allow-origin" reply.headers

variable {slot : Slot} {r : Request} {origins : List String} {o : String}

theorem headerValues_append {α : Type} (name : String) (hs ks : List (String × α)) :
    headerValues name (hs ++ ks) = headerValues name hs ++ headerValues name ks := by
  rw [headerValues, List.filter_append, List.map_append, headerValues, headerValues]

theorem header?_origin (r : Request) : r.header? "origin" = r.origins.head? := by
  rw [Request.header?, Request.origins, headerValues, List.head?_map, List.head?_filter]

/-- The route decides nothing about origins. -/
theorem allowedOrigins_plainReply (slot : Slot) (r : Request) :
    (plainReply slot r).allowedOrigins = [] := by
  have hallow : ∀ route : Route, headerValues "access-control-allow-origin" [route.allow] = [] := by
    intro route
    cases route <;> rfl
  have hjson : ∀ status x, (jsonReply status x).allowedOrigins = [] := fun _ _ => rfl
  have hroute : ∀ route : Route, (route.reply slot r).allowedOrigins = [] := by
    intro route
    cases route with
    | health => exact hjson _ _
    | info => exact hjson _ _
    | query =>
      rw [Route.reply, queryReply]
      split
      · exact hjson _ _
      · split <;> exact hjson _ _
  unfold plainReply
  dsimp only
  split
  · cases Route.ofPath r.path with
    | none => rfl
    | some route => exact (headerValues_append _ _ _).trans (hallow route)
  · split
    · rfl
    · split
      · split
        · exact hroute _
        · exact hroute _
      · exact hallow _

/-- A reply lets in what the policy makes of the origin of the request. -/
theorem allowedOrigins_respond (server : Server) (slot : Slot) (r : Request) :
    (server.respond slot r).allowedOrigins = (server.cors.allowed? r.origins.head?).toList := by
  have hplain := allowedOrigins_plainReply slot r
  have hname : "access-control-allow-origin".toList.map Char.toLower =
      "access-control-allow-origin".toList := by decide
  have hothers : headerValues "access-control-allow-origin"
      [("content-security-policy", contentSecurityPolicy),
        ("vary", "origin, access-control-request-method, access-control-request-headers")] = [] :=
    rfl
  unfold Reply.allowedOrigins at *
  rw [Server.respond, headerValues_append, hplain, List.append_nil, Server.commonHeaders,
    headerValues_append, hothers, List.append_nil, header?_origin]
  cases server.cors.allowed? r.origins.head? with
  | none => rfl
  | some o =>
    simp only [headerValues, Option.map_some, Option.toList_some, List.map_cons, List.map_nil, hname,
      decide_true, List.filter_cons_of_pos, List.filter_nil]

/-! ### The policy -/

/-- A server lets in the origins of its list that can stand in a header, and all origins only
without a list. -/
structure Server.FailsClosed (server : Server) (origins : List String) : Prop where
  /-- With a list, the origin of a request is let in if it is in the list and can stand in a header,
  and no other is. -/
  listed : origins ≠ [] → ∀ slot r o, o ∈ (server.respond slot r).allowedOrigins ↔
    r.origins.head? = some (Symbol.ofString o) ∧ o ∈ origins ∧ isHeaderValue o
  /-- So it is for a request with one origin at most. -/
  single : origins ≠ [] → ∀ slot r o, r.origins.length ≤ 1 →
    (o ∈ (server.respond slot r).allowedOrigins ↔
      Symbol.ofString o ∈ r.origins ∧ o ∈ origins ∧ isHeaderValue o)
  /-- No reply names two origins. -/
  once : ∀ slot r, (server.respond slot r).allowedOrigins.length ≤ 1
  /-- A list without an entry that can stand in a header lets in no origin. -/
  unusable : origins ≠ [] → (∀ o ∈ origins, ¬isHeaderValue o) → ∀ slot r,
    (server.respond slot r).allowedOrigins = []
  /-- All origins are let in, whatever the request, exactly if there is no list. -/
  permissive : (∀ slot r, (server.respond slot r).allowedOrigins = ["*"]) ↔ origins = []

/-- At most one entry of a list is the text that has come in. -/
theorem find?_ofString_eq_some_iff {value : Content} :
    (origins.find? fun entry => Symbol.ofString entry = value) = some o ↔
      Symbol.ofString o = value ∧ o ∈ origins := by
  constructor
  · intro h
    exact ⟨by simpa using List.find?_some h, List.mem_of_find?_eq_some h⟩
  · rintro ⟨rfl, hmem⟩
    have hfind : (origins.find? fun entry => Symbol.ofString entry = Symbol.ofString o).isSome :=
      List.find?_isSome.2 ⟨o, hmem, by simp⟩
    obtain ⟨p, hp⟩ := Option.isSome_iff_exists.1 hfind
    have hvalue : Symbol.ofString p = Symbol.ofString o := by simpa using List.find?_some hp
    rw [hp, Symbol.ofString_inj.1 hvalue]

theorem Cors.mem_allowed?_without (h : origins ≠ []) (origin : Option Content) (o : String) :
    o ∈ ((Cors.without origins).allowed? origin).toList ↔
      origin = some (Symbol.ofString o) ∧ o ∈ origins ∧ isHeaderValue o := by
  have hempty : ¬origins.isEmpty := by simpa using h
  rw [Cors.without, if_neg hempty, Cors.allowed?, Option.mem_toList,
    Option.bind_eq_some_iff]
  simp only [find?_ofString_eq_some_iff, List.mem_filter]
  constructor
  · rintro ⟨value, rfl, rfl, hmem⟩
    exact ⟨rfl, hmem⟩
  · rintro ⟨rfl, hmem⟩
    exact ⟨_, rfl, rfl, hmem⟩

/-- **A list of origins lets in nothing but its entries**, and a list of useless entries nothing at
all. -/
theorem Server.failsClosed (h : "*" ∉ config.corsOrigins) :
    ∃ server, build config = .ok server ∧ server.FailsClosed config.corsOrigins := by
  refine ⟨_, build_of_not_mem h, ?_⟩
  have hlisted : config.corsOrigins ≠ [] → ∀ slot r o,
      o ∈ (respond ⟨config, Cors.without config.corsOrigins⟩ slot r).allowedOrigins ↔
        r.origins.head? = some (Symbol.ofString o) ∧ o ∈ config.corsOrigins ∧ isHeaderValue o := by
    intro hne slot r o
    rw [allowedOrigins_respond]
    exact Cors.mem_allowed?_without hne _ o
  constructor
  case listed => exact hlisted
  case single =>
    intro hne slot r o hlen
    rw [hlisted hne]
    refine and_congr_left fun _ => ?_
    generalize r.origins = os at hlen
    rcases os with _ | ⟨p, _ | ⟨q, os⟩⟩
    · simp
    · simp [eq_comm]
    · simp at hlen
  case once =>
    intro slot r
    rw [allowedOrigins_respond]
    exact Option.length_toList_le
  case unusable =>
    intro hne hnone slot r
    refine List.eq_nil_iff_forall_not_mem.2 fun o ho => ?_
    obtain ⟨-, hmem, hvalue⟩ := (hlisted hne slot r o).1 ho
    exact hnone o hmem hvalue
  case permissive =>
    constructor
    · intro hall
      by_contra hne
      have hstar := (hlisted hne .empty ⟨"GET", "/health", [], []⟩ "*").1
        (by rw [hall]; exact List.mem_singleton_self _)
      exact h hstar.2.1
    · intro hnil slot r
      rw [allowedOrigins_respond, hnil]
      rfl

/-- Of two entries one can stand in a header. -/
theorem Server.failsClosed_two :
    let config : Config := { corsOrigins := ["http://a", "http://b\n"] }
    "*" ∉ config.corsOrigins ∧
      ∃ server, build config = .ok server ∧ server.FailsClosed config.corsOrigins := by
  intro config
  have hstar : "*" ∉ config.corsOrigins := by decide
  exact ⟨hstar, failsClosed hstar⟩

end Http

end Gridlines
