-- The service: which path leads where, and the headers that go with every
-- response.
import FeedSearch.Api.Params
import FeedSearch.Api.Reports
import FeedSearch.Text.Utf8

namespace FeedSearch.Api

open Search

/-! ## Routes -/

inductive Route where
  | health
  | search
  | content (rawId : String)
  | breakers
  deriving DecidableEq, Repr

/-- The path before the id of a record. -/
def contentStart : List Char := "/api/v1/content/".toList

/-- Where a path leads. An id is one part of the path and not empty. -/
def Route.ofPath (path : String) : Option Route :=
  match path with
  | "/health" => some .health
  | "/api/v1/search" => some .search
  | "/debug/breakers" => some .breakers
  | _ =>
    if contentStart.isPrefixOf path.toList then
      let id := path.toList.drop contentStart.length
      if id.isEmpty || id.contains '/' then none else some (.content (String.ofList id))
    else none

/-! ## Answers -/

/-- Searches for what the query of an address asks for. -/
def answerSearch (c : Coordinator) (query : String) : Http.Response × Coordinator :=
  match searchRequest query with
  | .error fault => (errorResponse (.invalidInput fault), c)
  | .ok r =>
    match c.search r .never with
    | (.found response status, c) =>
      ((Http.Response.ofJson 200 (responseJson response)).addHeaders
        [("x-search-cache", status.name)], c)
    | (.failed e, c) => (errorResponse e, c)
    | (.crashed, c) => (crashResponse, c)

/-- Reads an id: a positive number, blanks around it left out. -/
def readId (raw : String) : Except InputFault Int :=
  match (Number.signed? (Text.trim raw)).filter (0 < ·) with
  | some id => .ok id
  | none => .error ⟨.id, "'" ++ raw ++ "' is not a valid content id"⟩

/-- Gives the record of an id that stands in a path. -/
def answerContent (c : Coordinator) (rawId : String) : Http.Response × Coordinator :=
  match Text.Utf8.decode? (Http.unescape (Text.Utf8.encode rawId)) with
  | none => (.ofText 400 "Invalid URL: Invalid UTF-8 in `id`", c)
  | some raw =>
    match readId raw with
    | .error fault => (errorResponse (.invalidInput fault), c)
    | .ok id =>
      match c.getById id with
      | (.ok r, c) => (.ofJson 200 r.toJson, c)
      | (.error e, c) => (errorResponse e, c)

def Route.answer (route : Route) (c : Coordinator) (query : String) :
    Http.Response × Coordinator :=
  match route with
  | .health => (.ofJson 200 (.object [("status", .text "ok")]), c)
  | .search => answerSearch c query
  | .content rawId => answerContent c rawId
  | .breakers => (.ofJson 200 (breakersJson c.orchestrator.breakers), c)

/-! ## Methods -/

/-- The methods that a path allows. -/
def allowed : Http.Headers := [("allow", "GET,HEAD")]

/-- The response to a method that a path does not allow. -/
def notAllowed : Http.Response := (Http.Response.bare 405).addHeaders allowed

/-- The response of a path to a method, from its response to a reading of it. -/
def byMethod {σ : Type} (method : Http.Method) (read : σ → Http.Response × σ) (s : σ) :
    Http.Response × σ :=
  match method with
  | .get => read s
  | .head =>
    let (r, s) := read s
    (r.withoutBody, s)
  | _ => (notAllowed, s)

/-! ## Headers of every response -/

/-- Other sites may read the responses, whichever site asks. -/
def sharing (headers : Http.Headers) : Http.Headers :=
  ("access-control-allow-credentials", "true") ::
    Http.Headers.ofOption "access-control-allow-origin" (headers.get? "origin")

/-- The response to the question of another site what it may send: whatever it asks for. -/
def permission (headers : Http.Headers) : Http.Response :=
  (Http.Response.bare 200).addHeaders (sharing headers ++
    Http.Headers.ofOption "access-control-allow-methods"
      (headers.get? "access-control-request-method") ++
    Http.Headers.ofOption "access-control-allow-headers"
      (headers.get? "access-control-request-headers"))

/-- A response with the id of its request; a request without an id gets a fresh one. -/
def identified (freshId : String) (headers : Http.Headers) (r : Http.Response) : Http.Response :=
  r.addHeaders (sharing headers ++ [("x-request-id", (headers.get? "x-request-id").getD freshId)])

/-- The answer to a request. -/
def handle (c : Coordinator) (freshId : String) (q : Http.Request) : Http.Response × Coordinator :=
  match Route.ofPath q.path, q.method with
  | none, .options => (permission q.headers, c)
  | none, _ => (identified freshId q.headers (.bare 404), c)
  | some _, .options => ((permission q.headers).addHeaders allowed, c)
  | some route, method =>
    let (r, c) := byMethod method (route.answer · q.query) c
    (identified freshId q.headers r, c)

end FeedSearch.Api
