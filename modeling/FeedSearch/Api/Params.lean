-- The parameters of a search, as they stand in the query of an address.
import FeedSearch.Content.Request
import FeedSearch.Http.Form

namespace FeedSearch.Api

/-! ## Parameters by name -/

/-- A parameter: its name, its place among the words of a request, and how it is filled. -/
structure Param where
  name : String
  get : RequestWords → Option String
  set : String → RequestWords → RequestWords

def params : List Param := [
  ⟨"query", (·.query), fun s w => { w with query := some s }⟩,
  ⟨"type", (·.kind), fun s w => { w with kind := some s }⟩,
  ⟨"page", (·.page), fun s w => { w with page := some s }⟩,
  ⟨"page_size", (·.pageSize), fun s w => { w with pageSize := some s }⟩,
  ⟨"sort_by", (·.sortBy), fun s w => { w with sortBy := some s }⟩,
  ⟨"sort_order", (·.sortOrder), fun s w => { w with sortOrder := some s }⟩]

/-! ## Reading -/

/-- The fault of a parameter that stands twice. -/
def duplicate (name : String) : InputFault :=
  ⟨.query, "Failed to deserialize query string: duplicate field `" ++ name ++ "`"⟩

/-- Adds one pair of the query. Names that are no parameters do not count. -/
def addPair (w : RequestWords) (pair : String × String) : Except InputFault RequestWords :=
  match params.find? (·.name == pair.1) with
  | none => .ok w
  | some p => if (p.get w).isSome then .error (duplicate p.name) else .ok (p.set pair.2 w)

/-- The words of a query. -/
def words (query : String) : Except InputFault RequestWords :=
  (Http.readForm query).foldlM addPair ⟨none, none, none, none, none, none⟩

/-- The request that a query asks for. -/
def searchRequest (query : String) : Except InputFault Request := do
  let w ← words query
  w.request

end FeedSearch.Api
