-- Pages: a request is brought within its limits, and one page is cut out of a
-- complete list. Counts have 64 bits and stop at the largest of them.
import FeedSearch.Content.Request

namespace FeedSearch.Search

/-! ## Limits -/

structure PageLimits where
  defaultPageSize : Nat
  maxPageSize : Nat
  deriving DecidableEq, Repr

def PageLimits.standard : PageLimits := { defaultPageSize := 20, maxPageSize := 100 }

/-- The page size in use: the wanted one or the default, but no more than the largest. Both limits
are at least one. -/
def PageLimits.pageSize (limits : PageLimits) (wanted : Nat) : Nat :=
  let size := if wanted == 0 then max limits.defaultPageSize 1 else wanted
  min size (max limits.maxPageSize 1)

/-- The request with its query in the form of single spaces, from page one on, and with a page
size within the limits. -/
def normalize (limits : PageLimits) (r : Request) : Request :=
  { r with
    query := Text.spaced r.query
    page := if r.page == 0 then 1 else r.page
    pageSize := limits.pageSize r.pageSize }

/-! ## Pages -/

/-- A count that does not fit 64 bits becomes the largest that does. -/
def saturate (n : Nat) : Nat := min n Number.maxCount

/-- The pages that `total` items fill; none if pages hold nothing. -/
def pageCount (total pageSize : Nat) : Nat :=
  if pageSize == 0 then 0 else (total + pageSize - 1) / pageSize

/-- The place of the first item of a page; pages count from one. -/
def pageStart (page pageSize : Nat) : Nat := saturate ((page - 1) * pageSize)

/-- One page of a list. -/
def paginate {α : Type} (all : List α) (page pageSize : Nat) : List α :=
  let start := pageStart page pageSize
  let stop := min (saturate (start + pageSize)) all.length
  (all.drop start).take (stop - start)

/-! ## Responses -/

/-- A page of results with the numbers that place it. -/
structure Response where
  items : List Record
  total : Nat
  page : Nat
  pageSize : Nat
  totalPages : Nat
  deriving DecidableEq, Repr

def Response.of (items : List Record) (total page pageSize : Nat) : Response :=
  { items, total, page, pageSize, totalPages := pageCount total pageSize }

/-- The response for a normalized request, from the complete list of results. -/
def Response.ofAll (all : List Record) (r : Request) : Response :=
  Response.of (paginate all r.page r.pageSize) all.length r.page r.pageSize

end FeedSearch.Search
