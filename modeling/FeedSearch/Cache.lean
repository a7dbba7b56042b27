-- A cache of complete results: every entry has a time at which it expires, and
-- the number of entries is bounded.
import FeedSearch.Breaker
import FeedSearch.Content.Record

namespace FeedSearch

open Time

/-! ## Entries -/

structure CacheEntry where
  key : String
  records : List Record
  expiresAt : Instant
  deriving Repr

/-- Whether an entry may still be served. -/
def CacheEntry.isFresh (e : CacheEntry) (now : Instant) : Bool := now < e.expiresAt

structure Cache where
  defaultTtl : Span
  maxEntries : Nat
  entries : List CacheEntry
  deriving Repr

namespace Cache

def standardTtl : Span := .ofSeconds 300

/-- An empty cache. A time to live of zero means the standard one, and there is room for one entry
at least. -/
def empty (defaultTtl : Span) (maxEntries : Nat) : Cache where
  defaultTtl := if defaultTtl.isZero then standardTtl else defaultTtl
  maxEntries := max maxEntries 1
  entries := []

def standard : Cache := empty standardTtl 1000

def size (c : Cache) : Nat := c.entries.length

def find? (c : Cache) (key : String) : Option CacheEntry := c.entries.find? (·.key == key)

def erase (c : Cache) (key : String) : Cache :=
  { c with entries := c.entries.filter (·.key != key) }

/-! ## Reading -/

/-- What is seen of a key. -/
inductive Glimpse where
  | missing
  | fresh (records : List Record)
  | stale
  deriving Repr

/-- Looks at a key and changes nothing. -/
def glimpse (c : Cache) (key : String) (now : Instant) : Glimpse :=
  match c.find? key with
  | none => .missing
  | some e => if e.isFresh now then .fresh e.records else .stale

/-- Removes the entry of a key if it has expired by then. -/
def eraseStale (c : Cache) (key : String) (now : Instant) : Cache :=
  match c.find? key with
  | some e => if e.isFresh now then c else c.erase key
  | none => c

/-- The records of a key. An entry that has expired is removed. -/
def get (c : Cache) (key : String) (now : Instant) : Option (List Record) × Cache :=
  match c.glimpse key now with
  | .missing => (none, c)
  | .fresh records => (some records, c)
  | .stale => (none, c.eraseStale key now)

/-! ## Writing -/

/-- The last time that the running clock can hold. -/
def lastInstant : Instant := Number.signSize * nanosPerSecond - 1

/-- The time to live in use. -/
def effectiveTtl (c : Cache) (ttl : Span) : Span := if ttl.isZero then c.defaultTtl else ttl

/-- The entry that expires first. -/
def soonest? : List CacheEntry → Option CacheEntry
  | [] => none
  | e :: rest =>
    match soonest? rest with
    | none => some e
    | some f => if f.expiresAt < e.expiresAt then some f else some e

/-- Makes room for a key: if it is new and the cache is full, the entry that expires first goes. -/
def makeRoom (c : Cache) (key : String) : Cache :=
  if (c.find? key).isNone && c.maxEntries ≤ c.size then
    match soonest? c.entries with
    | some e => c.erase e.key
    | none => c
  else c

/-- Writes an entry, whether or not there was one of that key. -/
def put (c : Cache) (e : CacheEntry) : Cache :=
  { c with entries := (c.erase e.key).entries ++ [e] }

/-- Keeps records under a key for a time. Says whether the clock could hold the time at which they
expire; if not, nothing is written, but room has been made. -/
def set (c : Cache) (key : String) (records : List Record) (ttl : Span) (now : Instant) :
    Bool × Cache :=
  let expiresAt := now + (c.effectiveTtl ttl).toNanos
  let roomy := c.makeRoom key
  if expiresAt ≤ lastInstant then (true, roomy.put { key, records, expiresAt }) else (false, roomy)

end Cache

end FeedSearch
