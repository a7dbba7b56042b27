-- Settings of the service, their defaults, and what becomes of values that make
-- no sense.
import FeedSearch.Breaker
import FeedSearch.Feed.Provider
import FeedSearch.Search.Paging

namespace FeedSearch.Config

/-! ## Settings -/

structure SearchSettings where
  defaultPageSize : Nat
  maxPageSize : Nat
  fetchTimeoutMillis : UInt64
  deriving DecidableEq, Repr

def SearchSettings.standard : SearchSettings := ⟨20, 100, 10000⟩

structure CacheSettings where
  ttlSeconds : UInt64
  maxEntries : Nat
  deriving DecidableEq, Repr

def CacheSettings.standard : CacheSettings := ⟨300, 1000⟩

structure BreakerSettings where
  maxFailures : UInt32
  resetSeconds : UInt64
  deriving DecidableEq, Repr

def BreakerSettings.standard : BreakerSettings := ⟨5, 30⟩

/-- A provider. The source is a web address or the path of a file; a rate of zero is no limit. -/
structure ProviderSettings where
  name : String
  format : Feed.Format
  source : String
  timeoutMillis : UInt64
  retries : UInt32
  retryDelayMillis : UInt64
  ratePerMinute : UInt32
  deriving DecidableEq, Repr

namespace ProviderSettings

def standardTimeout : UInt64 := 5000

def standardRetries : UInt32 := 3

def standardRetryDelay : UInt64 := 1000

def standardRate : UInt32 := 60

/-- The provider that the settings describe. -/
def provider (p : ProviderSettings) : Feed.Provider where
  name := p.name
  format := p.format
  location := .ofText p.source
  policy := { retries := p.retries, delay := .ofMillis p.retryDelayMillis.toNat }
  limit := Feed.RateLimit.ofSetting p.ratePerMinute

end ProviderSettings

structure Settings where
  search : SearchSettings
  cache : CacheSettings
  breaker : BreakerSettings
  providers : List ProviderSettings
  deriving DecidableEq, Repr

def Settings.standard : Settings := ⟨.standard, .standard, .standard, []⟩

/-! ## Checks -/

/-- What is wrong with the providers. -/
inductive ProviderFault where
  | emptyName
  | emptySource (name : String)
  | duplicateName (name : String)
  deriving DecidableEq, Repr

def ProviderFault.message : ProviderFault → String
  | .emptyName => "provider with empty name"
  | .emptySource name => "provider `" ++ name ++ "` has an empty source"
  | .duplicateName name => "duplicate provider name `" ++ name ++ "`"

/-- Checks providers in order; the names of those before are known. Blanks around a name do not
count. -/
def checkProviders (known : List String) : List ProviderSettings → Except ProviderFault Unit
  | [] => .ok ()
  | p :: rest =>
    let name := Text.trim p.name
    if name.isEmpty then .error .emptyName
    else if Text.isBlankText p.source then .error (.emptySource name)
    else if known.contains name then .error (.duplicateName name)
    else checkProviders (name :: known) rest

/-! ## Sanity -/

/-- A number, or another one in the place of zero. -/
def orStandard {α : Type} [BEq α] [OfNat α 0] (n standard : α) : α := if n == 0 then standard else n

/-- The default page size is at least one and fits the largest; if it does not, the standard one is
used as far as it fits. -/
def SearchSettings.sane (s : SearchSettings) : SearchSettings :=
  let most := orStandard s.maxPageSize SearchSettings.standard.maxPageSize
  let default :=
    if s.defaultPageSize == 0 || most < s.defaultPageSize then
      min SearchSettings.standard.defaultPageSize most
    else s.defaultPageSize
  { defaultPageSize := default
    maxPageSize := most
    fetchTimeoutMillis :=
      orStandard s.fetchTimeoutMillis SearchSettings.standard.fetchTimeoutMillis }

def CacheSettings.sane (s : CacheSettings) : CacheSettings where
  ttlSeconds := orStandard s.ttlSeconds CacheSettings.standard.ttlSeconds
  maxEntries := orStandard s.maxEntries CacheSettings.standard.maxEntries

def BreakerSettings.sane (s : BreakerSettings) : BreakerSettings where
  maxFailures := orStandard s.maxFailures BreakerSettings.standard.maxFailures
  resetSeconds := orStandard s.resetSeconds BreakerSettings.standard.resetSeconds

def ProviderSettings.sane (p : ProviderSettings) : ProviderSettings :=
  { p with
    name := Text.trim p.name
    source := Text.trim p.source
    timeoutMillis := orStandard p.timeoutMillis ProviderSettings.standardTimeout }

/-- Settings with a default in the place of every value that makes no sense. -/
def Settings.sane (s : Settings) : Settings where
  search := s.search.sane
  cache := s.cache.sane
  breaker := s.breaker.sane
  providers := s.providers.map ProviderSettings.sane

/-! ## What follows from settings -/

namespace Settings

def pageLimits (s : Settings) : Search.PageLimits :=
  { defaultPageSize := s.search.defaultPageSize, maxPageSize := s.search.maxPageSize }

def breakerConfig (s : Settings) : BreakerConfig :=
  { maxFailures := s.breaker.maxFailures, resetTimeout := .ofSeconds s.breaker.resetSeconds }

def cacheTtl (s : Settings) : Time.Span := .ofSeconds s.cache.ttlSeconds

def fetchTimeout (s : Settings) : Time.Span := .ofMillis s.search.fetchTimeoutMillis.toNat

end Settings

end FeedSearch.Config
