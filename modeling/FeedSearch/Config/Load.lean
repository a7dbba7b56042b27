-- Settings read from text, from files and from the environment.
import FeedSearch.Config.Settings
import FeedSearch.Toml.Decode

namespace FeedSearch.Config

open Toml

/-! ## Sections -/

def searchLayout : Layout SearchSettings SearchSettings where
  title := "SearchSection"
  slots := [
    .of "default_page_size" true decodeSize fun n s => { s with defaultPageSize := n },
    .of "max_page_size" true decodeSize fun n s => { s with maxPageSize := n },
    .of "fetch_timeout_ms" true decodeCount64 fun n s => { s with fetchTimeoutMillis := n }]
  empty := .standard
  build := .ok

def cacheLayout : Layout CacheSettings CacheSettings where
  title := "CacheSection"
  slots := [
    .of "ttl_secs" true decodeCount64 fun n s => { s with ttlSeconds := n },
    .of "max_entries" true decodeSize fun n s => { s with maxEntries := n }]
  empty := .standard
  build := .ok

def breakerLayout : Layout BreakerSettings BreakerSettings where
  title := "BreakerSection"
  slots := [
    .of "max_failures" true decodeCount32 fun n s => { s with maxFailures := n },
    .of "reset_timeout_secs" true decodeCount64 fun n s => { s with resetSeconds := n }]
  empty := .standard
  build := .ok

/-! ## Providers -/

/-- The fields of a provider as far as they have been read. -/
structure ProviderFields where
  name : Option String
  format : Option Feed.Format
  source : Option String
  timeoutMillis : UInt64
  retries : UInt32
  retryDelayMillis : UInt64
  ratePerMinute : UInt32

def ProviderFields.empty : ProviderFields where
  name := none
  format := none
  source := none
  timeoutMillis := ProviderSettings.standardTimeout
  retries := ProviderSettings.standardRetries
  retryDelayMillis := ProviderSettings.standardRetryDelay
  ratePerMinute := ProviderSettings.standardRate

def given {α : Type} (name : String) : Option α → Except Shape.Mismatch α
  | some a => .ok a
  | none => .error (.missingField name)

/-- The provider that the fields say, or the first field that must be there and is not. -/
def ProviderFields.settings (f : ProviderFields) : Except Shape.Mismatch ProviderSettings := do
  let name ← given "name" f.name
  let format ← given "format" f.format
  let source ← given "source" f.source
  return {
    name, format, source
    timeoutMillis := f.timeoutMillis
    retries := f.retries
    retryDelayMillis := f.retryDelayMillis
    ratePerMinute := f.ratePerMinute }

def formatNames : List (String × Feed.Format) := [("json", .json), ("xml", .xml)]

def providerLayout : Layout ProviderFields ProviderSettings where
  title := "ProviderConfig"
  slots := [
    .of "name" false decodeText fun s f => { f with name := some s },
    .of "format" false (decodeVariant formatNames) fun x f => { f with format := some x },
    .of "source" false decodeText fun s f => { f with source := some s },
    .of "timeout_ms" true decodeCount64 fun n f => { f with timeoutMillis := n },
    .of "retry_count" true decodeCount32 fun n f => { f with retries := n },
    .of "retry_delay_ms" true decodeCount64 fun n f => { f with retryDelayMillis := n },
    .of "rate_limit_per_min" true decodeCount32 fun n f => { f with ratePerMinute := n }]
  empty := .empty
  build f := f.settings

/-! ## Documents -/

def settingsLayout : Layout Settings Settings where
  title := "SearchConfig"
  slots := [
    .of "search" true (decodeStruct searchLayout) fun x s => { s with search := x },
    .of "cache" true (decodeStruct cacheLayout) fun x s => { s with cache := x },
    .of "breaker" true (decodeStruct breakerLayout) fun x s => { s with breaker := x },
    .of "providers" true (decodeList (decodeStruct providerLayout))
      fun x s => { s with providers := x }]
  empty := .standard
  build := .ok

/-- Why a text gives no settings. -/
inductive TextFault where
  | notToml
  | shape (m : Shape.Mismatch)
  | provider (f : ProviderFault)
  deriving DecidableEq, Repr

/-- The settings that a text says, before any is replaced. -/
def Settings.written (text : String) : Except TextFault Settings := do
  match document? text with
  | none => throw .notToml
  | some ms =>
    let s ← (decodeMembers settingsLayout ms).mapError .shape
    (checkProviders [] s.providers).mapError .provider
    return s

def Settings.ofText (text : String) : Except TextFault Settings := (written text).map Settings.sane

/-! ## Files and the environment -/

/-- The words for a fault; a text that is no TOML has no more to say for itself. -/
def TextFault.message : TextFault → String
  | .notToml => "invalid TOML"
  | .shape m => m.message .prose
  | .provider f => f.message

/-- Why settings cannot be loaded. -/
inductive LoadFault where
  | noSuchPath
  | reading (path : String) (f : FileFault)
  | parsing (path : String) (f : TextFault)
  deriving DecidableEq, Repr

/-- What was being done when a fault was met. -/
def LoadFault.context : LoadFault → Option String
  | .noSuchPath => none
  | .reading path _ => some ("reading search config from " ++ path)
  | .parsing path _ => some ("parsing search config at " ++ path)

/-- The message for somebody who does not want to know more. -/
def LoadFault.headline (f : LoadFault) : String :=
  f.context.getD "SEARCH_CONFIG_PATH points to non-existent path"

/-- What is behind the headline. -/
def LoadFault.cause : LoadFault → Option String
  | .noSuchPath => none
  | .reading _ f => some f.message
  | .parsing _ f => some f.message

/-- The settings of a file. -/
def Settings.ofFile (files : Files) (path : String) : Except LoadFault Settings := do
  let text ← (files.read path).mapError (.reading path)
  (Settings.ofText text).mapError (.parsing path)

/-- Variables of the environment, by name. -/
abbrev Environment := String → Option String

def standardPath : String := "config/search.toml"

/-- The settings of the file that a variable names, or of the standard file if there is one. -/
def Settings.found (files : Files) (env : Environment) : Except LoadFault Settings :=
  match env "SEARCH_CONFIG_PATH" with
  | some path => if files.isThere path then Settings.ofFile files path else .error .noSuchPath
  | none => if files.isThere standardPath then Settings.ofFile files standardPath else .ok .standard

/-- A count in a variable; what is no count does not count. -/
def countIn? (env : Environment) (most : Nat) (name : String) : Option Nat :=
  (env name).bind fun s => Number.countUpTo? most (Text.trim s)

/-- Lets variables of the environment have the last word. -/
def Settings.override (env : Environment) (s : Settings) : Settings :=
  let ttl := countIn? env Number.maxCount "SEARCH_CACHE_TTL_SECS"
  let failures := countIn? env Number.maxCount32 "SEARCH_BREAKER_MAX_FAILURES"
  let reset := countIn? env Number.maxCount "SEARCH_BREAKER_RESET_SECS"
  { s with
    cache := { s.cache with ttlSeconds := (ttl.map Nat.toUInt64).getD s.cache.ttlSeconds }
    breaker :=
      { maxFailures := (failures.map Nat.toUInt32).getD s.breaker.maxFailures
        resetSeconds := (reset.map Nat.toUInt64).getD s.breaker.resetSeconds } }

/-- The settings in force. -/
def Settings.load (files : Files) (env : Environment) : Except LoadFault Settings :=
  (Settings.found files env).map fun s => (s.override env).sane

end FeedSearch.Config
