-- The command line: a probe of the providers that the settings of the place
-- name. Everything that it may need is read first, and the probe runs on that.
import FeedSearch.Config.VariableFile
import FeedSearch.Probe
import FeedSearch.Text.Utf8

namespace FeedSearch.CommandLine

/-! ## Files -/

/-- The fault behind an error of the system. -/
def faultOf : IO.Error → FileFault
  | .inappropriateType _ code _ => if code == 20 then .notDirectory else .directory
  | .permissionDenied .. => .denied
  | _ => .missing

/-- A file with what comes of reading it. -/
def readNow (path : String) : IO (String × Except FileFault String) := do
  try
    let octets ← IO.FS.readBinFile path
    match Text.Utf8.decode? octets.toList with
    | some text => return (path, .ok text)
    | none => return (path, .error .notText)
  catch e => return (path, .error (faultOf e))

/-- The files that the providers read. -/
def sources (s : Config.Settings) : List String :=
  s.providers.filterMap fun p =>
    match p.provider.location with
    | .file path => some path
    | _ => none

/-! ## Variables -/

/-- The variables that settings look at. -/
def settingNames : List String :=
  ["SEARCH_CONFIG_PATH", "SEARCH_CACHE_TTL_SECS", "SEARCH_BREAKER_MAX_FAILURES",
    "SEARCH_BREAKER_RESET_SECS"]

/-- All parts of a text that may be names of variables: words, and what stands between braces. -/
def mentioned (text : String) : List String :=
  let cut (isPart : Char → Bool) := text.toList.splitOnP fun c => !isPart c
  let isBraced (c : Char) := c != '\x7b' && c != '\x7d'
  let parts := cut Config.VariableFile.isNameChar ++ cut Text.isAlphanumeric ++ cut isBraced
  (parts.filter (!·.isEmpty)).map String.ofList

/-- The variables of some names as they are now. -/
def variablesNow (names : List String) : IO Config.Environment := do
  let pairs ← names.mapM fun name => return (name, ← IO.getEnv name)
  return fun name => (pairs.lookup name).join

/-! ## Runs -/

/-- What a probe is about: the files and the variables. Nothing stands for a crash. -/
def surroundings : IO (Option (Files × Config.Environment)) := do
  let variableFile ← readNow Config.VariableFile.fileName
  let names := match variableFile.2 with
    | .ok text => mentioned text
    | .error _ => []
  let outer ← variablesNow (settingNames ++ names)
  let some env := Config.VariableFile.extend outer (.ofTable [variableFile]) | return none
  let settingsFile ← readNow ((env "SEARCH_CONFIG_PATH").getD Config.standardPath)
  match Config.Settings.found (.ofTable [settingsFile]) env with
  | .error _ => return some (.ofTable [settingsFile], env)
  | .ok settings =>
    return some (.ofTable (settingsFile :: (← (sources settings).mapM readNow)), env)

/-- The clocks at the start. A summary does not tell the time of day. -/
def clockNow : IO Clock := do
  return { running := ← IO.monoNanosNow, wall := .ofDate ⟨2000, 1, 1⟩ }

/-- The status of a program that has crashed. -/
def crashed : UInt32 := 101

/-- Runs a probe and prints its summary; nothing on the web can be reached. -/
def run (words : List String) : IO UInt32 := do
  let some (files, env) ← surroundings | return crashed
  match Probe.run words { files, web := Feed.noWeb } env (← clockNow) with
  | .ok (some summary) =>
    IO.println (summary.spread 0)
    return 0
  | .ok none => return crashed
  | .error fault =>
    IO.eprintln fault.report
    return 1

end FeedSearch.CommandLine

def main (words : List String) : IO UInt32 := FeedSearch.CommandLine.run words
