import Shoreline.CommandLine
import Shoreline.Settings.EnvFile
import Std.Time.DateTime.Timestamp

/-!
# `Shoreline.Main` — the program

The outer layer of the command line: it reads the environment, the settings file and the store, runs
`CommandLine.run` and writes the store and the report. No connection to a server is made from here, so
every request stays without an answer.
-/

open Shoreline Shoreline.Text

/-- The variables that the client knows. -/
def variableNames : List String :=
  ["API_BASE_URL", "STORAGE_PATH", "SEARCH_RADIUS_KM", "REQUEST_TIMEOUT_SECS", "LOCAL_UTC_OFFSET",
    "GUEST_FAVORITES", "BEACHCHECK_EMAIL", "BEACHCHECK_PASSWORD", "BEACHCHECK_LAT", "BEACHCHECK_LNG",
    "BEACHCHECK_TAG", "BEACHCHECK_QUERY"]

/-- The variables of the environment and of the settings file beside the program. -/
def readEnvironment : IO Environment := do
  let mut env : Environment := SortedMap.empty
  for name in variableNames do
    if let some value := (← IO.getEnv name) then
      env := env.insert name value
  try
    return EnvFile.load env (← IO.FS.readFile ".env")
  catch _ =>
    return env

/-- What is found at a path. -/
def readStore (path : String) : IO FileText := do
  try
    return .found (← IO.FS.readFile path)
  catch
    | .noFileOrDirectory _ _ _ => return .absent
    | e => return .unreadable (toString e)

/-- Write the store, if it was written while the program ran. -/
def writeStore (path : String) (before : FileText) (after : Store) : IO Unit := do
  if let some text := after.file? then
    unless before = .found text do
      IO.FS.writeFile path text

/-- No request is answered. -/
def noExchange (sent : Http.Sent) : IO Http.Reply :=
  return .failed (.unanswered sent.address)

/-- The time in milliseconds from 1970-01-01 00:00 UTC. -/
def clock : IO Int := do
  return (← Std.Time.Timestamp.now).toMillisecondsSinceUnixEpoch.val

/-- The program. -/
def main : IO UInt32 := do
  let env ← readEnvironment
  let path := (env.get? "STORAGE_PATH").getD "beachcheck_storage.json"
  let before ← readStore path
  let ending ← CommandLine.run noExchange clock ⟨env, Time.Offset.utc, fun _ => before⟩
  if let some client := ending.client then
    writeStore path before client.store
  match ending.result with
  | .ok report =>
    IO.println report
    return 0
  | .error complaint =>
    IO.eprintln complaint.text
    return 1
