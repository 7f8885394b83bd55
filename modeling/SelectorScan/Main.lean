import SelectorScan.CommandLine.Program

/-!
# The command line

Reads the environment and the rule file, runs the program, and prints what it says. No name server
can be reached from here: candidates can be listed, and the lookups of a scan give up. A spreadsheet
cannot be written from here either, so a run that has one to write fails and prints no results.
-/

namespace SelectorScan

open CommandLine

/-- The environment variables that settings are read from. -/
def settingNames : List String :=
  ["QUIET", "DKIMSCAN_CONCURRENCY", "DKIMSCAN_RETRIES", "DKIMSCAN_TIMEOUT", "DKIMSCAN_NAMESERVERS"]

/-- The environment variables that are set. -/
def readEnvironment : IO Settings.Environment := do
  let mut env := []
  for name in settingNames do
    if let some value ← IO.getEnv name then
      env := env ++ [(name.toList, value.toList)]
  return env

def readFile (path : Text) : IO (Except OpenError (List UInt8)) := do
  try
    let bytes ← IO.FS.readBinFile (String.ofList path)
    return .ok bytes.toList
  catch
    | .noFileOrDirectory .. => return .error .notFound
    | .inappropriateType .. => return .error .isADirectory
    | _ => return .error .notADirectory

def printEntry (e : Log.Entry) : IO Unit :=
  IO.eprintln ("[" ++ e.topic ++ "] " ++ e.level.name ++ ": " ++ e.text)

end SelectorScan

open SelectorScan CommandLine in
/-- Runs the program. -/
def main (given : List String) : IO UInt32 := do
  let given := given.map String.toList
  let path := match readArguments given with
    | .ok a => a.rules.getD []
    | .error _ => []
  let file ← readFile path
  let outcome := program {
    environment := ← readEnvironment
    openFile := fun _ => file
    archive := .failed "no connection".toList
    zone := ⟨[], false⟩
    sheet := none } given
  outcome.entries.forM printEntry
  if outcome.sheet.isSome then
    IO.eprintln "Spreadsheets cannot be written."
    return 1
  IO.print (String.ofList outcome.output)
  IO.eprint (String.ofList outcome.errors)
  if let some text := outcome.csv then
    IO.FS.writeFile "output.csv" (String.ofList text)
  match outcome.ending with
  | .exit status => return status.toUInt32
  | .failure _ => return 1
