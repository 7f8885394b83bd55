import SelectorScan.CommandLine.Arguments
import SelectorScan.Rule.Builtin
import SelectorScan.Report.Console
import SelectorScan.Report.Csv
import SelectorScan.Report.Json
import SelectorScan.Report.Sheet
import SelectorScan.Scan

/-!
# The program

What the program does with its arguments, as a function: what it prints, writes and logs, and the
status it exits with. What it needs from outside, the environment, the rule file, the answers of
the net, and the sheet that may exist already, is given to it as a `World`.
-/

namespace SelectorScan.CommandLine

open Candidate

/-! ## The outside -/

/-- Why a file cannot be opened. -/
inductive OpenError where
  | notFound
  | notADirectory
  | isADirectory
deriving DecidableEq, Repr

def OpenError.description : OpenError → String
  | .notFound => "[Errno 2] No such file or directory"
  | .notADirectory => "[Errno 20] Not a directory"
  | .isADirectory => "[Errno 21] Is a directory"

/-- What the program needs from outside. -/
structure World where
  environment : Settings.Environment
  /-- The bytes of the file at a path. -/
  openFile : Text → Except OpenError (List UInt8)
  /-- The archive's reply. -/
  archive : Archive.Reply Point
  zone : Lookup.Zone
  /-- The sheet of earlier scans, if there is one. -/
  sheet : Option Report.Sheet.Rows

/-! ## The outcome -/

/-- What the program fails with when it does not end in order. -/
inductive Failure where
  /-- The rule file is not UTF-8, or a candidate to be printed is no text. -/
  | encoding
  /-- A token has no values. -/
  | expansion
deriving DecidableEq, Repr

/-- How the program ends. -/
inductive Ending where
  | exit (status : Nat)
  | failure (failure : Failure)
deriving DecidableEq, Repr

/-- What the program has done. -/
structure Outcome where
  ending : Ending
  /-- What it has printed. -/
  output : Text
  /-- What it has printed about errors, besides log entries. -/
  errors : Text
  queries : List (Text × Text)
  /-- The log entries that are shown. -/
  entries : List Log.Entry
  /-- The file of comma separated values, if it has been written. -/
  csv : Option Text
  /-- The sheet, if it has been written. -/
  sheet : Option Report.Sheet.Rows

def Outcome.plain (ending : Ending) (output errors : Text) (entries : List Log.Entry) : Outcome :=
  ⟨ending, output, errors, [], entries, none, none⟩

def programName : String := "dkimscan.py"

def linesText (lines : List String) : Text :=
  lines.flatMap fun line => line.toList ++ ['\n']

/-- The short description of the arguments, on a screen of 80 columns. -/
def usage : Text := linesText [
  "usage: dkimscan.py [-h] [-o \x7bstdout,json,csv,xls\x7d] [-c CONCURRENCY]",
  "                   [-r RETRIES] [-n NAMESERVERS] [--timeout TIMEOUT]",
  "                   [--archive] [--list] [-q] [-v]",
  "                   domain [rules]"]

/-- The description of the arguments. -/
def help : Text := usage ++ linesText [
  "",
  "DKIMScan — discover DKIM selectors for a domain by generating candidate",
  "selectors from template rules and looking up their public keys.",
  "",
  "positional arguments:",
  "  domain                Domain to scan, e.g. example.com",
  "  rules                 Rule file to generate selectors from (default: built-",
  "                        in rules)",
  "",
  "options:",
  "  -h, --help            show this help message and exit",
  "  -o \x7bstdout,json,csv,xls\x7d",
  "                        Output format: stdout, json, csv or xls (default:",
  "                        stdout).",
  "  -c CONCURRENCY, --concurrency CONCURRENCY",
  "                        Maximum DNS queries in flight (default: 2048)",
  "  -r RETRIES, --retries RETRIES",
  "                        Retries per query after a timeout or network error",
  "                        (default: 3)",
  "  -n NAMESERVERS, --nameserver NAMESERVERS",
  "                        Recursive resolver to query; repeat for several",
  "                        (default: 1.1.1.1, 1.0.0.1)",
  "  --timeout TIMEOUT     Timeout in seconds for a single query attempt",
  "                        (default: 5)",
  "  --archive             Also try selectors known to the public DKIM key",
  "                        archive (archive.prove.email)",
  "  --list                Print the generated candidate selectors instead of",
  "                        scanning",
  "  -q, --quiet           Only print the public keys found (same as QUIET=1)",
  "  -v, --verbose         Enable verbose/debug logging output"]

/-- The outcome of wrong arguments. -/
def usageOutcome (e : UsageError) (entries : List Log.Entry) : Outcome :=
  .plain (.exit 2) []
    (usage ++ programName.toList ++ ": error: ".toList ++ e.message ++ ['\n']) entries

/-! ## Steps -/

/-- The settings in the environment, overridden by the arguments, and the warnings about them. -/
def settings (w : World) (a : Arguments) : Settings × List Log.Entry :=
  let (settings, warnings) := Settings.ofEnvironment w.environment
  (settings.override {
    quiet := if a.quiet then some true else none
    concurrency := a.concurrency
    retries := a.retries
    timeout := a.timeout.map Lookup.Timeout.seconds
    nameservers := a.nameservers }, warnings)

/-- The domain to be scanned: without blanks around it, in lower case, without dots at its end. -/
def targetDomain (given : Text) : Text :=
  Text.trimEnd (· == '.') (Text.lower (Text.strip given))

/-- The lines of the rule file, or of the built-in one. -/
inductive Rules where
  | lines (lines : List Text)
  | unopened (path : Text) (error : OpenError)
  | notText

/-- Loads the rules, and tells about it. -/
def loadRules (w : World) (path : Option Text) : Rules × Log.Entry :=
  match path with
  | none => (.lines Rule.builtinLines, .plain "dkimscan.rules" .debug "Using built-in rules")
  | some path =>
    (match w.openFile path with
      | .error e => .unopened path e
      | .ok bytes =>
        match Rule.linesOfBytes? bytes with
        | some lines => .lines lines
        | none => .notText,
      .plain "dkimscan.rules" .debug ("Loading rules from " ++ String.ofList path))

/-- What is said about a file that cannot be opened. -/
def unopenedMessage (path : Text) (e : OpenError) : Text :=
  "Could not open '".toList ++ path ++ "': ".toList ++ e.description.toList ++ ": ".toList ++
    Text.quoted path ++ ['\n']

/-- The end of the program after a fault in the candidates, and the entry about it. -/
def faultEnding : Fault → Ending × List Log.Entry
  | .rule e => (.exit 1, [.plain "dkimscan" .error ("Bad rule, aborting: " ++ e.message)])
  | .expansion _ => (.failure .expansion, [])

def isPrintable : Item → Bool
  | .note _ => true
  | .candidate selector => selector.text?.isSome

def itemNotes (items : List Item) : List Log.Entry :=
  items.filterMap fun
    | .note entry => some entry
    | .candidate _ => none

/-- Lists the candidates, up to the first one that cannot be printed. -/
def listCandidates (domain : Text) (lines : List Text) : Outcome :=
  let c := (Stream.ofLines lines).items ⟨domain⟩
  let items := c.items.takeWhile isPrintable
  let texts := (items.filterMap Item.selector?).filterMap Points.text?
  let outcome (ending : Ending) (entries : List Log.Entry) : Outcome :=
    .plain ending (Report.candidates texts) [] (itemNotes items ++ entries)
  if items.length < c.items.length then outcome (.failure .encoding) []
  else
    match c.fault with
    | none => outcome (.exit 0) [Report.listedNote texts.length]
    | some fault => outcome (faultEnding fault).1 (faultEnding fault).2

/-- What is printed about the findings of a scan that has ended in order. -/
def printed (a : Arguments) (quiet : Bool) (domain : Text) (findings : List Key.Finding) : Text :=
  match a.output with
  | .console =>
    findings.flatMap (fun f => Report.finding f quiet) ++
      (if quiet then [] else Report.total findings.length domain)
  | .json => Report.Json.write findings ++ ['\n']
  | .csv => if findings.isEmpty then [] else "Results written to output.csv\n".toList
  | .sheet => if findings.isEmpty then [] else "Results written to output.xlsx\n".toList

def reportScan (w : World) (a : Arguments) (quiet : Bool) (domain : Text) (r : Scan.Result) :
    Outcome :=
  let findings := r.session.findings
  match r.fault with
  | some fault =>
    let (ending, entries) := faultEnding fault
    let output := match a.output with
      | .console => findings.flatMap fun f => Report.finding f quiet
      | _ => []
    ⟨ending, output, [], r.queries, r.entries ++ entries, none, none⟩
  | none =>
    ⟨.exit 0, printed a quiet domain findings, [], r.queries, r.entries,
      if a.output = .csv then Report.Csv.file? findings else none,
      if a.output = .sheet ∧ !findings.isEmpty then some (Report.Sheet.write w.sheet findings)
      else none⟩

def scanCandidates (w : World) (a : Arguments) (s : Settings) (domain : Text) (lines : List Text) :
    Outcome :=
  match Scan.run ⟨domain, lines, s, if a.archive then some w.archive else none, w.zone⟩ with
  | .error .noSlots => usageOutcome .noConcurrency []
  | .error (.archive error) => .plain (.exit 1) [] (error.toList ++ ['\n']) []
  | .ok result => reportScan w a s.quiet domain result

def withRules (w : World) (a : Arguments) (s : Settings) (lines : List Text) : Outcome :=
  let domain := targetDomain (a.domain.getD [])
  if a.list then listCandidates domain lines else scanCandidates w a s domain lines

def Outcome.after (entries : List Log.Entry) (o : Outcome) : Outcome :=
  { o with entries := entries ++ o.entries }

/-- What the program does once its arguments are read. -/
def withArguments (w : World) (a : Arguments) : Outcome :=
  let (s, warnings) := settings w a
  if s.concurrency < 1 then usageOutcome .noConcurrency warnings
  else
    let (rules, note) := loadRules w a.rules
    (match rules with
      | .unopened path e => Outcome.plain (.exit 1) [] (unopenedMessage path e) []
      | .notText => Outcome.plain (.failure .encoding) [] [] []
      | .lines lines => withRules w a s lines).after (warnings ++ [note])

/-- What the program does, all log entries included. -/
def perform (w : World) (given : List Text) : Outcome × Bool :=
  match readArguments given with
  | .error .help => (.plain (.exit 0) help [] [], false)
  | .error (.error e) => (usageOutcome e [], false)
  | .ok a => (withArguments w a, a.verbose)

/-- What the program does. Log entries below warnings are shown only when it is told to be
verbose. -/
def program (w : World) (given : List Text) : Outcome :=
  let (outcome, verbose) := perform w given
  { outcome with
    entries := Log.atLeast (if verbose then .debug else .warning) outcome.entries }

end SelectorScan.CommandLine
