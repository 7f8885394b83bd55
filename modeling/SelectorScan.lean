import SelectorScan.Candidate.Guarded
import SelectorScan.Candidate.Product
import SelectorScan.KeyRecord.Spelling
import SelectorScan.Main
import SelectorScan.Proofs.Candidate.Characters
import SelectorScan.Proofs.Candidate.Composition
import SelectorScan.Proofs.Candidate.File
import SelectorScan.Proofs.Candidate.Guarded
import SelectorScan.Proofs.Candidate.Labels
import SelectorScan.Proofs.Candidate.Layout
import SelectorScan.Proofs.Candidate.Range
import SelectorScan.Proofs.Candidate.Stream
import SelectorScan.Proofs.Candidate.Walk
import SelectorScan.Proofs.CommandLine.DryRun
import SelectorScan.Proofs.Dns.Name
import SelectorScan.Proofs.Domain
import SelectorScan.Proofs.Json
import SelectorScan.Proofs.Key.Acceptance
import SelectorScan.Proofs.Key.Base64
import SelectorScan.Proofs.Key.Der
import SelectorScan.Proofs.Key.Finding
import SelectorScan.Proofs.Key.Pem
import SelectorScan.Proofs.Key.PublicKey
import SelectorScan.Proofs.KeyRecord.Append
import SelectorScan.Proofs.KeyRecord.Dictionary
import SelectorScan.Proofs.KeyRecord.Garbage
import SelectorScan.Proofs.KeyRecord.Padding
import SelectorScan.Proofs.KeyRecord.Spelling
import SelectorScan.Proofs.KeyRecord.TagList
import SelectorScan.Proofs.Lookup.Accounts
import SelectorScan.Proofs.Lookup.Alike
import SelectorScan.Proofs.Lookup.Attempts
import SelectorScan.Proofs.Lookup.Calls
import SelectorScan.Proofs.Lookup.Client
import SelectorScan.Proofs.Lookup.Completion
import SelectorScan.Proofs.Lookup.FailedRun
import SelectorScan.Proofs.Lookup.Flight
import SelectorScan.Proofs.Lookup.Line
import SelectorScan.Proofs.Lookup.Prompt
import SelectorScan.Proofs.Lookup.Question
import SelectorScan.Proofs.Lookup.Retries
import SelectorScan.Proofs.Lookup.Run
import SelectorScan.Proofs.Lookup.Slots
import SelectorScan.Proofs.Lookup.Zone
import SelectorScan.Proofs.Number.Binary64
import SelectorScan.Proofs.Number.Integer
import SelectorScan.Proofs.Number.Padded
import SelectorScan.Proofs.Report.Column
import SelectorScan.Proofs.Report.Csv
import SelectorScan.Proofs.Report.Sheet
import SelectorScan.Proofs.Rule.Compile
import SelectorScan.Proofs.Rule.Composition
import SelectorScan.Proofs.Rule.Directive
import SelectorScan.Proofs.Rule.Pair
import SelectorScan.Proofs.Scan.Archive
import SelectorScan.Proofs.Scan.Order
import SelectorScan.Proofs.Scan.Sweep
import SelectorScan.Proofs.Session.Findings
import SelectorScan.Proofs.Session.Inspection
import SelectorScan.Proofs.Session.Order
import SelectorScan.Proofs.Session.Recovery
import SelectorScan.Proofs.Session.Selector
import SelectorScan.Rule.Source
