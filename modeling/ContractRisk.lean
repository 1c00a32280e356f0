import ContractRisk.Abi
import ContractRisk.Abi.Reader
import ContractRisk.Address
import ContractRisk.Address.Keccak
import ContractRisk.Analysis.Pipeline
import ContractRisk.Analysis.Record
import ContractRisk.Analysis.Setup
import ContractRisk.Analyzer
import ContractRisk.Bytecode
import ContractRisk.Bytecode.Instruction
import ContractRisk.Bytecode.Proxy
import ContractRisk.Cache
import ContractRisk.Cache.Batch
import ContractRisk.Cache.Keeper
import ContractRisk.Cache.Shelf
import ContractRisk.Cache.Source
import ContractRisk.Cache.Traffic
import ContractRisk.Category
import ContractRisk.ContractName
import ContractRisk.Decimal.Binary
import ContractRisk.Decimal.Reading
import ContractRisk.Decimal.Rounding
import ContractRisk.Decimal.Shortest
import ContractRisk.Detector
import ContractRisk.Detector.DeceptiveEvents
import ContractRisk.Detector.FakeBalance
import ContractRisk.Detector.HiddenRedirection
import ContractRisk.Detector.Names
import ContractRisk.Detector.NonFunctionalTransfer
import ContractRisk.Detector.Summary
import ContractRisk.Failure
import ContractRisk.Finding
import ContractRisk.Finding.Reader
import ContractRisk.Json.Reader
import ContractRisk.Node
import ContractRisk.Number
import ContractRisk.Proofs.Abi.Items
import ContractRisk.Proofs.Abi.Reading
import ContractRisk.Proofs.Abi.Wire
import ContractRisk.Proofs.Address
import ContractRisk.Proofs.Address.Spellings
import ContractRisk.Proofs.Alike
import ContractRisk.Proofs.Analysis.Batches
import ContractRisk.Proofs.Analysis.Calls
import ContractRisk.Proofs.Analysis.Coherence
import ContractRisk.Proofs.Analysis.Completion
import ContractRisk.Proofs.Analysis.Courses
import ContractRisk.Proofs.Analysis.Findings
import ContractRisk.Proofs.Analysis.History
import ContractRisk.Proofs.Analysis.Keeping
import ContractRisk.Proofs.Analysis.Listed
import ContractRisk.Proofs.Analysis.Names
import ContractRisk.Proofs.Analysis.Ready
import ContractRisk.Proofs.Analysis.Spellings
import ContractRisk.Proofs.Analysis.Stages
import ContractRisk.Proofs.Analysis.Steady
import ContractRisk.Proofs.Analysis.Tallies
import ContractRisk.Proofs.Attempt
import ContractRisk.Proofs.Bytecode.BackwardSearch
import ContractRisk.Proofs.Bytecode.Boundaries
import ContractRisk.Proofs.Bytecode.Canonical
import ContractRisk.Proofs.Bytecode.Layout
import ContractRisk.Proofs.Bytecode.Spellings
import ContractRisk.Proofs.Bytecode.Sweep
import ContractRisk.Proofs.Bytecode.Templates
import ContractRisk.Proofs.Cache.Accounts
import ContractRisk.Proofs.Cache.Again
import ContractRisk.Proofs.Cache.Bookings
import ContractRisk.Proofs.Cache.Deeds
import ContractRisk.Proofs.Cache.Effort
import ContractRisk.Proofs.Cache.Events
import ContractRisk.Proofs.Cache.Flights
import ContractRisk.Proofs.Cache.Keeper
import ContractRisk.Proofs.Cache.Ledger
import ContractRisk.Proofs.Cache.Lone
import ContractRisk.Proofs.Cache.Members
import ContractRisk.Proofs.Cache.Outcomes
import ContractRisk.Proofs.Cache.Partition
import ContractRisk.Proofs.Cache.Progress
import ContractRisk.Proofs.Cache.Recency
import ContractRisk.Proofs.Cache.Replies
import ContractRisk.Proofs.Cache.Rollcall
import ContractRisk.Proofs.Cache.Rosters
import ContractRisk.Proofs.Cache.Rounds
import ContractRisk.Proofs.Cache.Scope
import ContractRisk.Proofs.Cache.Seats
import ContractRisk.Proofs.Cache.Shelf
import ContractRisk.Proofs.Cache.SingleFlight
import ContractRisk.Proofs.Cache.Sources
import ContractRisk.Proofs.Cache.Sparing
import ContractRisk.Proofs.Cache.Turns
import ContractRisk.Proofs.ContractName
import ContractRisk.Proofs.Detector.AppendedCode
import ContractRisk.Proofs.Detector.Attempted
import ContractRisk.Proofs.Detector.Evidence
import ContractRisk.Proofs.Detector.Gate
import ContractRisk.Proofs.Detector.NameCase
import ContractRisk.Proofs.Detector.Outcome
import ContractRisk.Proofs.Detector.PushedData
import ContractRisk.Proofs.Detector.RedirectionScan
import ContractRisk.Proofs.Detector.Reordering
import ContractRisk.Proofs.Detector.Score
import ContractRisk.Proofs.Detector.Selection
import ContractRisk.Proofs.Detector.StandardShapes
import ContractRisk.Proofs.Detector.StorageLess
import ContractRisk.Proofs.Detector.TransferWords
import ContractRisk.Proofs.Double.Arithmetic
import ContractRisk.Proofs.Double.Packing
import ContractRisk.Proofs.Double.Rounding
import ContractRisk.Proofs.Finding
import ContractRisk.Proofs.Fraction
import ContractRisk.Proofs.Keys
import ContractRisk.Proofs.Markup.Fragments
import ContractRisk.Proofs.Markup.Joints
import ContractRisk.Proofs.Node
import ContractRisk.Proofs.Number
import ContractRisk.Proofs.Scoring.Acceptance
import ContractRisk.Proofs.Scoring.Bounds
import ContractRisk.Proofs.Scoring.Heading
import ContractRisk.Proofs.Scoring.Layers
import ContractRisk.Proofs.Scoring.Monotone
import ContractRisk.Proofs.Scoring.Rearranged
import ContractRisk.Proofs.Scoring.Results
import ContractRisk.Proofs.Scoring.Undetected
import ContractRisk.Proofs.Settings
import ContractRisk.Proofs.Share
import ContractRisk.Proofs.Share.Doubles
import ContractRisk.Proofs.Share.Fractions
import ContractRisk.Proofs.ThreatList
import ContractRisk.Proofs.Url.DottedHost
import ContractRisk.Scoring.Aggregate
import ContractRisk.Scoring.Assessment
import ContractRisk.Scoring.Config
import ContractRisk.Scoring.Explanation
import ContractRisk.Scoring.Results
import ContractRisk.Search
import ContractRisk.Settings
import ContractRisk.Settings.EnvFile
import ContractRisk.Settings.Environment
import ContractRisk.Settings.Logging
import ContractRisk.Shape
import ContractRisk.Text.Blank
import ContractRisk.Text.Case
import ContractRisk.Text.CaseTable
import ContractRisk.Text.Decoding
import ContractRisk.Text.Digit
import ContractRisk.Text.PrintTable
import ContractRisk.Text.Quoted
import ContractRisk.Text.Range
import ContractRisk.Text.Word
import ContractRisk.Text.WordTable
import ContractRisk.ThreatList
import ContractRisk.Url
import ContractRisk.Url.IpAddress
import ContractRisk.Value
