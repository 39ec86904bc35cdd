import LedgerSync.Binary.Double
import LedgerSync.Binary.Fixed
import LedgerSync.Calendar.Date
import LedgerSync.Calendar.Iso
import LedgerSync.Calendar.Loose
import LedgerSync.Calendar.Moment
import LedgerSync.Calendar.Regions
import LedgerSync.Calendar.Zone
import LedgerSync.CommandLine.Arguments
import LedgerSync.CommandLine.Run
import LedgerSync.CommandLine.Screen
import LedgerSync.Config.File
import LedgerSync.Config.Merge
import LedgerSync.Config.Settings
import LedgerSync.Config.Shape
import LedgerSync.Config.Value
import LedgerSync.Csv.Cell
import LedgerSync.Csv.Digest
import LedgerSync.Csv.Encoding
import LedgerSync.Csv.File
import LedgerSync.Csv.Lexer
import LedgerSync.Csv.Reader
import LedgerSync.Csv.Reported
import LedgerSync.Csv.Standard
import LedgerSync.Csv.Stored
import LedgerSync.Csv.Table
import LedgerSync.Decimal.Basic
import LedgerSync.Decimal.Context
import LedgerSync.Decimal.Read
import LedgerSync.Decimal.Write
import LedgerSync.Disk.Basic
import LedgerSync.Disk.Path
import LedgerSync.Failure
import LedgerSync.Journal
import LedgerSync.Logging.Line
import LedgerSync.Logging.Setup
import LedgerSync.Main
import LedgerSync.Matching.Attribute
import LedgerSync.Matching.Chain
import LedgerSync.Matching.Interval
import LedgerSync.Matching.Matcher
import LedgerSync.Matching.Provider
import LedgerSync.Matching.Result
import LedgerSync.Matching.Selector
import LedgerSync.Matching.Summary
import LedgerSync.Matching.Window
import LedgerSync.Report.Listing
import LedgerSync.Report.Report
import LedgerSync.Report.Workbook
import LedgerSync.Sync.ChainSync
import LedgerSync.Sync.Export
import LedgerSync.Sync.Heuristic
import LedgerSync.Sync.Index
import LedgerSync.Sync.Instruction
import LedgerSync.Sync.Service
import LedgerSync.Sync.Settings
import LedgerSync.Sync.Store
import LedgerSync.Sync.StoredWindow
import LedgerSync.Text.Blank
import LedgerSync.Text.Case
import LedgerSync.Text.Column
import LedgerSync.Text.Digit
import LedgerSync.Text.Integer
import LedgerSync.Text.Quoted
import LedgerSync.Text.Template
import LedgerSync.Transaction.Amount
import LedgerSync.Transaction.Derive
import LedgerSync.Transaction.Kind
import LedgerSync.Transaction.Record
import LedgerSync.Transaction.View
import LedgerSync.Uuid
import LedgerSync.Yaml.Document
import LedgerSync.Yaml.Scalar
import LedgerSync.Yaml.Text
import LedgerSync.Yaml.Token
import LedgerSync.Yaml.Writer
import LedgerSync.Proofs.Calendar.Extremes
import LedgerSync.Proofs.Calendar.Changes
import LedgerSync.Proofs.Calendar.SameMoment
import LedgerSync.Proofs.Calendar.Order
import LedgerSync.Proofs.Run
import LedgerSync.Proofs.Store.Rows
import LedgerSync.Proofs.Store.Plan
import LedgerSync.Proofs.Store.Records
import LedgerSync.Proofs.Sync.LiveMembers
import LedgerSync.Proofs.Sync.HeuristicPlan
import LedgerSync.Proofs.Matching.Keys
import LedgerSync.Proofs.Matching.Groups
import LedgerSync.Proofs.Matching.Rounds
import LedgerSync.Proofs.Sync.ChainRun
import LedgerSync.Proofs.Sync.Selection
import LedgerSync.Proofs.Sync.ChainPlan
import LedgerSync.Proofs.Sync.Session
import LedgerSync.Proofs.Matching.Verdicts
import LedgerSync.Proofs.Sync.Ambiguity
import LedgerSync.Proofs.Decimal.Cents
import LedgerSync.Proofs.Transaction.Unchanged
import LedgerSync.Proofs.Sync.LiveSlots
import LedgerSync.Proofs.Sync.OwnSlots
import LedgerSync.Proofs.Sync.RecordWindow
import LedgerSync.Proofs.Sync.Minimality
import LedgerSync.Proofs.Matching.Lone
import LedgerSync.Proofs.Matching.Completion
import LedgerSync.Proofs.Matching.Conservation
import LedgerSync.Proofs.Matching.Joining
import LedgerSync.Proofs.Matching.Bookkeeping
import LedgerSync.Proofs.Matching.Relations
import LedgerSync.Proofs.Matching.WindowCuts
import LedgerSync.Proofs.Matching.WindowChoice
import LedgerSync.Proofs.Matching.Doubles
import LedgerSync.Proofs.Matching.Mirrors
import LedgerSync.Proofs.Matching.Retracing
import LedgerSync.Proofs.Matching.Fallbacks
import LedgerSync.Proofs.Sync.Repetition
import LedgerSync.Proofs.Sync.Absorbed
import LedgerSync.Proofs.Sync.ChainRepeat
import LedgerSync.Proofs.Failing
import LedgerSync.Proofs.Drawing
import LedgerSync.Proofs.Sync.Acceptance
import LedgerSync.Proofs.Sync.NothingStored
import LedgerSync.Proofs.Sync.SingleUse
import LedgerSync.Proofs.Sync.ChainFates
import LedgerSync.Proofs.Sync.ChainChecks
import LedgerSync.Proofs.Sync.BookedRows
import LedgerSync.Proofs.Matching.Reordering
import LedgerSync.Proofs.Sync.IdCounts
import LedgerSync.Proofs.Sync.Reordering
import LedgerSync.Proofs.Sync.WindowBounds
import LedgerSync.Proofs.Matching.Partners
import LedgerSync.Proofs.Sync.PartnerWalk
import LedgerSync.Proofs.Sync.Agreement
import LedgerSync.Proofs.Sync.OldestChange
import LedgerSync.Proofs.Decimal.Value
import LedgerSync.Proofs.Decimal.WholeCents
import LedgerSync.Proofs.Decimal.Precision
import LedgerSync.Proofs.Transaction.SignedCents
import LedgerSync.Proofs.Sync.Stages
import LedgerSync.Proofs.Sync.MatchSoundness
import LedgerSync.Proofs.Transaction.KeptAlike
import LedgerSync.Proofs.Sync.OptimisticPicks
import LedgerSync.Proofs.Matching.DerivedView
import LedgerSync.Proofs.Matching.ComparedFields
import LedgerSync.Proofs.Sync.PlainIndex
import LedgerSync.Proofs.Sync.KeptKeys
import LedgerSync.Proofs.Sync.Counters
import LedgerSync.Proofs.Sync.Numbering
import LedgerSync.Proofs.Sync.NumberedIds
import LedgerSync.Proofs.Matching.Readings
import LedgerSync.Proofs.Sync.ChainFailures
import LedgerSync.Proofs.Sync.ChainCounters
import LedgerSync.Proofs.Sync.SpentIds
import LedgerSync.Proofs.Transaction.LocalTime
import LedgerSync.Proofs.Matching.Tables
import LedgerSync.Proofs.Matching.ShownParts
import LedgerSync.Proofs.Matching.Layers
import LedgerSync.Proofs.Config.Overlay
import LedgerSync.Proofs.Csv.PhysicalLines
import LedgerSync.Proofs.Csv.StandardReader
import LedgerSync.Proofs.Csv.RowFailures
