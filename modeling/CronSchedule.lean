import CronSchedule.Ascending
import CronSchedule.Association
import CronSchedule.Calendar.Clock
import CronSchedule.Calendar.Date
import CronSchedule.Calendar.Duration
import CronSchedule.Calendar.Epoch
import CronSchedule.Calendar.IsoText
import CronSchedule.Calendar.Moment
import CronSchedule.Calendar.Reading
import CronSchedule.Calendar.Zone
import CronSchedule.CommandLine.Command
import CronSchedule.CommandLine.Commands
import CronSchedule.CommandLine.Display
import CronSchedule.CommandLine.Failure
import CronSchedule.CommandLine.Passage
import CronSchedule.CommandLine.Run
import CronSchedule.CommandLine.Steps
import CronSchedule.CommandLine.Work
import CronSchedule.Datum.Basic
import CronSchedule.Datum.Json
import CronSchedule.Datum.JsonString
import CronSchedule.Debouncer
import CronSchedule.Description.Fragment
import CronSchedule.Description.Idiom
import CronSchedule.Description.Rereading
import CronSchedule.Description.Sentence
import CronSchedule.Draft.Basic
import CronSchedule.Draft.Call
import CronSchedule.Draft.Selection
import CronSchedule.Draft.Setter
import CronSchedule.Exception
import CronSchedule.Expression.Account
import CronSchedule.Expression.Basic
import CronSchedule.Expression.Field
import CronSchedule.Expression.FieldMap
import CronSchedule.Expression.Matching
import CronSchedule.Expression.Rejection
import CronSchedule.Expression.Report
import CronSchedule.Host.Arguments
import CronSchedule.Host.ControlSequence
import CronSchedule.Host.Cut
import CronSchedule.Host.IntegerText
import CronSchedule.Host.Markup
import CronSchedule.Host.Options
import CronSchedule.Host.Picture
import CronSchedule.Host.PictureNames
import CronSchedule.Host.Program
import CronSchedule.Host.Substitution
import CronSchedule.Host.Table
import CronSchedule.Host.Width
import CronSchedule.Host.Wrap
import CronSchedule.Host.Yaml
import CronSchedule.Host.Zones
import CronSchedule.Locale
import CronSchedule.Locale.Names
import CronSchedule.Log.Journal
import CronSchedule.Log.Level
import CronSchedule.Log.Logger
import CronSchedule.Log.Record
import CronSchedule.Log.Setup
import CronSchedule.Main
import CronSchedule.Message.Catalog
import CronSchedule.Message.Pattern
import CronSchedule.Message.Template
import CronSchedule.Number.Binary64
import CronSchedule.Number.DecimalText
import CronSchedule.Number.Numeral
import CronSchedule.Number.Quotient
import CronSchedule.Number.Shortest
import CronSchedule.Occurrence.Search
import CronSchedule.Occurrence.Walk
import CronSchedule.Preset
import CronSchedule.Proofs.Association
import CronSchedule.Proofs.Calendar.DayNumber
import CronSchedule.Proofs.Calendar.Duration
import CronSchedule.Proofs.Calendar.Instant
import CronSchedule.Proofs.Calendar.IsoText
import CronSchedule.Proofs.Calendar.Recurrence
import CronSchedule.Proofs.Calendar.TimeLine
import CronSchedule.Proofs.CommandLine.Agreement
import CronSchedule.Proofs.CommandLine.Ending
import CronSchedule.Proofs.CommandLine.Reference
import CronSchedule.Proofs.Datum.Escape
import CronSchedule.Proofs.Datum.Line
import CronSchedule.Proofs.Datum.Refusal
import CronSchedule.Proofs.Debouncer.LastResult
import CronSchedule.Proofs.Debouncer.LatestCall
import CronSchedule.Proofs.Description.Characters
import CronSchedule.Proofs.Description.Chinese
import CronSchedule.Proofs.Description.Clauses
import CronSchedule.Proofs.Description.Composition
import CronSchedule.Proofs.Description.Elements
import CronSchedule.Proofs.Description.English
import CronSchedule.Proofs.Description.Idioms
import CronSchedule.Proofs.Description.Keys
import CronSchedule.Proofs.Description.OpenSteps
import CronSchedule.Proofs.Description.Parts
import CronSchedule.Proofs.Description.Rereading
import CronSchedule.Proofs.Description.Topics
import CronSchedule.Proofs.Description.Vocabulary
import CronSchedule.Proofs.Description.Weekdays
import CronSchedule.Proofs.Draft.Frame
import CronSchedule.Proofs.Draft.Loading
import CronSchedule.Proofs.Draft.NumberLists
import CronSchedule.Proofs.Draft.Selections
import CronSchedule.Proofs.Draft.Slots
import CronSchedule.Proofs.Expression.Account
import CronSchedule.Proofs.Expression.Field
import CronSchedule.Proofs.Expression.Matching
import CronSchedule.Proofs.Expression.Modes
import CronSchedule.Proofs.Expression.NeverFires
import CronSchedule.Proofs.Expression.NormalForm
import CronSchedule.Proofs.Expression.Report
import CronSchedule.Proofs.Expression.Restriction
import CronSchedule.Proofs.Expression.Shape
import CronSchedule.Proofs.Expression.Strict
import CronSchedule.Proofs.Expression.Sunday
import CronSchedule.Proofs.Expression.Tokens
import CronSchedule.Proofs.Expression.Unread
import CronSchedule.Proofs.Expression.Values
import CronSchedule.Proofs.Expression.Verdict
import CronSchedule.Proofs.Log.Line
import CronSchedule.Proofs.Log.OneHandler
import CronSchedule.Proofs.Message.Pattern
import CronSchedule.Proofs.Message.Template
import CronSchedule.Proofs.Number.DecimalText
import CronSchedule.Proofs.Number.Rounding
import CronSchedule.Proofs.Occurrence.Decisive
import CronSchedule.Proofs.Occurrence.Due
import CronSchedule.Proofs.Occurrence.Ending
import CronSchedule.Proofs.Occurrence.Resolution
import CronSchedule.Proofs.Occurrence.Resume
import CronSchedule.Proofs.Occurrence.Steps
import CronSchedule.Proofs.Occurrence.Takes
import CronSchedule.Proofs.Occurrence.Window
import CronSchedule.Proofs.Outcome
import CronSchedule.Proofs.Settings.Acceptance
import CronSchedule.Proofs.Settings.Admission
import CronSchedule.Proofs.Settings.Failure
import CronSchedule.Proofs.Settings.Merging
import CronSchedule.Proofs.Settings.Window
import CronSchedule.Proofs.Text.Figures
import CronSchedule.Proofs.Text.Pieces
import CronSchedule.Proofs.Text.Units
import CronSchedule.Proofs.Text.Words
import CronSchedule.Proofs.Token.Blame
import CronSchedule.Proofs.Token.Expansion
import CronSchedule.Proofs.Token.Grammar
import CronSchedule.Proofs.Token.Leftmost
import CronSchedule.Proofs.Token.Listing
import CronSchedule.Proofs.Token.Overlong
import CronSchedule.Settings.Basic
import CronSchedule.Settings.ConfigFile
import CronSchedule.Settings.Definition
import CronSchedule.Settings.Environment
import CronSchedule.Settings.Source
import CronSchedule.Slot
import CronSchedule.Text.Blank
import CronSchedule.Text.CodeRange
import CronSchedule.Text.DecimalDigit
import CronSchedule.Text.Figures
import CronSchedule.Text.LowerCase
import CronSchedule.Text.Pieces
import CronSchedule.Text.Printable
import CronSchedule.Text.Quoted
import CronSchedule.Text.Units
import CronSchedule.Token.Answer
import CronSchedule.Token.Element
import CronSchedule.Token.Expansion
import CronSchedule.Token.Fault
import CronSchedule.Token.Reading
