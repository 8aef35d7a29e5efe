import ContestExchange.Capture.Action
import ContestExchange.Capture.Drive
import ContestExchange.Capture.Log
import ContestExchange.Capture.Record
import ContestExchange.Capture.Request
import ContestExchange.Capture.Session
import ContestExchange.Capture.Settings
import ContestExchange.Console.Arguments
import ContestExchange.Console.Display
import ContestExchange.Console.Engine
import ContestExchange.Console.KeyLine
import ContestExchange.Console.Operator
import ContestExchange.Console.Program
import ContestExchange.Console.Screen
import ContestExchange.Console.Simulation
import ContestExchange.Console.Terminal
import ContestExchange.Document.Conversion
import ContestExchange.Document.Flow
import ContestExchange.Document.Form
import ContestExchange.Document.Moment
import ContestExchange.Document.Value
import ContestExchange.Document.Written
import ContestExchange.Exchange.Buffer
import ContestExchange.Exchange.Contact
import ContestExchange.Exchange.Editor
import ContestExchange.Exchange.Grid
import ContestExchange.Exchange.Key
import ContestExchange.Exchange.Multiplier
import ContestExchange.Exchange.Placement
import ContestExchange.Exchange.Rule
import ContestExchange.Exchange.Serial
import ContestExchange.Exchange.Symbol
import ContestExchange.Exchange.Template
import ContestExchange.Extraction.Call
import ContestExchange.Extraction.Extractor
import ContestExchange.Extraction.Result
import ContestExchange.Extraction.SectionCode
import ContestExchange.Extraction.SerialNumber
import ContestExchange.Extraction.Sweepstakes
import ContestExchange.Extraction.Zone
import ContestExchange.Fault
import ContestExchange.Main
import ContestExchange.Morse.Code
import ContestExchange.Morse.Keying
import ContestExchange.Morse.Message
import ContestExchange.Morse.Outbox
import ContestExchange.Morse.Report
import ContestExchange.Morse.Sidetone
import ContestExchange.Morse.Speed
import ContestExchange.Number.Decimal
import ContestExchange.Number.Double
import ContestExchange.Number.Literal
import ContestExchange.Number.Quantity
import ContestExchange.Proofs.Announcement
import ContestExchange.Proofs.AppliedCorrection
import ContestExchange.Proofs.CallCorrection
import ContestExchange.Proofs.CaptureCalls
import ContestExchange.Proofs.CaptureDisplay
import ContestExchange.Proofs.CaptureFault
import ContestExchange.Proofs.Completion
import ContestExchange.Proofs.CompletionGate
import ContestExchange.Proofs.Keystroke
import ContestExchange.Proofs.Line
import ContestExchange.Proofs.LineEdit
import ContestExchange.Proofs.NormalForm
import ContestExchange.Proofs.NumberText
import ContestExchange.Proofs.Occurrence
import ContestExchange.Proofs.Reading
import ContestExchange.Proofs.SectionForm
import ContestExchange.Proofs.SerialPadding
import ContestExchange.Proofs.SessionReading
import ContestExchange.Proofs.SessionRestart
import ContestExchange.Proofs.SessionRun
import ContestExchange.Proofs.SessionState
import ContestExchange.Proofs.SessionStep
import ContestExchange.Proofs.SingleField
import ContestExchange.Proofs.SweepstakesForm
import ContestExchange.Proofs.TableLookup
import ContestExchange.Proofs.TableMultiplier
import ContestExchange.Proofs.TemplateOrder
import ContestExchange.Proofs.ValueText
import ContestExchange.Proofs.WayOut
import ContestExchange.Sequence
import ContestExchange.Station.Config
import ContestExchange.Station.ConfigPart
import ContestExchange.Station.Path
import ContestExchange.Station.Place
import ContestExchange.Station.RuleBook
import ContestExchange.Station.Store
import ContestExchange.Station.TemplateFile
import ContestExchange.Text.Basic
import ContestExchange.Text.Blank
import ContestExchange.Text.Capital
import ContestExchange.Text.Column
import ContestExchange.Text.Digit
import ContestExchange.Text.Encoding
import ContestExchange.Text.Letter
import ContestExchange.Text.Line
import ContestExchange.Text.Printable
import ContestExchange.Proofs.CallScan
import ContestExchange.Proofs.ZoneFields
import ContestExchange.Proofs.SweepstakesFields
import ContestExchange.Proofs.SerialSection
import ContestExchange.Proofs.RuleMerge
import ContestExchange.Proofs.CapitalForm
import ContestExchange.Proofs.ConfigRange
import ContestExchange.Proofs.ConfigRestore
import ContestExchange.Proofs.MessageSlot
import ContestExchange.Proofs.Recall
import ContestExchange.Proofs.RuleFault
import ContestExchange.Proofs.StoreWrite
import ContestExchange.Proofs.Decoding
import ContestExchange.Proofs.Window
import ContestExchange.Proofs.TypedSerial
import ContestExchange.Proofs.Group
import ContestExchange.Proofs.LastSection
import ContestExchange.Proofs.LastCall
import ContestExchange.Proofs.SplitLine
import ContestExchange.Proofs.ThreePlaces
import ContestExchange.Proofs.CallShape
import ContestExchange.Proofs.DigitRun
import ContestExchange.Proofs.SerialRun
import ContestExchange.Proofs.Refusal
import ContestExchange.Proofs.TemplateGroup
import ContestExchange.Proofs.KeyItem
import ContestExchange.Proofs.MultiplierList
import ContestExchange.Proofs.TableReference
import ContestExchange.Proofs.Words
import ContestExchange.Proofs.MessageLength
import ContestExchange.Proofs.LocatedWindow
import ContestExchange.Morse.Playback
import ContestExchange.Proofs.PendingMessages
import ContestExchange.Proofs.SessionNotes
import ContestExchange.Proofs.LatestNotes
import ContestExchange.Proofs.DoubleRange
import ContestExchange.Proofs.RenderedKeying
