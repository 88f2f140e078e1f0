import Waypost.Bulk.Basic
import Waypost.Bulk.FanOut
import Waypost.Decimal.Exact
import Waypost.Decimal.Limit
import Waypost.Decimal.Reader
import Waypost.Decimal.Rounding
import Waypost.Decimal.Shortest
import Waypost.Document.Errors
import Waypost.Document.Moment
import Waypost.Document.Route
import Waypost.Document.Track
import Waypost.Document.TrackTimes
import Waypost.Document.Xml
import Waypost.Engine
import Waypost.Fault.Basic
import Waypost.Fault.Mismatch
import Waypost.Fault.Refusal
import Waypost.Geo.Distance
import Waypost.Geo.Point
import Waypost.Geo.Polyline
import Waypost.Hints.Basic
import Waypost.Hints.Key
import Waypost.Hints.Query
import Waypost.Hints.Value
import Waypost.Host.Composition
import Waypost.Host.CompositionTable
import Waypost.Host.DirectionTable
import Waypost.Host.Label
import Waypost.Host.LetterTable
import Waypost.Host.MarkTable
import Waypost.Host.Name
import Waypost.Host.Numeric
import Waypost.Host.Punycode
import Waypost.Http.Address
import Waypost.Http.App
import Waypost.Http.Coding
import Waypost.Http.Endpoint
import Waypost.Http.Exchange
import Waypost.Http.Message
import Waypost.Http.Pattern
import Waypost.Http.Percent
import Waypost.Http.Redirect
import Waypost.Http.Status
import Waypost.Json.Basic
import Waypost.Json.Document
import Waypost.Json.Reader
import Waypost.Json.Shape
import Waypost.Json.Shown
import Waypost.Json.Writer
import Waypost.Number
import Waypost.Osrm.Answer
import Waypost.Osrm.Call
import Waypost.Osrm.Details
import Waypost.Osrm.Engine
import Waypost.Osrm.Instructions
import Waypost.Outcome
import Waypost.Packing.Bits
import Waypost.Packing.Code
import Waypost.Packing.Inflate
import Waypost.Packing.Wrapped
import Waypost.Request.Basic
import Waypost.Request.Build
import Waypost.Request.Profile
import Waypost.Run
import Waypost.Schema.Body
import Waypost.Schema.Check
import Waypost.Schema.Query
import Waypost.Schema.Scalar
import Waypost.Service.Basic
import Waypost.Service.Batch
import Waypost.Service.Response
import Waypost.Service.Route
import Waypost.Settings
import Waypost.Text.Codec
import Waypost.Text.Blank
import Waypost.Text.Case
import Waypost.Text.CaseTable
import Waypost.Text.CharSet
import Waypost.Text.Digit
import Waypost.Text.Encoding
import Waypost.Text.Hex
import Waypost.Text.Point
import Waypost.Text.PrintableTable
import Waypost.Text.Quoted
import Waypost.Text.Split
import Waypost.Text.Utf8
import Waypost.Proofs.Run
import Waypost.Proofs.Bulk.Isolation
import Waypost.Proofs.Fault.Steps
import Waypost.Proofs.Hints.Map
import Waypost.Proofs.Request.WellBuilt
import Waypost.Proofs.Hints.Query
import Waypost.Proofs.Request.ChosenProfile
import Waypost.Proofs.Service.Answer
import Waypost.Proofs.Service.HandOver
import Waypost.Proofs.Service.Gate
import Waypost.Proofs.Service.Elevation
import Waypost.Proofs.Hints.Key
import Waypost.Proofs.Hints.Entries
import Waypost.Proofs.Request.Parity
import Waypost.Proofs.Document.Route
import Waypost.Proofs.Service.SingleLeg
import Waypost.Proofs.Text.Plain
import Waypost.Proofs.Schema.Parameters
import Waypost.Proofs.Hints.Overlong
import Waypost.Proofs.Decimal.Digits
import Waypost.Proofs.Decimal.Exact
import Waypost.Proofs.Service.BulkAnswer
import Waypost.Proofs.Decimal.Magnitude
import Waypost.Proofs.Decimal.Whole
import Waypost.Proofs.Document.Rounded
import Waypost.Proofs.Document.Moments
import Waypost.Proofs.Request.OwnFaults
import Waypost.Proofs.Service.SingleAnswer
import Waypost.Proofs.Geo.Coordinate
import Waypost.Proofs.Document.Printable
import Waypost.Proofs.Osrm.Content
import Waypost.Proofs.Osrm.OwnFaults
import Waypost.Proofs.Osrm.Outcome
import Waypost.Proofs.Http.Settled
import Waypost.Proofs.Http.Sent
import Waypost.Proofs.Http.EngineAnswers
import Waypost.Proofs.Osrm.Shape
import Waypost.Proofs.Osrm.Classes
import Waypost.Proofs.Hints.History
import Waypost.Proofs.Document.Errors
import Waypost.Proofs.Service.Contract
import Waypost.Proofs.Geo.Polyline
import Waypost.Proofs.Document.ErrorForms
import Waypost.Proofs.Service.ErrorForm
import Waypost.Proofs.Http.ErrorForm
import Waypost.Proofs.Service.SameView
import Waypost.Proofs.Service.SameAnswer
import Waypost.Proofs.Document.Lines
import Waypost.Proofs.Tiling
import Waypost.Proofs.Osrm.TurnIntervals
import Waypost.Proofs.Document.TrackTimes
import Waypost.Proofs.Decimal.Order
import Waypost.Proofs.Decimal.Sums
import Waypost.Proofs.Decimal.Shares
import Waypost.Proofs.Geo.Distance
import Waypost.Proofs.Document.Rising
import Waypost.Proofs.Osrm.TrackRises
import Waypost.Proofs.Number
import Waypost.Proofs.Osrm.DetailRuns
import Waypost.Proofs.Hints.Grouping
import Waypost.Proofs.Decimal.Shown
import Waypost.Proofs.Hints.Echo
import Waypost.Proofs.Request.Resolution
import Waypost.Proofs.Decimal.Notation
import Waypost.Proofs.Text.LetterCase
import Waypost.Proofs.Decimal.Range
import Waypost.Proofs.Hints.Coercion
import Waypost.Proofs.Hints.Getters
import Waypost.Proofs.Text.Encodable
import Waypost.Proofs.Text.Joined
import Waypost.Proofs.Osrm.CallLists
import Waypost.Proofs.Osrm.Sending
import Waypost.Proofs.Text.Stripped
import Waypost.Proofs.Settings
import Waypost.Proofs.Document.Switches
import Waypost.Proofs.Document.Escaping
import Waypost.Proofs.Document.Markup
import Waypost.Proofs.Document.ErrorMarkup
import Waypost.Proofs.Document.TrackParts
import Waypost.Proofs.Document.TrackStructure
