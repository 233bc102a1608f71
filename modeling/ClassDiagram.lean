import ClassDiagram.Check.Field
import ClassDiagram.Check.Filter
import ClassDiagram.Check.Problem
import ClassDiagram.Check.Symbol
import ClassDiagram.CommandLine.Draw
import ClassDiagram.CommandLine.Invocation
import ClassDiagram.CommandLine.Log
import ClassDiagram.CommandLine.Option
import ClassDiagram.CommandLine.Run
import ClassDiagram.Decimal.Binary64
import ClassDiagram.Decimal.Shortest
import ClassDiagram.Diagram.Edge
import ClassDiagram.Diagram.Line
import ClassDiagram.Diagram.Render
import ClassDiagram.Filter.Draft
import ClassDiagram.Filter.Dump
import ClassDiagram.Filter.Making
import ClassDiagram.Filter.Policy
import ClassDiagram.Filter.Rule
import ClassDiagram.Json.Basic
import ClassDiagram.Json.Grammar
import ClassDiagram.Json.Lenient
import ClassDiagram.Json.Numeral
import ClassDiagram.Json.Strict
import ClassDiagram.Json.Token
import ClassDiagram.Json.Writer
import ClassDiagram.Load.File
import ClassDiagram.Load.FileTree
import ClassDiagram.Load.Text
import ClassDiagram.Main
import ClassDiagram.Report.Display
import ClassDiagram.Report.Entry
import ClassDiagram.Report.Message
import ClassDiagram.Service.Body
import ClassDiagram.Service.Respond
import ClassDiagram.Session.Run
import ClassDiagram.Session.Stored
import ClassDiagram.Symbol.Basic
import ClassDiagram.Symbol.Distinct
import ClassDiagram.Symbol.Dump
import ClassDiagram.Symbol.Enumeration
import ClassDiagram.Text.Blank
import ClassDiagram.Text.Console
import ClassDiagram.Text.Dotted
import ClassDiagram.Text.Integer
import ClassDiagram.Text.Newline
import ClassDiagram.Text.Printable
import ClassDiagram.Text.Quoted
import ClassDiagram.Text.Ranges
import ClassDiagram.Text.Surrogate
import ClassDiagram.Text.Utf8
import ClassDiagram.Text.WideUnits
import ClassDiagram.Text.Width
import ClassDiagram.Proofs.Diagram.Block
import ClassDiagram.Proofs.Diagram.Recovery
import ClassDiagram.Proofs.Filter.Equivalence
import ClassDiagram.Proofs.Check.Exact
import ClassDiagram.Proofs.CommandLine.Plain
import ClassDiagram.Proofs.Service.Agreement
import ClassDiagram.Proofs.Diagram.Likeness
import ClassDiagram.Proofs.Filter.Meet
import ClassDiagram.Proofs.Check.Spelling
import ClassDiagram.Proofs.Session.RoundTrip
import ClassDiagram.Proofs.Diagram.Section
import ClassDiagram.Proofs.Diagram.Nesting
import ClassDiagram.Proofs.Session.Effect
import ClassDiagram.Proofs.Session.Distinct
import ClassDiagram.Proofs.Load.Write
import ClassDiagram.Proofs.CommandLine.Outcome
import ClassDiagram.Proofs.Session.Twin
import ClassDiagram.Proofs.Session.Snapshot
import ClassDiagram.Proofs.Filter.Namespace
import ClassDiagram.Proofs.Diagram.Account
import ClassDiagram.Proofs.CommandLine.Report
import ClassDiagram.Proofs.CommandLine.Conservation
import ClassDiagram.Proofs.Load.LineEnd
import ClassDiagram.Proofs.Check.Reading
import ClassDiagram.Proofs.Check.Repeated
import ClassDiagram.Proofs.Check.Fit
import ClassDiagram.Proofs.Session.Construction
import ClassDiagram.Proofs.Check.Configuration
import ClassDiagram.Proofs.Filter.Routes
