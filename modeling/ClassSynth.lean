import ClassSynth.Batch.Conversion
import ClassSynth.Batch.JavaProject
import ClassSynth.Batch.Report
import ClassSynth.Batch.Sample
import ClassSynth.Batch.Synthesis
import ClassSynth.Batch.Workspace
import ClassSynth.Catalogue
import ClassSynth.ClassTree.Basic
import ClassSynth.ClassTree.Dictionary
import ClassSynth.ClassTree.Draft
import ClassSynth.ClassTree.FieldType
import ClassSynth.CommandLine.Binding
import ClassSynth.CommandLine.Command
import ClassSynth.CommandLine.Grammar
import ClassSynth.CommandLine.Help
import ClassSynth.CommandLine.Parse
import ClassSynth.CommandLine.Run
import ClassSynth.FileTree.Basic
import ClassSynth.FileTree.Change
import ClassSynth.FileTree.Operation
import ClassSynth.Identifier
import ClassSynth.Inference.Bench
import ClassSynth.Inference.Error
import ClassSynth.Inference.Options
import ClassSynth.Inference.Session
import ClassSynth.Inference.Synthesis
import ClassSynth.Java.Draft
import ClassSynth.Java.Layout
import ClassSynth.Java.Model
import ClassSynth.Java.Package
import ClassSynth.Java.ProjectFile
import ClassSynth.Java.RoundTripTest
import ClassSynth.Java.Source
import ClassSynth.Java.Template
import ClassSynth.Json.Equality
import ClassSynth.Json.Lexeme
import ClassSynth.Json.Printer
import ClassSynth.Json.Reader
import ClassSynth.Json.Value
import ClassSynth.Main
import ClassSynth.Number.Binary64
import ClassSynth.Number.Quantity
import ClassSynth.Number.Shortest
import ClassSynth.Path
import ClassSynth.Proofs.Batch.Conversion
import ClassSynth.Proofs.Batch.Delivery
import ClassSynth.Proofs.Batch.Document
import ClassSynth.Proofs.Batch.Independence
import ClassSynth.Proofs.Batch.Rejection
import ClassSynth.Proofs.Batch.Repetition
import ClassSynth.Proofs.Batch.Run
import ClassSynth.Proofs.Batch.Settlement
import ClassSynth.Proofs.Batch.Synthesis
import ClassSynth.Proofs.Batch.TopLevel
import ClassSynth.Proofs.Batch.UsableName
import ClassSynth.Proofs.ClassTree.Dictionary
import ClassSynth.Proofs.ClassTree.Draft
import ClassSynth.Proofs.ClassTree.Walk
import ClassSynth.Proofs.CommandLine.ExitStatus
import ClassSynth.Proofs.FileTree.Fault
import ClassSynth.Proofs.FileTree.Growth
import ClassSynth.Proofs.FileTree.Place
import ClassSynth.Proofs.Identifier
import ClassSynth.Proofs.IdentifierLanguage
import ClassSynth.Proofs.Inference.Acceptance
import ClassSynth.Proofs.Inference.Check
import ClassSynth.Proofs.Inference.Construction
import ClassSynth.Proofs.Inference.Failure
import ClassSynth.Proofs.Inference.FieldLookup
import ClassSynth.Proofs.Inference.FirstViolation
import ClassSynth.Proofs.Inference.KeyOrder
import ClassSynth.Proofs.Inference.Location
import ClassSynth.Proofs.Inference.Mirror
import ClassSynth.Proofs.Inference.NameTable
import ClassSynth.Proofs.Inference.Naming
import ClassSynth.Proofs.Inference.Noninterference
import ClassSynth.Proofs.Inference.Reference
import ClassSynth.Proofs.Inference.Session
import ClassSynth.Proofs.Inference.Skeleton
import ClassSynth.Proofs.Inference.Walk
import ClassSynth.Proofs.Java.Accessor
import ClassSynth.Proofs.Java.Bracket
import ClassSynth.Proofs.Java.Definition
import ClassSynth.Proofs.Java.Encoding
import ClassSynth.Proofs.Java.FieldName
import ClassSynth.Proofs.Java.Hiding
import ClassSynth.Proofs.Java.Import
import ClassSynth.Proofs.Java.ImportScan
import ClassSynth.Proofs.Java.KeyLiteral
import ClassSynth.Proofs.Java.LegalName
import ClassSynth.Proofs.Java.Lexical
import ClassSynth.Proofs.Java.Model
import ClassSynth.Proofs.Java.Occurrence
import ClassSynth.Proofs.Java.Output
import ClassSynth.Proofs.Java.Recovery
import ClassSynth.Proofs.Java.ReservedName
import ClassSynth.Proofs.Java.TypeText
import ClassSynth.Proofs.Java.Unit
import ClassSynth.Proofs.Json.Encoding
import ClassSynth.Proofs.Json.Literal
import ClassSynth.Proofs.Json.Overlong
import ClassSynth.Proofs.Json.Plain
import ClassSynth.Proofs.Json.Printed
import ClassSynth.Proofs.Keyed
import ClassSynth.Proofs.Path
import ClassSynth.Proofs.Text.Ascii
import ClassSynth.Proofs.Text.Cut
import ClassSynth.Proofs.Text.Encodable
import ClassSynth.Proofs.Text.Hexadecimal
import ClassSynth.Proofs.Text.Infix
import ClassSynth.Proofs.Text.Quoted
import ClassSynth.Text.Basic
import ClassSynth.Text.ByteEscape
import ClassSynth.Text.CaseFold
import ClassSynth.Text.LowerCase
import ClassSynth.Text.Numeral
import ClassSynth.Text.Printable
import ClassSynth.Text.Range
import ClassSynth.Text.UpperCase
import ClassSynth.Text.Utf8
import ClassSynth.Text.WordClass
