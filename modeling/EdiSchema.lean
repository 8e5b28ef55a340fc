import EdiSchema.Assembly
import EdiSchema.Attribute.DataType
import EdiSchema.Attribute.Invalid
import EdiSchema.Attribute.MaxOccurs
import EdiSchema.Attribute.Position
import EdiSchema.Attribute.Requirement
import EdiSchema.Batch.Accounting
import EdiSchema.Batch.Basic
import EdiSchema.Batch.Delivery
import EdiSchema.Batch.Inquiry
import EdiSchema.Batch.Schedule
import EdiSchema.CommandLine.Arguments
import EdiSchema.CommandLine.Execution
import EdiSchema.CommandLine.Invocation
import EdiSchema.Compilation
import EdiSchema.Decoding.Fault
import EdiSchema.Decoding.Field
import EdiSchema.Decoding.Report
import EdiSchema.Decoding.Source
import EdiSchema.Descriptor.Basic
import EdiSchema.Descriptor.Body
import EdiSchema.Descriptor.Dialect
import EdiSchema.Descriptor.Naming
import EdiSchema.Descriptor.Options
import EdiSchema.Descriptor.Wrapper
import EdiSchema.Detail.Basic
import EdiSchema.Detail.Format
import EdiSchema.Detail.Line
import EdiSchema.Detail.Page
import EdiSchema.Detail.Payload
import EdiSchema.Extraction
import EdiSchema.Html.Body
import EdiSchema.Html.Builder
import EdiSchema.Html.Doctype
import EdiSchema.Html.Formatting
import EdiSchema.Html.Node
import EdiSchema.Html.Page
import EdiSchema.Html.Place
import EdiSchema.Html.Reference
import EdiSchema.Html.ReferenceTable
import EdiSchema.Html.Table
import EdiSchema.Html.Token
import EdiSchema.Html.Vocabulary
import EdiSchema.Idoc.Block
import EdiSchema.Idoc.Codec
import EdiSchema.Idoc.Document
import EdiSchema.Idoc.Record
import EdiSchema.Json.Printer
import EdiSchema.Json.Reader
import EdiSchema.Json.Token
import EdiSchema.Json.Value
import EdiSchema.Listing.Basic
import EdiSchema.Listing.Cache
import EdiSchema.Listing.Entry
import EdiSchema.Listing.Hierarchy
import EdiSchema.Listing.Index
import EdiSchema.Listing.Marker
import EdiSchema.Listing.Resolution
import EdiSchema.Listing.Violation
import EdiSchema.Number.Binary64
import EdiSchema.Settings
import EdiSchema.Skip
import EdiSchema.Source
import EdiSchema.Storage.Disk
import EdiSchema.Storage.Layout
import EdiSchema.Storage.Pages
import EdiSchema.Storage.Path
import EdiSchema.Storage.Saved
import EdiSchema.Structure.Basic
import EdiSchema.Structure.Decode
import EdiSchema.Structure.Encode
import EdiSchema.Structure.Location
import EdiSchema.Structure.Source
import EdiSchema.Structure.Walk
import EdiSchema.Text.Blank
import EdiSchema.Text.Case
import EdiSchema.Text.CaseTable
import EdiSchema.Text.Count
import EdiSchema.Text.Digit
import EdiSchema.Text.HiddenTable
import EdiSchema.Text.Lines
import EdiSchema.Text.Quoted
import EdiSchema.Text.Scan
import EdiSchema.Xml.Node
import EdiSchema.Yaml.Cursor
import EdiSchema.Yaml.Printer
import EdiSchema.Yaml.Reader
import EdiSchema.Yaml.Scalar
import EdiSchema.Main
import EdiSchema.Proofs.Assembly.Attach
import EdiSchema.Proofs.Assembly.Outcome
import EdiSchema.Proofs.Assembly.Permutation
import EdiSchema.Proofs.Assembly.Placement
import EdiSchema.Proofs.Assembly.Siblings
import EdiSchema.Proofs.Assembly.Site
import EdiSchema.Proofs.Assembly.Tree
import EdiSchema.Proofs.Compilation
import EdiSchema.Proofs.Decoding.Field
import EdiSchema.Proofs.Decoding.Report
import EdiSchema.Proofs.Descriptor.Delimited
import EdiSchema.Proofs.Descriptor.Dialects
import EdiSchema.Proofs.Detail.Canonical
import EdiSchema.Proofs.Detail.Layout
import EdiSchema.Proofs.Detail.Reading
import EdiSchema.Proofs.Detail.RoundTrip
import EdiSchema.Proofs.Extraction.Canonical
import EdiSchema.Proofs.Idoc.Acceptance
import EdiSchema.Proofs.Idoc.Document
import EdiSchema.Proofs.Idoc.Linearize
import EdiSchema.Proofs.Idoc.Nesting
import EdiSchema.Proofs.Json.Nesting
import EdiSchema.Proofs.Json.Spelling
import EdiSchema.Proofs.Listing.Hierarchy
import EdiSchema.Proofs.Steps
import EdiSchema.Proofs.Structure.Canonical
import EdiSchema.Proofs.Structure.Depth
import EdiSchema.Proofs.Structure.Families
import EdiSchema.Proofs.Structure.RoundTrip
import EdiSchema.Proofs.Text.Blank
import EdiSchema.Proofs.Text.ByteOrder
import EdiSchema.Proofs.Text.Case
import EdiSchema.Proofs.Text.Decimal
import EdiSchema.Proofs.Text.Digit
import EdiSchema.Proofs.Text.Lines
import EdiSchema.Proofs.Xml.Outline
import EdiSchema.Proofs.Xml.Tags
import EdiSchema.Proofs.Attribute.Position
import EdiSchema.Proofs.Detail.Accounting
import EdiSchema.Proofs.Listing.Entry
import EdiSchema.Proofs.Extraction.Entries
import EdiSchema.Proofs.Text.Scan
import EdiSchema.Proofs.Xml.Reader
import EdiSchema.Proofs.Xml.ReadBack
import EdiSchema.Proofs.Descriptor.ReadBack
import EdiSchema.Proofs.Html.Place
import EdiSchema.Proofs.Listing.Layout
import EdiSchema.Proofs.Listing.Reading
import EdiSchema.Proofs.Structure.Placements
import EdiSchema.Proofs.Assembly.Restoration
import EdiSchema.Proofs.Listing.Links
import EdiSchema.Proofs.Listing.RoundTrip
import EdiSchema.Proofs.Batch.Inquiry
import EdiSchema.Proofs.Batch.Schedule
import EdiSchema.Proofs.Descriptor.Emission
import EdiSchema.Proofs.Idoc.Codec
import EdiSchema.Proofs.Json.Depth
import EdiSchema.Proofs.Structure.Decode
import EdiSchema.Proofs.Structure.Normal
import EdiSchema.Proofs.Descriptor.Bounds
import EdiSchema.Proofs.Descriptor.Naming
import EdiSchema.Proofs.Descriptor.Wrapper
import EdiSchema.Proofs.Storage.Confinement
import EdiSchema.Proofs.Storage.Place
import EdiSchema.Proofs.Storage.Saved
import EdiSchema.Proofs.Structure.Agreement
import EdiSchema.Proofs.Xml.Entity
import EdiSchema.Proofs.Detail.Nesting
import EdiSchema.Proofs.Text.LineEdit
import EdiSchema.Proofs.Detail.Indentation
import EdiSchema.Proofs.Detail.Locality
import EdiSchema.Proofs.Listing.Heading
import EdiSchema.Proofs.Listing.Occurrence
import EdiSchema.Proofs.Descriptor.Comment
import EdiSchema.Proofs.Text.Words
import EdiSchema.Proofs.Detail.Grammar
import EdiSchema.Proofs.Detail.Format
import EdiSchema.Proofs.Detail.Pattern
import EdiSchema.Proofs.Detail.Page
import EdiSchema.Proofs.Idoc.Decoding
import EdiSchema.Proofs.Table
import EdiSchema.Proofs.Listing.Distinct
import EdiSchema.Proofs.Listing.Index
import EdiSchema.Proofs.Listing.Cache
import EdiSchema.Proofs.Batch.Accounting
import EdiSchema.Detail.Builder
import EdiSchema.Proofs.Detail.Numbering
import EdiSchema.Proofs.Structure.Walk
import EdiSchema.Proofs.Structure.Defect
