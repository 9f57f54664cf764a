import SchemaModels.Nesting
import SchemaModels.Text.Quoted
import SchemaModels.Text.Case
import SchemaModels.Text.Split
import SchemaModels.Text.Numeral
import SchemaModels.ClassName
import SchemaModels.FieldName
import SchemaModels.NumericType
import SchemaModels.Label
import SchemaModels.Source.Docstring
import SchemaModels.Source.Field
import SchemaModels.Source.Import
import SchemaModels.FirstMet
import SchemaModels.Forest
import SchemaModels.Merge
import SchemaModels.Occurrence
import SchemaModels.Reach
import SchemaModels.Registry
import SchemaModels.Pattern.CharSet
import SchemaModels.Pattern.NamedSet
import SchemaModels.Pattern.Basic
import SchemaModels.Pattern.Reader
import SchemaModels.Error
import SchemaModels.Inverse
import SchemaModels.Config
import SchemaModels.Datatype
import SchemaModels.Document.Json
import SchemaModels.Document.Reading
import SchemaModels.Bundle
import SchemaModels.Bundle.Reading
import SchemaModels.Config.Reading
import SchemaModels.Xml.Char
import SchemaModels.Xml.Element
import SchemaModels.Xml.Reader
import SchemaModels.Facts
import SchemaModels.Files
import SchemaModels.Note
import SchemaModels.Context
import SchemaModels.Context.Notes
import SchemaModels.Mapper
import SchemaModels.Emission
import SchemaModels.Emission.Notes
import SchemaModels.Generation
import SchemaModels.Outline
import SchemaModels.Outline.Json
import SchemaModels.Outline.Yaml
import SchemaModels.Command
import SchemaModels.Command.Steps
import SchemaModels.Main
import SchemaModels.Proofs.ClassName
import SchemaModels.Proofs.FirstMet
import SchemaModels.Proofs.Forest.Links
import SchemaModels.Proofs.Occurrence
import SchemaModels.Proofs.Registry.Claim
import SchemaModels.Proofs.Registry.Filing
import SchemaModels.Proofs.Inverse.Table
import SchemaModels.Proofs.Context
import SchemaModels.Proofs.Mapper
import SchemaModels.Proofs.Inverse.Lists
import SchemaModels.Proofs.Inverse.Clash
import SchemaModels.Proofs.Emission
import SchemaModels.Proofs.Emission.Constants
import SchemaModels.Proofs.Bundle
import SchemaModels.Proofs.Relation
import SchemaModels.Proofs.Emission.Entries
import SchemaModels.Proofs.Registry.UniquePath
import SchemaModels.Proofs.ClassName.Plain
import SchemaModels.Proofs.Emission.ModelNames
import SchemaModels.Proofs.Emission.ConstantNames
import SchemaModels.Proofs.Nesting
import SchemaModels.Proofs.Forest.Walk
import SchemaModels.Proofs.Forest.Layout
import SchemaModels.Proofs.Occurrence.Listing
import SchemaModels.Proofs.Reach
import SchemaModels.Proofs.Bundle.Members
import SchemaModels.Proofs.Context.Reached
import SchemaModels.Proofs.Emission.Loops
import SchemaModels.Proofs.Emission.Blocks
import SchemaModels.Proofs.Source.Reader
import SchemaModels.Proofs.Source.Scan
import SchemaModels.Proofs.Source.Literal
import SchemaModels.Proofs.Source.Field
import SchemaModels.Proofs.Source.Lines
import SchemaModels.Proofs.Registry.Growth
import SchemaModels.Proofs.Registry.Order
import SchemaModels.Proofs.Text.Split
import SchemaModels.Proofs.Fresh
import SchemaModels.Proofs.Label.Numbering
import SchemaModels.Proofs.Text.Numeral
import SchemaModels.Proofs.Label.Loops
import SchemaModels.Proofs.Label.Blank
import SchemaModels.Proofs.Label.Length
import SchemaModels.Proofs.Label.Help
import SchemaModels.Proofs.Label.Ending
import SchemaModels.Proofs.Label.Distinct
import SchemaModels.Proofs.Source.Docstring
import SchemaModels.Proofs.Text.Lines
import SchemaModels.Proofs.Source.Filling
import SchemaModels.Proofs.Source.Wrapping
import SchemaModels.Proofs.Merge
import SchemaModels.Proofs.Merge.Bounds
import SchemaModels.Proofs.Bundle.Reading
import SchemaModels.Proofs.Registry.ShortPath
import SchemaModels.Proofs.Emission.Skipped
import SchemaModels.Proofs.Session
import SchemaModels.Proofs.Generation
import SchemaModels.Proofs.Command
import SchemaModels.Proofs.Xml.Place
import SchemaModels.Proofs.Facts.Declaration
import SchemaModels.Proofs.Facts.Choice
import SchemaModels.Proofs.Facts.DocumentOrder
import SchemaModels.Proofs.NumericType
import SchemaModels.Proofs.Facts.Mining
import SchemaModels.Proofs.Facts.MiningOrder
import SchemaModels.Proofs.NumericType.Digits
import SchemaModels.Proofs.Mapper.Keywords
import SchemaModels.Proofs.Mapper.UsedLabels
import SchemaModels.Proofs.Selection.Doc
import SchemaModels.Proofs.Emission.Values
import SchemaModels.Proofs.Source.Import
import SchemaModels.Proofs.Bundle.Errors
import SchemaModels.Proofs.Reach.Listing
import SchemaModels.Proofs.Inverse.Calls
import SchemaModels.Proofs.Label.Cutting
import SchemaModels.Proofs.Facts.Isolation
import SchemaModels.Proofs.Loop
import SchemaModels.Proofs.Registry.FirstFree
import SchemaModels.Proofs.ClassName.Words
import SchemaModels.Proofs.FieldName
