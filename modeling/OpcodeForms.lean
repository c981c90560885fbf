import OpcodeForms.Catalogue.Basic
import OpcodeForms.Catalogue.Builtin
import OpcodeForms.Catalogue.Expected
import OpcodeForms.CommandLine.Answer
import OpcodeForms.CommandLine.Argument
import OpcodeForms.CommandLine.Column
import OpcodeForms.CommandLine.Request
import OpcodeForms.CommandLine.Settings
import OpcodeForms.CommandLine.Sheet
import OpcodeForms.Encoding.Attribute
import OpcodeForms.Encoding.Kind
import OpcodeForms.Enumeration
import OpcodeForms.Expectation.Difference
import OpcodeForms.Expectation.Entry
import OpcodeForms.Expectation.Fields
import OpcodeForms.Expectation.Run
import OpcodeForms.Form.Basic
import OpcodeForms.Generated.Output
import OpcodeForms.Generated.Text
import OpcodeForms.Info.Attribute
import OpcodeForms.Info.Basic
import OpcodeForms.Info.Decode
import OpcodeForms.Info.InstructionText
import OpcodeForms.Info.OpcodeText
import OpcodeForms.Layout
import OpcodeForms.Main
import OpcodeForms.Operand.Code
import OpcodeForms.Operand.Kind
import OpcodeForms.Proofs.Alignment
import OpcodeForms.Proofs.Bits
import OpcodeForms.Proofs.Builder
import OpcodeForms.Proofs.Building
import OpcodeForms.Proofs.Canonical
import OpcodeForms.Proofs.Cells
import OpcodeForms.Proofs.Checked
import OpcodeForms.Proofs.CheckedSteps
import OpcodeForms.Proofs.Checking
import OpcodeForms.Proofs.CsvReading
import OpcodeForms.Proofs.CsvSheets
import OpcodeForms.Proofs.Cutting
import OpcodeForms.Proofs.DecodeErrors
import OpcodeForms.Proofs.Decoding
import OpcodeForms.Proofs.Difference
import OpcodeForms.Proofs.Effects
import OpcodeForms.Proofs.EntryReading
import OpcodeForms.Proofs.Enumerations
import OpcodeForms.Proofs.Escapes
import OpcodeForms.Proofs.Faithful
import OpcodeForms.Proofs.Fields
import OpcodeForms.Proofs.Grammar
import OpcodeForms.Proofs.Identifiers
import OpcodeForms.Proofs.InstructionSyntax
import OpcodeForms.Proofs.Invariants
import OpcodeForms.Proofs.JoinedFields
import OpcodeForms.Proofs.LetterCase
import OpcodeForms.Proofs.LineEnds
import OpcodeForms.Proofs.Lines
import OpcodeForms.Proofs.Literals
import OpcodeForms.Proofs.Lossless
import OpcodeForms.Proofs.Meaning
import OpcodeForms.Proofs.Meaningful
import OpcodeForms.Proofs.Notation
import OpcodeForms.Proofs.Numerals
import OpcodeForms.Proofs.OpcodeSyntax
import OpcodeForms.Proofs.Packing
import OpcodeForms.Proofs.Properties
import OpcodeForms.Proofs.Readers
import OpcodeForms.Proofs.ReadingBack
import OpcodeForms.Proofs.Records
import OpcodeForms.Proofs.Resolving
import OpcodeForms.Proofs.Selection
import OpcodeForms.Proofs.Separation
import OpcodeForms.Proofs.Settings
import OpcodeForms.Proofs.TableColumns
import OpcodeForms.Proofs.TableReading
import OpcodeForms.Proofs.TableSheets
import OpcodeForms.Proofs.Tables
import OpcodeForms.Proofs.WordOrder
import OpcodeForms.Proofs.Writes
import OpcodeForms.Proofs.Writing
import OpcodeForms.Source.Assignment
import OpcodeForms.Source.Attributes
import OpcodeForms.Source.Record
import OpcodeForms.Source.Table
import OpcodeForms.Text.Case
import OpcodeForms.Text.Extending
import OpcodeForms.Text.Fill
import OpcodeForms.Text.LineDiff
import OpcodeForms.Text.Numeral
import OpcodeForms.Text.Quoted
import OpcodeForms.Text.Split
import OpcodeForms.Text.Unprintable
import OpcodeForms.Word.Bits
import OpcodeForms.Word.Field
import OpcodeForms.Word.Flags
