import GoOptional.Character.Blank
import GoOptional.Character.CaseTable
import GoOptional.Character.Letter
import GoOptional.Character.Number
import GoOptional.Character.Printable
import GoOptional.Character.Set
import GoOptional.CommandLine.Argument
import GoOptional.CommandLine.GoStyle
import GoOptional.CommandLine.Parse
import GoOptional.FileTree.Basic
import GoOptional.FileTree.Path
import GoOptional.FileTree.RealPath
import GoOptional.FileTree.Replace
import GoOptional.FileTree.Resolve
import GoOptional.GeneratedFile.Anchor
import GoOptional.GeneratedFile.Line
import GoOptional.GeneratedFile.Parts
import GoOptional.GeneratedFile.Update
import GoOptional.Json.Numeral
import GoOptional.Json.Read
import GoOptional.Json.Token
import GoOptional.Json.Value
import GoOptional.Program
import GoOptional.Proofs.CommandLine.Given
import GoOptional.Proofs.CommandLine.Normalization
import GoOptional.Proofs.CommandLine.OneDash
import GoOptional.Proofs.CommandLine.RoundTrip
import GoOptional.Proofs.CommandLine.Spelling
import GoOptional.Proofs.FileTree.OtherFiles
import GoOptional.Proofs.FileTree.Overwrite
import GoOptional.Proofs.FileTree.Parent
import GoOptional.Proofs.FileTree.Replace
import GoOptional.Proofs.FileTree.ReplaceTwice
import GoOptional.Proofs.FileTree.Target
import GoOptional.Proofs.FileTree.Temporary
import GoOptional.Proofs.FileTree.Walk
import GoOptional.Proofs.GeneratedFile.Adding
import GoOptional.Proofs.GeneratedFile.AddingTwice
import GoOptional.Proofs.GeneratedFile.BareHeader
import GoOptional.Proofs.GeneratedFile.Grammar
import GoOptional.Proofs.GeneratedFile.Header
import GoOptional.Proofs.GeneratedFile.Injectivity
import GoOptional.Proofs.GeneratedFile.LineEndings
import GoOptional.Proofs.GeneratedFile.LinePattern
import GoOptional.Proofs.GeneratedFile.LineSearch
import GoOptional.Proofs.GeneratedFile.Offset
import GoOptional.Proofs.GeneratedFile.Parts
import GoOptional.Proofs.GeneratedFile.Preservation
import GoOptional.Proofs.GeneratedFile.ReadBack
import GoOptional.Proofs.GeneratedFile.Refusal
import GoOptional.Proofs.GeneratedFile.Series
import GoOptional.Proofs.GeneratedFile.Stability
import GoOptional.Proofs.Json.Lexing
import GoOptional.Proofs.Request.RoundTrip
import GoOptional.Proofs.Request.Spelling
import GoOptional.Proofs.Request.TypeParts
import GoOptional.Proofs.Run.AllOrNothing
import GoOptional.Proofs.Run.DryRun
import GoOptional.Proofs.Run.OneFormat
import GoOptional.Proofs.Run.Order
import GoOptional.Proofs.Run.Refinement
import GoOptional.Proofs.Run.Refusal
import GoOptional.Proofs.Run.Report
import GoOptional.Proofs.Run.Rerun
import GoOptional.Proofs.Text.Fault
import GoOptional.Proofs.Text.Lines
import GoOptional.Proofs.Text.Pattern
import GoOptional.Proofs.Text.Utf8
import GoOptional.Request
import GoOptional.Request.FromJson
import GoOptional.Request.ToJson
import GoOptional.Run.Basic
import GoOptional.Run.Failure
import GoOptional.Run.Log
import GoOptional.Run.Output
import GoOptional.Run.Plan
import GoOptional.Run.Report
import GoOptional.Text.Basic
import GoOptional.Text.Case
import GoOptional.Text.Quoted
import GoOptional.Text.Utf8
import GoOptional.WrappedType
