import CountedConfig.Main
import CountedConfig.Document.Json
import CountedConfig.Proofs.Lines
import CountedConfig.Proofs.Relocation
import CountedConfig.Proofs.Extension
import CountedConfig.Proofs.Document.Lookup
import CountedConfig.Proofs.Composition
import CountedConfig.Proofs.Readability
import CountedConfig.Proofs.Line.Fragment
import CountedConfig.Proofs.Line.Newline
import CountedConfig.Proofs.Packing
import CountedConfig.Proofs.Line.Counted
import CountedConfig.Proofs.RoundTrip
import CountedConfig.Proofs.Lines.Cutting
import CountedConfig.Proofs.Remainder
import CountedConfig.Proofs.Refinement
import CountedConfig.Proofs.Terminators
import CountedConfig.Proofs.Truncation
import CountedConfig.Proofs.Text.Trim
import CountedConfig.Proofs.Line.Grammar
import CountedConfig.Proofs.Line.Classification
import CountedConfig.Proofs.Line.Patterns
import CountedConfig.Proofs.Line.Precedence
import CountedConfig.Proofs.RoundTrip.Characters
import CountedConfig.Proofs.Shape
import CountedConfig.Proofs.Command.Argument
import CountedConfig.Proofs.Progress
import CountedConfig.Proofs.Budget
import CountedConfig.Proofs.LineBreaks
import CountedConfig.Proofs.Line.Digits
import CountedConfig.Proofs.Kept
import CountedConfig.Proofs.Word
import CountedConfig.Proofs.Saturation
import CountedConfig.Proofs.Steps
import CountedConfig.Proofs.Lines.Newlines
import CountedConfig.Proofs.Requests
import CountedConfig.Proofs.Log
import CountedConfig.Proofs.Numbers
import CountedConfig.Proofs.Account
import CountedConfig.Proofs.Command.Outcome
import CountedConfig.Proofs.Command.DefaultInput
import CountedConfig.Proofs.Document.History
import CountedConfig.Proofs.Document.Listing
import CountedConfig.Proofs.Command.Output
import CountedConfig.Proofs.Environment
import CountedConfig.Proofs.Settings.Anchor
import CountedConfig.Proofs.Log.Directive
