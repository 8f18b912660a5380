import Stencil.Check.Compilation
import Stencil.Check.Difference
import Stencil.Command.Arguments
import Stencil.Command.Execution
import Stencil.Command.Starter
import Stencil.Config.Codec
import Stencil.Config.Json
import Stencil.Config.Toml.Document
import Stencil.Emission
import Stencil.Java.ClassModel.Build
import Stencil.Java.ClassModel.Layout
import Stencil.Java.Identifier
import Stencil.Java.Outline
import Stencil.Java.RawText
import Stencil.Java.SourceFile
import Stencil.Java.TypeRef
import Stencil.Layout
import Stencil.Main
import Stencil.Manifest.Document
import Stencil.Output.Directory
import Stencil.Output.Memory
import Stencil.Output.Path
import Stencil.Output.Probe
import Stencil.Output.Tree
import Stencil.Pass
import Stencil.Proofs.Check.LineReports
import Stencil.Proofs.Check.Prediction
import Stencil.Proofs.Command.FileCounts
import Stencil.Proofs.Command.ReportLines
import Stencil.Proofs.Command.StarterFiles
import Stencil.Proofs.Config.Recovery
import Stencil.Proofs.Config.RoundTrip
import Stencil.Proofs.Java.Acceptance
import Stencil.Proofs.Java.Documentation
import Stencil.Proofs.Java.LanguageNames
import Stencil.Proofs.Java.Legibility
import Stencil.Proofs.Java.LexicalRule
import Stencil.Proofs.Java.ModifierLists
import Stencil.Proofs.Java.OutlineLayout
import Stencil.Proofs.Java.SameLines
import Stencil.Proofs.Layout.Composition
import Stencil.Proofs.Manifest.MemberLabels
import Stencil.Proofs.Output.AllOrNothing
import Stencil.Proofs.Output.CommitProtocol
import Stencil.Proofs.Output.Containment
import Stencil.Proofs.Pass.Independence
import Stencil.Proofs.Pass.Preview
import Stencil.Proofs.Pass.Repetitions
import Stencil.Report
import Stencil.Text.Quoted
import Stencil.Text.Span
import Stencil.Text.Utf8
