import StyleUsage.Bus
import StyleUsage.Main
import StyleUsage.Proofs.Session.Launch
import StyleUsage.Proofs.Session.Phases
import StyleUsage.Proofs.Session.Custody
import StyleUsage.Proofs.Session.Collection
import StyleUsage.Proofs.Session.Verdicts
import StyleUsage.Proofs.Session.Settlement
import StyleUsage.Proofs.Session.Completion
import StyleUsage.Proofs.Stylesheet.Selectors
import StyleUsage.Proofs.Stylesheet.Items
import StyleUsage.Proofs.Stylesheet.Acceptance
import StyleUsage.Proofs.Stylesheet.SafeText
import StyleUsage.Proofs.Stylesheet.Comments
import StyleUsage.Proofs.Stylesheet.Brackets
import StyleUsage.Proofs.Stylesheet.Writing
import StyleUsage.Proofs.Stylesheet.Recovery
import StyleUsage.Proofs.Stylesheet.Printing
import StyleUsage.Proofs.Stylesheet.Quotations
import StyleUsage.Proofs.Stylesheet.Seams
import StyleUsage.Proofs.Stylesheet.Lines
import StyleUsage.Proofs.Stylesheet.Composition
import StyleUsage.Proofs.Session.Order
import StyleUsage.Proofs.Session.Conclusion
import StyleUsage.Proofs.Session.Progress
import StyleUsage.Proofs.Session.Release
import StyleUsage.Proofs.Session.Warnings
import StyleUsage.Proofs.Stream.Interleaving
import StyleUsage.Proofs.Stream.Specification
import StyleUsage.Proofs.Report.Exactness
import StyleUsage.Proofs.Session.Integrity
import StyleUsage.Proofs.Report.Coverage
import StyleUsage.Proofs.Usage.Documents
import StyleUsage.Proofs.Session.Chronicle
import StyleUsage.Proofs.Session.Failing
import StyleUsage.Proofs.Session.Grammar
import StyleUsage.Proofs.Session.Overruling
import StyleUsage.Proofs.Session.Cancellation
import StyleUsage.Proofs.Files.Lookup
import StyleUsage.Proofs.Files.Loading
import StyleUsage.Proofs.Command.Arguments
import StyleUsage.Proofs.Command.Requests
import StyleUsage.Proofs.Command.Checking
import StyleUsage.Proofs.Command.Endings
import StyleUsage.Proofs.Usage.Scanning
import StyleUsage.Proofs.Markup.Contents
import StyleUsage.Proofs.Markup.Origins
import StyleUsage.Proofs.Usage.Comments
import StyleUsage.Proofs.Usage.Conditions
import StyleUsage.Proofs.Usage.Spelling
import StyleUsage.Proofs.Stylesheet.Escapes
import StyleUsage.Proofs.Stylesheet.Values
import StyleUsage.Proofs.Stylesheet.Joining
import StyleUsage.Proofs.Stylesheet.Segments
import StyleUsage.Proofs.Stylesheet.Entries
import StyleUsage.Proofs.Stylesheet.SourceLines
import StyleUsage.Proofs.Usage.Operations
import StyleUsage.Proofs.Options.Acceptance
import StyleUsage.Proofs.Files.Discovery
import StyleUsage.Proofs.Usage.Reports
import StyleUsage.Proofs.Bus.Dispatch
