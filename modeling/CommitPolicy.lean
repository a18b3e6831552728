import CommitPolicy.CommandLine.Maintenance
import CommitPolicy.Host.Memory
import CommitPolicy.Main
import CommitPolicy.Proofs.Header.Shape
import CommitPolicy.Proofs.Scope.DecisionTable
import CommitPolicy.Proofs.Text.LetterCase
import CommitPolicy.Proofs.Scope.Revert
import CommitPolicy.Proofs.Text.Line
import CommitPolicy.Proofs.Message.Footer
import CommitPolicy.Proofs.Message.Layout
import CommitPolicy.Proofs.Message.Cleanup
import CommitPolicy.Proofs.Check.SubjectCase
import CommitPolicy.Proofs.Message.Generated
import CommitPolicy.Proofs.Check.Inspection
import CommitPolicy.Proofs.Lint.Findings
import CommitPolicy.Proofs.Lint.Conformance
import CommitPolicy.Proofs.Lint.Soundness
import CommitPolicy.Proofs.Lint.Regular
import CommitPolicy.Proofs.Scope.Overrun
import CommitPolicy.Proofs.Scope.Revertible
import CommitPolicy.Proofs.Lint.HeaderFindings
import CommitPolicy.Proofs.Lint.Isolation
import CommitPolicy.Proofs.Lint.Registry
import CommitPolicy.Proofs.Lint.Tightening
import CommitPolicy.Proofs.Batch.Merge
import CommitPolicy.Proofs.Scope.StrictLanguage
import CommitPolicy.Proofs.Settings.Resolution
import CommitPolicy.Proofs.Rendering.LineStructure
import CommitPolicy.Proofs.Report.Saved
import CommitPolicy.Proofs.History
import CommitPolicy.Proofs.Text.LineEnding
import CommitPolicy.Proofs.Message.Reread
import CommitPolicy.Proofs.Header.Decomposition
import CommitPolicy.Proofs.Header.Refinement
import CommitPolicy.Proofs.Header.Unwrapping
import CommitPolicy.Proofs.Message.GeneratedPattern
import CommitPolicy.Proofs.Lint.Skipping
import CommitPolicy.Proofs.Message.Split
import CommitPolicy.Proofs.Lint.BlankLines
import CommitPolicy.Proofs.Lint.CapitalSubject
import CommitPolicy.Proofs.Text.Joined
import CommitPolicy.Proofs.Message.CosmeticEdit
import CommitPolicy.Proofs.Rendering.WorkflowCommand
import CommitPolicy.Proofs.Rendering.Grouping
import CommitPolicy.Proofs.Text.Word
import CommitPolicy.Proofs.Lint.Fingerprint
import CommitPolicy.Proofs.Scope.Reason
import CommitPolicy.Proofs.Explanation.Topic
import CommitPolicy.Proofs.Header.Captures
import CommitPolicy.Proofs.CommandLine.Rooted
import CommitPolicy.Proofs.CommandLine.SavedReport
