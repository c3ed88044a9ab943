import Conventions.Main
import Conventions.Proofs.Check.FixedNames
import Conventions.Proofs.Check.Folders
import Conventions.Proofs.Check.WorkflowNames
import Conventions.Proofs.Check.WorkflowOwners
import Conventions.Proofs.Config.Blame
import Conventions.Proofs.Config.Continuation
import Conventions.Proofs.Config.Markers
import Conventions.Proofs.Config.Reporting
import Conventions.Proofs.Config.RoundTrip
import Conventions.Proofs.Content.EditDistance
import Conventions.Proofs.Content.Query
import Conventions.Proofs.Content.Slot
import Conventions.Proofs.Content.Symmetry
import Conventions.Proofs.Lint.Completion
import Conventions.Proofs.Lint.DryRun
import Conventions.Proofs.Lint.FirstFixes
import Conventions.Proofs.Lint.FixThenClean
import Conventions.Proofs.Lint.Frame
import Conventions.Proofs.Makefile.Comments
import Conventions.Proofs.Makefile.Continuation
import Conventions.Proofs.Makefile.Targets
import Conventions.Proofs.Modules.Failures
import Conventions.Proofs.Report.Accounting
import Conventions.Proofs.SameContents.Attributes
import Conventions.Proofs.SameContents.Groups
import Conventions.Proofs.SameContents.Layers
import Conventions.Proofs.SameContents.Problems
import Conventions.Proofs.SameContents.WholeFiles
import Conventions.Proofs.Workspace.IgnoreFiles
import Conventions.Proofs.Workspace.Markers
import Conventions.Proofs.Yaml.Value
