import LinkReport.Json.Reader
import LinkReport.Main
import LinkReport.Proofs.CommandLine.Acceptance
import LinkReport.Proofs.CommandLine.Fallback
import LinkReport.Proofs.CommandLine.Outcome
import LinkReport.Proofs.CommandLine.Precedence
import LinkReport.Proofs.CommandLine.Refinement
import LinkReport.Proofs.Config.Composition
import LinkReport.Proofs.Config.Layering
import LinkReport.Proofs.Config.NormalForm
import LinkReport.Proofs.Config.Printing
import LinkReport.Proofs.Config.Spelling
import LinkReport.Proofs.Config.Variables
import LinkReport.Proofs.EnvFile.Composition
import LinkReport.Proofs.EnvFile.LineEnds
import LinkReport.Proofs.EnvFile.Literals
import LinkReport.Proofs.EnvFile.Remarks
import LinkReport.Proofs.EnvFile.Splitting
import LinkReport.Proofs.EnvFile.Templates
import LinkReport.Proofs.EnvFile.Writing
import LinkReport.Proofs.Event
import LinkReport.Proofs.FileTree
import LinkReport.Proofs.Filter.Choice
import LinkReport.Proofs.Filter.LevelTexts
import LinkReport.Proofs.Filter.Plain
import LinkReport.Proofs.Inspection
import LinkReport.Proofs.Json.Floats
import LinkReport.Proofs.Json.Grammar
import LinkReport.Proofs.Json.Keys
import LinkReport.Proofs.Json.Numerals
import LinkReport.Proofs.Json.RoundTrip
import LinkReport.Proofs.Json.Tokens
import LinkReport.Proofs.LockFile.Telling
import LinkReport.Proofs.LockFile.Writing
import LinkReport.Proofs.SemanticVersion
import LinkReport.Proofs.Session.Insertion
import LinkReport.Proofs.Session.Unreadable
import LinkReport.Proofs.Session.Verbosity
import LinkReport.Proofs.Startup
import LinkReport.Proofs.Text.Boundaries
import LinkReport.Proofs.Verdict
import LinkReport.Proofs.VersionStamp.Directives
import LinkReport.Proofs.VersionStamp.Nearest
import LinkReport.Proofs.VersionStamp.Written
import LinkReport.Session
import LinkReport.VersionStamp
