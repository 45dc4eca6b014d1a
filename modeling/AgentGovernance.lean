import AgentGovernance.Main
import AgentGovernance.Proofs.Audit.Registration
import AgentGovernance.Proofs.Cli.Audit
import AgentGovernance.Proofs.Descriptor.Store
import AgentGovernance.Proofs.Identity.SessionRecord
import AgentGovernance.Proofs.Identity.SingleActive
import AgentGovernance.Proofs.Remediation.Pass
import AgentGovernance.Proofs.Scope.DecisionTable
import AgentGovernance.Proofs.Scope.Restriction
import AgentGovernance.Proofs.Audit.Labels
import AgentGovernance.Proofs.Audit.Worsening
import AgentGovernance.Proofs.Remediation.Alike
import AgentGovernance.Proofs.Remediation.Provenance
import AgentGovernance.Proofs.Json.Text
import AgentGovernance.Proofs.Time.Calendar
import AgentGovernance.Proofs.Time.Rfc3339
import AgentGovernance.Proofs.Json.Decode
import AgentGovernance.Proofs.Session.Document
import AgentGovernance.Proofs.FileTree
import AgentGovernance.Proofs.Snapshot
import AgentGovernance.Proofs.Identity.Restart
import AgentGovernance.Proofs.Path
import AgentGovernance.Proofs.Remediation.Document
import AgentGovernance.Proofs.Audit.Fingerprint
import AgentGovernance.Proofs.Remediation.Archive
import AgentGovernance.Proofs.Remediation.Course
import AgentGovernance.Proofs.Remediation.Fleet
import AgentGovernance.Proofs.Remediation.Persistence
import AgentGovernance.Proofs.Scope.Tightening
import AgentGovernance.Proofs.Audit.Document
import AgentGovernance.Proofs.Snapshot.RoundTrip
import AgentGovernance.Proofs.Settings.Separation
import AgentGovernance.Proofs.Snapshot.Frame
import AgentGovernance.Proofs.Session.File
import AgentGovernance.Proofs.Cli.Session
import AgentGovernance.Proofs.Descriptor.Validation
import AgentGovernance.Proofs.Scope.Grants
import AgentGovernance.Proofs.Identity.Failure
import AgentGovernance.Proofs.Snapshot.Race
import AgentGovernance.Proofs.Audit.Evidence
import AgentGovernance.Proofs.Identity.Bleed
import AgentGovernance.Proofs.Cli.LogFile
import AgentGovernance.Proofs.Audit.SameProblem
import AgentGovernance.Proofs.Scope.Listing
import AgentGovernance.Proofs.Remediation.LineUp
import AgentGovernance.Proofs.Descriptor.Conflict
import AgentGovernance.Proofs.Audit.Chronology
import AgentGovernance.Proofs.Descriptor.Block
import AgentGovernance.Proofs.Descriptor.Loading
import AgentGovernance.Proofs.Cli.Orchestrator
import AgentGovernance.Proofs.Tag.Spelling
import AgentGovernance.Proofs.Identity.FirstClaim
