-- SUMMARY: The store of audit reports: one file for each run, written once.
import AgentGovernance.Audit.Report
import AgentGovernance.Snapshot

/-!
# Report stores

Reports lie in one directory, each in a file named for its run. A report is never replaced, and a
run id that is not a plain file name is refused.
-/

namespace AgentGovernance

/-- A directory of reports. -/
structure ReportStore where
  dir : Path
  deriving DecidableEq, Repr

/-- The stems of the files with the extension `json` in a directory, sorted; none if there is no
such directory. -/
def jsonStems (dir : Path) (disk : Disk) : Except GovernanceError (List String) :=
  if !disk.has dir then .ok []
  else match disk.list dir with
    | .error e => .error (.io e)
    | .ok names =>
      .ok ((names.filter fun n => (Path.mk n).extension? == some "json").filterMap
        fun n => (Path.mk n).stem?).mergeSort

namespace ReportStore

/-- The file of a run. -/
def reportPath (s : ReportStore) (id : String) : Except GovernanceError Path :=
  if isValidRunId id then .ok (s.dir.join (id ++ ".json"))
  else .error (.configuration (.runId id))

/-- Stores a report of a run that has none yet. -/
def save (s : ReportStore) (report : AuditReport) : Act Disk Path := do
  let path ← Act.ofExcept (s.reportPath report.runId)
  Snapshot.writeNew path report.toJson
  return path

/-- The report of a run. -/
def load (s : ReportStore) (id : String) (disk : Disk) :
    Except GovernanceError (Option AuditReport) := do
  Snapshot.read AuditReport.ofJson? (← s.reportPath id) disk

/-- The stored run ids, oldest first. -/
def list (s : ReportStore) (disk : Disk) : Except GovernanceError (List String) :=
  jsonStems s.dir disk

/-- The report of the latest run. -/
def latest (s : ReportStore) (disk : Disk) : Except GovernanceError (Option AuditReport) := do
  match (← s.list disk).getLast? with
  | some id => s.load id disk
  | none => return none

end ReportStore

end AgentGovernance
