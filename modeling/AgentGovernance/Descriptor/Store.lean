-- SUMMARY: The descriptor store: an index that is replaced as a whole, and the directory it came from.
import AgentGovernance.Descriptor.Directory
import AgentGovernance.Descriptor.Validation

/-!
# Descriptor stores

A store holds the current index and remembers the directory of the last load that succeeded.
Replacing and loading put a new index in place of the old one, or fail and leave the store as it
was.
-/

namespace AgentGovernance

/-- The descriptors in force. -/
structure DescriptorStore where
  index : DescriptorIndex := {}
  directory : Option Path := none
  deriving Inhabited

/-- What a replacement or a load did. -/
structure LoadReport where
  loaded : Nat := 0
  skipped : List Skipped := []
  deriving DecidableEq, Repr

namespace DescriptorStore

open LogEvent (shown count)

/-! ## Log -/

/-- Where the events of the store say that they come from. -/
def logTarget : String := "warden::descriptor::store"

def duplicateEvent (s : Skipped) : LogEvent :=
  { level := .warn, target := logTarget, message := "Duplicate agent id, skipping descriptor"
    fields := [shown "agent_id" (match s.cause with | .duplicate id => id | .fault _ => ""),
      shown "path" s.path.text] }

def malformedEvent (rejected : Path × DescriptorFault) : LogEvent :=
  { level := .warn, target := logTarget, message := "Skipping malformed descriptor"
    fields := [shown "path" rejected.1.text, shown "reason" rejected.2.message] }

def ignoredEvent (ignored : Path × Path) : LogEvent :=
  { level := .debug, target := logTarget, message := "Ignoring extra file in agent directory"
    fields := [shown "path" ignored.1.text, shown "chosen" ignored.2.text] }

def abortedEvent (root : Path) (e : GovernanceError) : LogEvent :=
  { level := .warn, target := logTarget, message := "Descriptor load aborted"
    fields := [shown "directory" root.text, shown "error" e.message] }

def loadedEvent (root : Path) (report : LoadReport) : LogEvent :=
  { level := .info, target := logTarget, message := "Loaded agent descriptors"
    fields := [shown "directory" root.text, count "loaded" report.loaded,
      count "skipped" report.skipped.length] }

/-! ## Replacing and loading -/

/-- Replaces the index by that of a list of descriptors. -/
def replace (ds : List AgentDescriptor) : Act DescriptorStore LoadReport := do
  let skipped := DescriptorIndex.duplicates ds
  skipped.forM fun s => Act.log (duplicateEvent s)
  let index ← Act.ofExcept (DescriptorIndex.build ds)
  let store ← Act.world
  Act.setWorld { store with index }
  return { loaded := index.descriptors.length, skipped }

/-- A store with the given descriptors. -/
def ofDescriptors (ds : List AgentDescriptor) : Except GovernanceError DescriptorStore := do
  return { index := ← DescriptorIndex.build ds }

/-- The groups below a directory with what becomes of their candidates. -/
def choices (disk : Disk) (root : Place) : List GroupChoice :=
  (CandidateGroup.scan disk.tree root).map (CandidateGroup.choose (AgentDescriptor.read disk) root)

/-- The events that a choice leaves. -/
def choiceEvents (c : GroupChoice) : List LogEvent :=
  c.rejected.map malformedEvent ++ c.ignored.map ignoredEvent

/-- Loads every descriptor below a directory. -/
def load (disk : Disk) (directory : Path) : Act DescriptorStore LoadReport := do
  if !disk.isDirectory directory then Act.fail (.descriptorDirMissing directory)
  let root ← match disk.canonicalize directory with
    | .ok p => pure p
    | .error e => Act.fail (.io e)
  let groups := choices disk root.names
  groups.forM fun c => (choiceEvents c).forM Act.log
  let found := groups.flatMap (·.taken)
  let rejected := groups.flatMap fun c =>
    c.rejected.map fun (path, f) => ({ path, cause := .fault f } : Skipped)
  let duplicates := DescriptorIndex.duplicates found
  duplicates.forM fun s => Act.log (duplicateEvent s)
  match DescriptorIndex.build found with
  | .error e =>
    Act.log (abortedEvent root e)
    Act.fail e
  | .ok index =>
    let report : LoadReport :=
      { loaded := index.descriptors.length, skipped := rejected ++ duplicates }
    Act.setWorld { index, directory := some root }
    Act.log (loadedEvent root report)
    return report

/-- Loads the directory of the last load once more. -/
def reload (disk : Disk) : Act DescriptorStore LoadReport := do
  match (← Act.world).directory with
  | some directory => load disk directory
  | none => Act.fail (.configuration .neverLoaded)

/-! ## Questions -/

def find? (s : DescriptorStore) (id : String) : Option AgentDescriptor := s.index.find? id

def contains (s : DescriptorStore) (id : String) : Bool := s.index.contains id

/-- All descriptors, sorted by id. -/
def all (s : DescriptorStore) : List AgentDescriptor := s.index.descriptors

/-- The descriptor of an id, or the error that there is none. -/
def get (s : DescriptorStore) (id : String) : Except GovernanceError AgentDescriptor :=
  match s.find? id with
  | some d => .ok d
  | none => .error (.descriptorNotFound id)

/-- Validates one descriptor against the set. -/
def validate (s : DescriptorStore) (fileExists : Path → Bool) (id : String) :
    Except GovernanceError Validation := do
  return Validation.ofDescriptor fileExists s.index.ids (← s.get id)

/-- Validates every descriptor. -/
def validateAll (s : DescriptorStore) (fileExists : Path → Bool) : List Validation :=
  s.all.map (Validation.ofDescriptor fileExists s.index.ids)

end DescriptorStore

end AgentGovernance
