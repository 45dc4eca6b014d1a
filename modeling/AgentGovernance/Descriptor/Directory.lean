-- SUMMARY: Descriptor directories: which files are candidates, and which of them become descriptors.
import AgentGovernance.Descriptor.Index
import AgentGovernance.Descriptor.Manifest
import AgentGovernance.Disk

/-!
# Descriptor directories

A directory is searched for descriptor files, hidden names left out, and the files are grouped by
the directory they lie in. Files at the top are descriptors of their own. A directory below holds
one agent: the files named for the agent are tried first, then the others, and the first that can be
read wins.
-/

namespace AgentGovernance

/-- The candidate files that lie in one directory, in the order of their names. -/
structure CandidateGroup where
  directory : Place
  files : List Path
  deriving DecidableEq, Repr

/-- What became of the candidates of a group. -/
structure GroupChoice where
  taken : List AgentDescriptor := []
  rejected : List (Path × DescriptorFault) := []
  /-- Files that were left alone, with the file that was taken instead. -/
  ignored : List (Path × Path) := []

namespace CandidateGroup

/-! ## Finding candidates -/

/-- Whether a name is hidden. -/
def isHidden (name : String) : Bool := name.toList.head? == some '.'

/-- Order of places by their names, directory before file. -/
def placeLe (a b : Place) : Bool :=
  match compareLists compare a.dropLast b.dropLast with
  | .lt => true
  | .gt => false
  | .eq => compareLists compare a b != .gt

/-- The places of candidate files below a directory, in order. -/
def candidatePlaces (t : FileTree) (root : Place) : List Place :=
  (t.entries.filterMap fun
    | (place, .file _) =>
      if root.isPrefixOf place && (place.drop root.length).all (fun n => !isHidden n) &&
          Descriptor.isDescriptorFile (Path.ofNames place) then some place else none
    | (_, .directory) => none).mergeSort placeLe

/-- Puts places with the same directory that follow each other into groups. -/
def group : List Place → List CandidateGroup
  | [] => []
  | p :: ps =>
    match group ps with
    | g :: gs =>
      if g.directory == p.dropLast then { g with files := Path.ofNames p :: g.files } :: gs
      else { directory := p.dropLast, files := [Path.ofNames p] } :: g :: gs
    | [] => [{ directory := p.dropLast, files := [Path.ofNames p] }]

/-- The candidate files below a directory by the directory they lie in. -/
def scan (t : FileTree) (root : Place) : List CandidateGroup := group (candidatePlaces t root)

/-! ## Choosing -/

/-- Whether a file is named for the agent of its directory. -/
def isPreferred (g : CandidateGroup) (file : Path) : Bool :=
  let stem := file.stem?.getD ""
  stem == "agent" || stem == g.directory.getLast?.getD ""

/-- The files in the order in which they are tried: those named for the agent first. -/
def ranked (g : CandidateGroup) : List Path :=
  g.files.filter g.isPreferred ++ g.files.filter fun f => !g.isPreferred f

/-- Tries files in order until one can be read. -/
def firstReadable (read : Path → Except DescriptorFault AgentDescriptor) (all : List Path) :
    List Path → GroupChoice
  | [] => {}
  | file :: rest =>
    match read file with
    | .ok d => { taken := [d], ignored := (all.filter (· != file)).map fun f => (f, file) }
    | .error e =>
      let choice := firstReadable read all rest
      { choice with rejected := (file, e) :: choice.rejected }

/-- Tries every file. -/
def everyFile (read : Path → Except DescriptorFault AgentDescriptor) : List Path → GroupChoice
  | [] => {}
  | file :: rest =>
    let choice := everyFile read rest
    match read file with
    | .ok d => { choice with taken := d :: choice.taken }
    | .error e => { choice with rejected := (file, e) :: choice.rejected }

/-- What becomes of the candidates of a group when the search started at `root`. -/
def choose (read : Path → Except DescriptorFault AgentDescriptor) (root : Place)
    (g : CandidateGroup) : GroupChoice :=
  if g.directory == root then everyFile read g.files else firstReadable read g.ranked g.ranked

end CandidateGroup

/-- Reads a descriptor file. -/
def AgentDescriptor.read (disk : Disk) (path : Path) : Except DescriptorFault AgentDescriptor :=
  match disk.readText path with
  | .error e => .error (.unreadable e)
  | .ok content => AgentDescriptor.parse content path

end AgentGovernance
