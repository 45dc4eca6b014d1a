-- SUMMARY: Whole-file JSON snapshots that are staged in a temporary file and then renamed into place.
import AgentGovernance.Disk
import AgentGovernance.Json.Decode

/-!
# Snapshots

A snapshot is written in steps: create the parent directory, create an empty temporary file beside
the target, fill it, bring it to stable storage, and rename it onto the target. Readers therefore
see the old content or the new one and nothing in between. `Draft.advance` is one step, and
`Snapshot.write` takes all of them.
-/

namespace AgentGovernance

/-! ## Steps -/

/-- A snapshot that someone sets out to write. -/
structure Draft where
  path : Path
  bytes : ByteArray
  /-- Whether a file that stands at the path is replaced; otherwise it makes the write fail. -/
  replaces : Bool

/-- How far a draft has come. -/
inductive Stage where
  | planned
  | housed
  | staged (temp : Place)
  | filled (temp : Place)
  | synced (temp : Place)
  | settled (outcome : Except GovernanceError Unit)

namespace Draft

/-- The directory that holds the target. -/
def directory (d : Draft) : Path :=
  match d.path.parent? with
  | some p => if p.isEmpty then ⟨"."⟩ else p
  | none => ⟨"."⟩

/-- Names of temporary files. -/
def tempName (n : Nat) : String :=
  let digits := toString n
  ".tmp" ++ String.ofList (List.replicate (6 - digits.length) '0') ++ digits

/-- A place in a directory at which nothing stands. -/
def freshTemp (t : FileTree) (dir : Place) : Place :=
  let taken := fun n => (t.node? (dir ++ [tempName n])).isSome
  dir ++ [tempName (((List.range (t.entries.length + 1)).find? fun n => !taken n).getD 0)]

/-- Creates the parent directory. -/
def house (d : Draft) (disk : Disk) : Stage × Disk :=
  match disk.createDirectories d.directory with
  | (disk, .ok ()) => (.housed, disk)
  | (disk, .error e) => (.settled (.error (.sessionPersistence (.directory d.directory e))), disk)

/-- Creates an empty temporary file in the parent directory. -/
def stage (d : Draft) (disk : Disk) : Stage × Disk :=
  match disk.tree.find disk.cwd d.directory with
  | .ok (dir, .directory) =>
    let temp := freshTemp disk.tree dir
    (.staged temp, { disk with tree := disk.tree.put temp (.file .empty) })
  | .ok (_, .file _) => refuse .notADirectory
  | .error e => refuse e
where
  /-- The failure to create a temporary file. -/
  refuse (e : FileError) : Stage × Disk :=
    (.settled (.error (.sessionPersistence
      (.staging d.directory (d.directory.join (tempName 0)) e))), disk)

/-- The error of a failed last step. -/
def placementError (d : Draft) (e : FileError) : GovernanceError :=
  if d.replaces then .sessionPersistence (.replace d.path e) else .io e

/-- Where the draft may go: onto a file or onto nothing, and onto nothing only if it does not
replace. -/
def target (d : Draft) (disk : Disk) : Except FileError Place := do
  let place ← disk.tree.locate disk.cwd d.path
  if d.replaces then disk.tree.locateFile disk.cwd d.path
  else if (disk.tree.node? place).isSome then .error .alreadyExists
  else if FileTree.wantsDirectory d.path then .error .notADirectory
  else .ok place

/-- Renames the temporary file onto the target, or removes it if that fails. -/
def place (d : Draft) (temp : Place) (disk : Disk) : Stage × Disk :=
  match d.target disk with
  | .ok target =>
    (.settled (.ok ()), { disk with tree := (disk.tree.prune temp).put target (.file d.bytes) })
  | .error e =>
    (.settled (.error (d.placementError e)), { disk with tree := disk.tree.prune temp })

/-- The next step of a draft. -/
def advance (d : Draft) : Stage → Disk → Stage × Disk
  | .planned, disk => d.house disk
  | .housed, disk => d.stage disk
  | .staged temp, disk =>
    (.filled temp, { disk with tree := disk.tree.put temp (.file d.bytes) })
  | .filled temp, disk => (.synced temp, disk)
  | .synced temp, disk => d.place temp disk
  | .settled outcome, disk => (.settled outcome, disk)

/-- Takes all steps of a draft. -/
def finish (d : Draft) (disk : Disk) : Stage × Disk :=
  let step := fun (s : Stage × Disk) => d.advance s.1 s.2
  step (step (step (step (step (.planned, disk)))))

end Draft

/-! ## Reading and writing -/

namespace Snapshot

/-- Writes bytes to a path. -/
def writeBytes (path : Path) (bytes : ByteArray) (replaces : Bool) : Act Disk Unit := fun j =>
  let draft : Draft := { path, bytes, replaces }
  match draft.finish j.world with
  | (.settled (.ok ()), disk) => .ok () { j with world := disk }
  | (.settled (.error e), disk) => .error e { j with world := disk }
  | (_, disk) => .error .serialization { j with world := disk }

/-- Writes a value as indented JSON and replaces what stands at the path. -/
def write (path : Path) (value : Json) : Act Disk Unit :=
  writeBytes path value.pretty.toUTF8 true

/-- Writes a value as indented JSON to a path at which nothing stands yet. -/
def writeNew (path : Path) (value : Json) : Act Disk Unit :=
  writeBytes path value.pretty.toUTF8 false

/-- Reads a value from a JSON file; `none` if there is no such file. -/
def read {α : Type} (decode : Json → Option α) (path : Path) (disk : Disk) :
    Except GovernanceError (Option α) :=
  match disk.readText path with
  | .error .notFound => .ok none
  | .error e => .error (.io e)
  | .ok text => match (Json.parse? text).bind decode with
    | some a => .ok (some a)
    | none => .error .serialization

end Snapshot

end AgentGovernance
