-- SUMMARY: The program: reads files and variables, runs a command line, writes files and output.
import AgentGovernance.Cli.Footprint
import AgentGovernance.FileTree.Changes
import AgentGovernance.Shell.Run

/-!
# The executable

Everything that decides anything is pure; this module only carries files, variables, the time and
texts between the system and a run.
-/

namespace AgentGovernance.Executable

open Cli

/-! ## Files -/

/-- Adds what stands at a path of the system, and everything below it, to a tree. -/
partial def readTree (path : Path) (tree : FileTree) : IO FileTree := do
  let file := (← IO.currentDir) / path.text
  if !(← file.pathExists) then return tree
  if ← file.isDir then
    let mut tree := tree.put path.names .directory
    for entry in ← file.readDir do
      tree ← readTree (path.join entry.fileName) tree
    return tree
  else return tree.put path.names (.file (← IO.FS.readBinFile path.text))

/-- Adds the directories above a place to a tree. -/
def withAncestors (place : Place) (tree : FileTree) : FileTree :=
  (List.range place.length).foldl (fun t n =>
    let above := place.take n
    if above.isEmpty || (t.node? above).isSome then t else t.put above .directory) tree

/-- The real path of the nearest place at or above a path that exists, and whether it is the path
itself. -/
partial def nearest? (path : Path) (isWhole : Bool) : IO (Option (Path × Bool)) := do
  if ← ((← IO.currentDir) / path.text).pathExists then
    return some (⟨(← IO.FS.realPath path.text).toString⟩, isWhole)
  else match path.parent? with
    | some above => nearest? above false
    | none => return none

/-- Reads what a path of the system leads to into a disk, together with the directories above it. -/
def readPlace (disk : Disk) (path : Path) : IO Disk := do
  match ← nearest? ((Path.ofNames disk.cwd).join path.text) true with
  | none => return disk
  | some (real, isWhole) =>
    let tree := withAncestors real.names disk.tree
    if isWhole || !(← ((← IO.currentDir) / real.text).isDir) then
      return { disk with tree := ← readTree real tree }
    else if real.names.isEmpty || tree.isDirectoryAt real.names then return { disk with tree }
    else return { disk with tree := tree.put real.names .directory }

/-- Carries out a change. -/
def carryOut : FileChange → IO Unit
  | .remove path => IO.FS.removeFile path.text
  | .makeDirectory path => IO.FS.createDirAll path.text
  | .write path bytes => IO.FS.writeBinFile path.text bytes

/-! ## Surroundings -/

/-- The time, taken from a file that is made for the purpose. -/
def readClock : IO Instant := do
  let stamp ← IO.FS.withTempFile fun _ path => return (← path.metadata).modified
  return { seconds := stamp.sec, nanos := stamp.nsec.toNat }

/-- The variables of this process. -/
def readEnvironment : IO Environment := do
  let block ← IO.FS.readBinFile "/proc/self/environ"
  return environmentOfBlock ((String.fromUTF8? block).getD "")

def readHost : IO Host := do
  let environment ← readEnvironment
  return {
    environment
    now := ← readClock
    stamp := { process := ← IO.rand 0 0xffffffff, sequence := 0 }
    runner := Shell.runner environment }

/-! ## Runs -/

/-- What is printed for a command line that is not carried out. -/
def usage : String := "Usage: warden [OPTIONS] <COMMAND>"

def runProgram (args : List String) : IO UInt32 := do
  match Invocation.parse args with
  | .error e =>
    if e.exitCode == 0 then IO.println usage else IO.eprintln usage
    return e.exitCode.toUInt32
  | .ok i =>
    let host ← readHost
    let mut disk : Disk := { tree := .empty, cwd := (Path.mk (← IO.currentDir).toString).names }
    for path in i.settingsPlaces host.environment do
      disk ← readPlace disk path
    for path in i.footprint host disk do
      disk ← readPlace disk path
    let (after, t) := i.run host disk
    for change in disk.tree.changes after.tree do
      carryOut change
    IO.print t.stdout
    IO.eprint t.stderr
    return t.exitCode.toUInt32

end AgentGovernance.Executable

/-- Runs the program on the arguments of a command line. -/
def main (args : List String) : IO UInt32 :=
  AgentGovernance.Executable.runProgram args
