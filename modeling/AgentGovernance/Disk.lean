-- SUMMARY: A file tree with a working directory, and the acts of reading and changing it.
import AgentGovernance.Act

/-!
# Disks

The world of the file-backed parts of the library: a tree of files and the directory that relative
paths start from.
-/

namespace AgentGovernance

/-- A file tree and a working directory. -/
structure Disk where
  tree : FileTree
  cwd : Place := []
  deriving Inhabited

namespace Disk

def has (d : Disk) (p : Path) : Bool := d.tree.has d.cwd p

def isDirectory (d : Disk) (p : Path) : Bool := d.tree.isDirectory d.cwd p

def readText (d : Disk) (p : Path) : Except FileError String := d.tree.readText d.cwd p

def canonicalize (d : Disk) (p : Path) : Except FileError Path := d.tree.canonicalize d.cwd p

def list (d : Disk) (p : Path) : Except FileError (List String) := d.tree.list d.cwd p

/-- Creates a directory and those above it. What was created before a failure stays. -/
def createDirectories (d : Disk) (p : Path) : Disk × Except FileError Unit :=
  let (tree, outcome) := d.tree.createDirectories d.cwd p
  ({ d with tree }, outcome)

/-- Writes a file, replacing what it held. -/
def writeFile (d : Disk) (p : Path) (bytes : ByteArray) : Except FileError Disk := do
  return { d with tree := ← d.tree.writeFile d.cwd p bytes }

/-- Adds to the end of a file, which is created if it is missing. -/
def appendFile (d : Disk) (p : Path) (bytes : ByteArray) : Except FileError Disk :=
  match d.tree.readBytes d.cwd p with
  | .ok before => d.writeFile p (before ++ bytes)
  | .error _ => d.writeFile p bytes

def removeFile (d : Disk) (p : Path) : Except FileError Disk := do
  return { d with tree := ← d.tree.removeFile d.cwd p }

end Disk

end AgentGovernance
