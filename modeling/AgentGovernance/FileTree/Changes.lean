-- SUMMARY: What has to be done to a file system to turn one tree into another.
import AgentGovernance.FileTree

/-!
# Changes of a tree

Two trees differ by files that are gone, directories that are new, and files that are new or hold
something else. Carried out in this order the changes turn the first tree into the second, as long
as no directory is gone.
-/

namespace AgentGovernance

/-- One change of a file system. -/
inductive FileChange where
  | remove (path : Path)
  | makeDirectory (path : Path)
  | write (path : Path) (bytes : ByteArray)

namespace FileTree

/-- The places of files that only the first tree has. -/
def lostFiles (before after : FileTree) : List Place :=
  before.entries.filterMap fun (place, n) => match n, after.node? place with
    | .file _, none => some place
    | _, _ => none

/-- The change at one place, if there is one. -/
def changeAt? (before : FileTree) : Place × Node → Option FileChange
  | (place, .directory) =>
    if before.isDirectoryAt place then none else some (.makeDirectory (.ofNames place))
  | (place, .file bytes) =>
    if before.node? place = some (.file bytes) then none else some (.write (.ofNames place) bytes)

/-- The changes that turn one tree into another, directories before what they hold. -/
def changes (before after : FileTree) : List FileChange :=
  (lostFiles before after).map (fun place => .remove (.ofNames place)) ++
    (after.entries.mergeSort fun a b => a.1.length ≤ b.1.length).filterMap (changeAt? before)

end FileTree

end AgentGovernance
